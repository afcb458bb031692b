/-
Answers of the venue to requests.

An answer with a status from 200 to 299 is decoded. Status 429 asks to wait,
and may say how long. Any other status is an error, which the body may describe
as an object with texts.

* **`Response.decode`** makes data or an error of an answer;
* **`Reply.decode`** also knows that there may be no answer at all.
-/
import BookSync.Error
import BookSync.Json.Reader
import BookSync.Text.Utf8

namespace BookSync

/-- An answer to a request. -/
structure Response where
  status : Nat
  /-- Names and values, in the order of the answer. -/
  headers : List (String × String)
  /-- The body, unless it broke off. -/
  body : Option (List UInt8)

/-- What comes of a request. -/
inductive Reply
  | unreachable
  | answered (response : Response)

namespace Response

/-- The first header of a name; the case of letters does not matter. -/
def header? (r : Response) (name : String) : Option String :=
  (r.headers.find? fun h => h.1.toLower = name.toLower).map (·.2)

/-- The body as a text. -/
def text? (r : Response) : Option String := r.body.map fun bs => String.ofList (Text.utf8Decode bs)

/-- How many seconds to wait, if that is a number of 64 bits. -/
def retryAfter (r : Response) : Option UInt64 := do
  let n ← Decimal.count? (← r.header? "retry-after").toList
  if n < UInt64.size then return UInt64.ofNat n else none

/-- The text of a field in the body of an error. -/
def describedBy? (body name : String) : Option String := do
  ((← (Json.Value.ofText? body).toOption).get? name).bind Json.Value.text?

/-- The error that a status and a body stand for. -/
def errorOf (status : Nat) (body : String) : FetchError :=
  let label := describedBy? body "label"
  let message := (describedBy? body "message").or ((describedBy? body "detail").or label)
  .status status label (message.getD body)

/-- The status is one of success. -/
def isSuccess (r : Response) : Bool := 200 ≤ r.status && r.status < 300

/-- The data in an answer. A body that broke off is no answer, but the error
status above it still counts. -/
def decode {α : Type} (read : String → Except DecodeError α) (r : Response) :
    Except FetchError α :=
  if r.status = 429 then .error (.rateLimited r.retryAfter)
  else if r.isSuccess then
    match r.text? with
    | some body => (read body).mapError .malformed
    | none => .error .transport
  else .error (errorOf r.status (r.text?.getD ""))

end Response

/-- The data in a reply. -/
def Reply.decode {α : Type} (read : String → Except DecodeError α) : Reply → Except FetchError α
  | unreachable => .error .transport
  | answered r => r.decode read

end BookSync
