/-
What can go wrong.

A `DecodeError` is a message that cannot be turned into typed data, a
`FetchError` a snapshot that could not be had, and `Error` either of them or a
bad configuration. A gap in a sequence is not an error: it is an outcome of
applying a batch.
-/
import BookSync.Json.Fault
import BookSync.Decimal.Basic
import BookSync.Url.Fault

namespace BookSync

/-- A message that could not be decoded. -/
inductive DecodeError
  /-- Not the JSON that was expected. -/
  | json (fault : Json.Fault)
  /-- A field that does not hold a decimal number. -/
  | invalidDecimal (field text : String)
  /-- A level with a size below zero. -/
  | negativeSize (size price : Decimal)
  /-- A batch that ends before it starts. -/
  | invertedRange (first last : UInt64)
  /-- A message without payload. -/
  | missingResult (channel : String)
  /-- A candle that does not name a known interval. -/
  | unknownInterval (name : String)
  /-- A time that does not fit when it is counted in milliseconds. -/
  | outOfRange (field : String) (value : UInt64)

/-- The message of a decoding error. -/
def DecodeError.message : DecodeError → String
  | .json fault => "invalid JSON: " ++ fault.message
  | .invalidDecimal field text => s!"invalid decimal in `{field}`: " ++ Text.quoted text
  | .negativeSize size price => s!"negative size {size} at price {price}"
  | .invertedRange first last => s!"inverted sequence range U={first} > u={last}"
  | .missingResult channel => s!"message on `{channel}` has no result payload"
  | .unknownInterval name => "unknown candle interval " ++ Text.quoted name
  | .outOfRange field value => s!"`{field}` out of range: {value}"

/-- A snapshot that could not be fetched. -/
inductive FetchError
  /-- No complete answer came back. -/
  | transport
  /-- The venue answered with an error status. -/
  | status (code : Nat) (label : Option String) (message : String)
  /-- Too many requests; the venue may say how many seconds to wait. -/
  | rateLimited (retryAfter : Option UInt64)
  /-- The answer was not a snapshot. -/
  | malformed (cause : DecodeError)
  /-- The address of the request could not be built. -/
  | url (cause : Url.Fault)

namespace FetchError

/-- The message of a fetch error. -/
def message : FetchError → String
  | transport => "HTTP error"
  | status code _ message => s!"API error ({code}): {message}"
  | rateLimited (some secs) => s!"rate limited, retry after {secs}s"
  | rateLimited none => "rate limited"
  | malformed cause => "malformed snapshot payload: " ++ cause.message
  | url cause => "invalid request URL: " ++ cause.message

/-- The status that the venue answered with, if it is an error status. -/
def status? : FetchError → Option Nat
  | status code _ _ => some code
  | rateLimited _ => some 429
  | _ => none

/-- The venue puts the blame on the request. -/
def isClientError (e : FetchError) : Bool :=
  e.status?.any fun code => 400 ≤ code && code < 500

/-- The venue puts the blame on itself. -/
def isServerError (e : FetchError) : Bool :=
  e.status?.any fun code => 500 ≤ code && code < 600

end FetchError

/-- Any error of this library. -/
inductive Error
  | decode (cause : DecodeError)
  | fetch (cause : FetchError)
  | config (message : String)

/-- The message of an error. -/
def Error.message : Error → String
  | .decode cause => "parse error: " ++ cause.message
  | .fetch cause => "snapshot fetch failed: " ++ cause.message
  | .config message => "configuration error: " ++ message

end BookSync
