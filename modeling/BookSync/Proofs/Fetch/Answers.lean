/-
What comes of an answer.

The status of an answer decides what it is, a header how long to wait, and the body how
an error is told. Each of them is described here without a word on how it is looked for:

* `Describes`, `Message`: what the body of an error says, member by member, and the text
  that the error gets of it;
* `FirstHeader`, `AsksToWait`: a wait of so many seconds;
* `decode_of_success`, `decode_of_limit`, `decode_of_refusal`: an answer by its status;
* `status?_of_decode_eq_error`, `blame_of_decode_eq_error`: what an error tells of it;
* `decode_classifies`: all of this for every answer with a whole body, and the status that
  can be told from an error.
-/
import BookSync.Proofs.Decimal.Written
import BookSync.Proofs.Fetch.Failure
import BookSync.Proofs.Json.Object
import BookSync.Proofs.Text.Utf8

namespace BookSync.Response

/-! ### The body of an error -/

/-- The body is the text of an object, and its member of this name is the text `t`. -/
def Describes (body name t : String) : Prop :=
  ∃ members, Json.Value.ofText? body = .ok (.object members) ∧ (name, .text t) ∈ members

theorem describedBy?_eq_some_iff {body name t : String} :
    describedBy? body name = some t ↔ Describes body name t := by
  rw [describedBy?, Describes]
  cases hv : Json.Value.ofText? body with
  | error fault => simp [Except.toOption]
  | ok v =>
    show (v.get? name).bind Json.Value.text? = some t ↔ _
    rw [Option.bind_eq_some_iff]
    constructor
    · rintro ⟨w, hw, ht⟩
      obtain ⟨members, rfl, hmem⟩ := (Json.Value.get?_eq_some_iff hv).mp hw
      cases w with
      | text s =>
        obtain rfl := Option.some_inj.mp ht
        exact ⟨members, rfl, hmem⟩
      | _ => exact nomatch ht
    · rintro ⟨members, hsame, hmem⟩
      obtain rfl := Except.ok.inj hsame
      exact ⟨.text t, (Json.Value.get?_eq_some_iff hv).mpr ⟨members, rfl, hmem⟩, rfl⟩

/-- The message that the body of an error gives: the first text among three members, or
the body itself if there is none. -/
inductive Message (body : String) : String → Prop
  | message {t : String} (h : Describes body "message" t) : Message body t
  | detail {t : String} (hmessage : ∀ s, ¬ Describes body "message" s)
      (h : Describes body "detail" t) : Message body t
  | label {t : String} (hmessage : ∀ s, ¬ Describes body "message" s)
      (hdetail : ∀ s, ¬ Describes body "detail" s) (h : Describes body "label" t) :
      Message body t
  | body (hmessage : ∀ s, ¬ Describes body "message" s)
      (hdetail : ∀ s, ¬ Describes body "detail" s) (hlabel : ∀ s, ¬ Describes body "label" s) :
      Message body body

theorem describedBy?_eq_none_iff {body name : String} :
    describedBy? body name = none ↔ ∀ s, ¬ Describes body name s := by
  simp only [Option.eq_none_iff_forall_ne_some, ne_eq, describedBy?_eq_some_iff]

/-- An error is told as its body tells it. -/
theorem errorOf_describes (status : ℕ) (body : String) :
    ∃ label message, errorOf status body = .status status label message ∧
      (∀ t, label = some t ↔ Describes body "label" t) ∧ Message body message := by
  refine ⟨_, _, rfl, fun t => describedBy?_eq_some_iff, ?_⟩
  -- a member is looked at only if those before it are missing
  cases hmessage : describedBy? body "message" with
  | some t => exact .message (describedBy?_eq_some_iff.mp hmessage)
  | none =>
    rw [Option.none_or]
    have hmessage := describedBy?_eq_none_iff.mp hmessage
    cases hdetail : describedBy? body "detail" with
    | some t => exact .detail hmessage (describedBy?_eq_some_iff.mp hdetail)
    | none =>
      rw [Option.none_or]
      have hdetail := describedBy?_eq_none_iff.mp hdetail
      cases hlabel : describedBy? body "label" with
      | some t => exact .label hmessage hdetail (describedBy?_eq_some_iff.mp hlabel)
      | none => exact .body hmessage hdetail (describedBy?_eq_none_iff.mp hlabel)

/-! ### The wait -/

/-- The first header of this name has this value; the case of letters does not matter. -/
def FirstHeader (headers : List (String × String)) (name value : String) : Prop :=
  ∃ before key after, headers = before ++ (key, value) :: after ∧ key.toLower = name.toLower ∧
    ∀ h ∈ before, h.1.toLower ≠ name.toLower

variable {r : Response}

theorem header?_eq_some_iff {name value : String} :
    r.header? name = some value ↔ FirstHeader r.headers name value := by
  rw [header?, Option.map_eq_some_iff, FirstHeader]
  constructor
  · rintro ⟨⟨key, value⟩, hfind, rfl⟩
    obtain ⟨hkey, before, after, hheaders, hbefore⟩ := List.find?_eq_some_iff_append.mp hfind
    exact ⟨before, key, after, hheaders, of_decide_eq_true hkey, fun h hh => by
      simpa using hbefore h hh⟩
  · rintro ⟨before, key, after, hheaders, hkey, hbefore⟩
    refine ⟨(key, value), List.find?_eq_some_iff_append.mpr
      ⟨decide_eq_true hkey, before, after, hheaders, fun h hh => ?_⟩, rfl⟩
    simpa using hbefore h hh

/-- The answer asks to wait for `n` seconds: its header for that is a numeral. -/
def AsksToWait (r : Response) (n : UInt64) : Prop :=
  ∃ value, FirstHeader r.headers "retry-after" value ∧ Decimal.Count value.toList n.toNat

theorem retryAfter_eq_some_iff {n : UInt64} : r.retryAfter = some n ↔ r.AsksToWait n := by
  show ((r.header? "retry-after").bind fun value => (Decimal.count? value.toList).bind fun m =>
    if m < UInt64.size then some (UInt64.ofNat m) else none) = some n ↔ _
  simp only [Option.bind_eq_some_iff, header?_eq_some_iff, Decimal.count?_eq_some_iff]
  constructor
  · rintro ⟨value, hvalue, m, hm, hn⟩
    split at hn
    · rename_i hlt
      obtain rfl := Option.some_inj.mp hn
      rw [← UInt64.toNat_ofNat_of_lt' hlt] at hm
      exact ⟨value, hvalue, hm⟩
    · exact nomatch hn
  · rintro ⟨value, hvalue, hn⟩
    refine ⟨value, hvalue, n.toNat, hn, ?_⟩
    rw [if_pos n.toNat_lt, UInt64.ofNat_toNat]

/-! ### Answers by their status -/

section

variable {α : Type} {read : String → Except DecodeError α}

theorem isSuccess_iff : r.isSuccess = true ↔ 200 ≤ r.status ∧ r.status < 300 := by
  rw [isSuccess, Bool.and_eq_true, decide_eq_true_iff, decide_eq_true_iff]

theorem decode_of_success {body : String} (hstatus : r.isSuccess = true)
    (hbody : r.text? = some body) : r.decode read = (read body).mapError .malformed := by
  rw [decode, if_neg (ne_limit_of_isSuccess hstatus), if_pos hstatus, hbody]

theorem decode_of_limit (h : r.status = 429) :
    r.decode read = .error (.rateLimited r.retryAfter) := if_pos h

theorem decode_of_refusal {body : String} (hlimit : r.status ≠ 429)
    (hstatus : ¬ r.isSuccess = true) (hbody : r.text? = some body) :
    r.decode read = .error (errorOf r.status body) := by
  rw [decode, if_neg hlimit, if_neg hstatus, hbody]
  rfl

/-- An answer succeeds if its status is one of success and its body can be read. -/
theorem decode_eq_ok_iff {body : String} (hbody : r.text? = some body) {a : α} :
    r.decode read = .ok a ↔ r.isSuccess = true ∧ read body = .ok a := by
  by_cases hstatus : r.isSuccess = true
  · rw [decode_of_success hstatus hbody]
    constructor
    · exact fun h => ⟨hstatus, mapError_eq_ok h⟩
    · rintro ⟨-, ha⟩
      rw [ha]
      rfl
  · refine iff_of_false (fun h => ?_) fun h => hstatus h.1
    by_cases hlimit : r.status = 429
    · exact nomatch (decode_of_limit hlimit).symm.trans h
    · exact nomatch (decode_of_refusal hlimit hstatus hbody).symm.trans h

/-- The status that an error tells is that of the answer, unless it was one of success. -/
theorem status?_of_decode_eq_error {body : String} (hbody : r.text? = some body) {e : FetchError}
    (h : r.decode read = .error e) :
    e.status? = if r.isSuccess = true then none else some r.status := by
  have hfails : Reply.Fails read (.answered r) e := Reply.decode_eq_error_iff.mp h
  cases hfails with
  | limited hlimit =>
    rw [if_neg fun hstatus => ne_limit_of_isSuccess hstatus hlimit, hlimit]
    rfl
  | refused _ hstatus =>
    rw [if_neg hstatus]
    rfl
  | brokenOff _ hnone => exact absurd (hbody.symm.trans hnone) (by simp)
  | unreadable hstatus =>
    rw [if_pos hstatus]
    rfl

/-- Who is to blame for an error is told by the status of the answer. -/
theorem blame_of_decode_eq_error {body : String} (hbody : r.text? = some body) {e : FetchError}
    (h : r.decode read = .error e) :
    (e.isClientError = true ↔ 400 ≤ r.status ∧ r.status < 500) ∧
      (e.isServerError = true ↔ 500 ≤ r.status ∧ r.status < 600) := by
  have hcode := status?_of_decode_eq_error hbody h
  rw [FetchError.isClientError, FetchError.isServerError, hcode]
  by_cases hstatus : r.isSuccess = true
  · obtain ⟨hlo, hhi⟩ := isSuccess_iff.mp hstatus
    rw [if_pos hstatus]
    exact ⟨iff_of_false Bool.false_ne_true (by omega), iff_of_false Bool.false_ne_true (by omega)⟩
  · rw [if_neg hstatus]
    exact ⟨by simp, by simp⟩

end

/-- **Every answer is classified, and faithfully.** An answer with a whole body succeeds if
its status is one of success and its body can be read; a body that cannot be read is
malformed. Status 429 is a limit on requests, with a wait if the answer asks for one. Any
other status is an error of this status, told as the body tells it. So the status of an
answer that is no success can be told from its error, and who is to blame. A body of
characters in UTF-8 is the text of these characters. -/
theorem decode_classifies {α : Type} (read : String → Except DecodeError α) {r : Response}
    {bytes : List UInt8} (hbody : r.body = some bytes) :
    let body := String.ofList (Text.utf8Decode bytes)
    let success := 200 ≤ r.status ∧ r.status < 300
    (∀ a, r.decode read = .ok a ↔ success ∧ read body = .ok a) ∧
    (success → ∀ cause, read body = .error cause →
      r.decode read = .error (.malformed cause)) ∧
    (r.status = 429 → ∃ wait, r.decode read = .error (.rateLimited wait) ∧
      ∀ n, wait = some n ↔ r.AsksToWait n) ∧
    (¬ success → r.status ≠ 429 → ∃ label message,
      r.decode read = .error (.status r.status label message) ∧
      (∀ t, label = some t ↔ Describes body "label" t) ∧ Message body message) ∧
    (∀ e, r.decode read = .error e →
      (success → e.status? = none) ∧ (¬ success → e.status? = some r.status) ∧
      (e.isClientError = true ↔ 400 ≤ r.status ∧ r.status < 500) ∧
      (e.isServerError = true ↔ 500 ≤ r.status ∧ r.status < 600)) ∧
    ∀ cs, bytes = Text.utf8Encode cs → body = String.ofList cs := by
  intro body success
  have htext : r.text? = some body := by
    rw [text?, hbody]
    rfl
  have hsuccess : r.isSuccess = true ↔ success := isSuccess_iff
  refine ⟨fun a => ?_, fun hstatus cause hcause => ?_,
    fun hlimit => ⟨r.retryAfter, decode_of_limit hlimit, fun n => retryAfter_eq_some_iff⟩,
    fun hstatus hlimit => ?_, fun e he => ?_, fun cs hbytes => ?_⟩
  · rw [← hsuccess]
    exact decode_eq_ok_iff htext
  · rw [decode_of_success (hsuccess.mpr hstatus) htext, hcause]
    rfl
  · rw [decode_of_refusal hlimit (mt hsuccess.mp hstatus) htext]
    obtain ⟨label, message, herror, hlabel, hmessage⟩ := errorOf_describes r.status body
    exact ⟨label, message, congrArg Except.error herror, hlabel, hmessage⟩
  · rw [← hsuccess, status?_of_decode_eq_error htext he]
    exact ⟨fun h => if_pos h, fun h => if_neg h, blame_of_decode_eq_error htext he⟩
  · show String.ofList (Text.utf8Decode bytes) = _
    rw [hbytes, Text.decode_encode]

/-- The body of an error that only says what it is called. -/
def labelText : String := "\x7b\"label\":\"NOT_FOUND\"\x7d"

/-- An answer with such a body. -/
def labelled : Response :=
  ⟨404, [("Content-Type", "application/json")], some (Text.utf8Encode labelText.toList)⟩

theorem ofText?_labelText :
    Json.Value.ofText? labelText = .ok (.object [("label", .text "NOT_FOUND")]) := by
  have hchars : labelText.toList = ['\x7b', '"', 'l', 'a', 'b', 'e', 'l', '"', ':', '"', 'N', 'O',
      'T', '_', 'F', 'O', 'U', 'N', 'D', '"', '\x7d'] := by simp [labelText]
  rw [Json.Value.ofText?, Json.ofText?, hchars]
  rfl

/-- What the error is called is also its message. -/
theorem decode_classifies_labelled :
    labelled.body = some (Text.utf8Encode labelText.toList) ∧
      labelled.decode BookSnapshot.parse =
        .error (.status 404 (some "NOT_FOUND") "NOT_FOUND") := by
  have hdescribes (name t : String) :
      Describes labelText name t ↔ name = "label" ∧ t = "NOT_FOUND" := by
    rw [Describes, ofText?_labelText]
    simp [eq_comm]
  obtain ⟨-, -, -, hrefused, -, htext⟩ := decode_classifies BookSnapshot.parse
    (show labelled.body = some (Text.utf8Encode labelText.toList) from rfl)
  obtain ⟨label, message, herror, hlabel, hmessage⟩ := hrefused (by decide) (by decide)
  rw [htext _ rfl, String.ofList_toList] at hlabel hmessage
  refine ⟨rfl, ?_⟩
  have hname : label = some "NOT_FOUND" := (hlabel _).mpr ((hdescribes _ _).mpr ⟨rfl, rfl⟩)
  have htold : message = "NOT_FOUND" := by
    cases hmessage with
    | message h => exact absurd ((hdescribes _ _).mp h).1 (by decide)
    | detail _ h => exact absurd ((hdescribes _ _).mp h).1 (by decide)
    | label _ _ h => exact ((hdescribes _ _).mp h).2
    | body _ _ hnone => exact absurd ((hdescribes _ _).mpr ⟨rfl, rfl⟩) (hnone "NOT_FOUND")
  rw [herror, hname, htold]
  rfl

end BookSync.Response
