/-
Sides, amounts and times of trades.

A trade is sent with a size below zero if it is a sale. It is told as an amount and a
side, and nothing of the size is lost by that:

* `signedAmount_shown`: amount and side make up the size again;
* `isMinusZero_decimal_iff`: a size of zero has a minus only if it is sent as the text of a
  scaled numeral;
* `Timed`: where the time of a trade comes from, and `Late`: when there is none;
* `ofEntry_keeps_size_and_time` puts them together. A trade is a sale if its size is
  below zero, or such a zero.

The second case is real: `sells_nothing` names an entry whose size is zero and which is told
as a sale.
-/
import BookSync.Proofs.Binary64.Positional
import BookSync.Proofs.Decimal.Sign
import BookSync.Proofs.Json.Record
import BookSync.Proofs.Level
import BookSync.Proofs.Market.Entries
import BookSync.Proofs.Market.Window

namespace BookSync

open Json (Decoder)

/-! ### Sizes of zero -/

theorem decimalText_eq_ok_iff {s : String} {d : Decimal} :
    Decoder.decimalText s = .ok d ↔ Decimal.ofNumeral? (Text.trim s.toList) = some d := by
  rw [Decoder.decimalText, Decimal.ofText?]
  cases Decimal.ofNumeral? (Text.trim s.toList) <;> simp

/-- **Which values are read as a zero with a minus.** -/
theorem isMinusZero_decimal_iff {v : Json.Value} {d : Decimal}
    (h : Decoder.decimal v.toDraft = .ok d) :
    d.IsMinusZero ↔ ∃ s, v = .text s ∧ Decimal.Vanishes (Text.trim s.toList) := by
  cases v with
  | text s =>
    rw [Decimal.isMinusZero_iff_vanishes (decimalText_eq_ok_iff.mp h)]
    simp
  | number n =>
    refine iff_of_false ?_ (by simp)
    cases n with
    | integer n =>
      rw [Json.Value.toDraft, Decoder.decimal] at h
      split at h
      · rename_i hd
        obtain rfl := Except.ok.inj h
        exact Decimal.not_isMinusZero_of_ofCoeff? hd
      · simp at h
    | float x =>
      -- the text of a floating point number has no power of ten
      have hplain := x.plain_positional
      have hread := decimalText_eq_ok_iff.mp h
      rw [String.toList_ofList, trim_eq_self (.plain hplain), Decimal.ofNumeral?,
        Decimal.ofScaled?_eq_none hplain.not_isMark, Option.or_none] at hread
      exact Decimal.not_isMinusZero_of_ofPlain? hread
  | null | bool _ | array _ | object _ => simp [Json.Value.toDraft, Decoder.decimal] at h

namespace Trade

/-! ### Amounts -/

/-- The amount, below zero for a sale. -/
def signedAmount (t : Trade) : ℚ :=
  match t.side with
  | .buy => t.amount.value
  | .sell => -t.amount.value

section

variable {e : Envelope} {r : Entry} {t : Trade} {error : DecodeError}

/-- The trade of an entry, but for its time. -/
def shown (r : Entry) (timestamp : Millis) : Trade :=
  ⟨r.contract, if r.size.negative then .sell else .buy, r.size.abs, r.price, timestamp,
    r.id.text?.getD r.id.compact⟩

theorem ofEntry_eq : ofEntry e r = r.time e >>= fun timestamp => .ok (shown r timestamp) := rfl

theorem side_shown (timestamp : Millis) :
    (shown r timestamp).side = .sell ↔ r.size.negative = true := by
  rw [shown]
  cases r.size.negative <;> simp

theorem signedAmount_shown (timestamp : Millis) :
    (shown r timestamp).signedAmount = r.size.value := by
  have hvalue := Decimal.value_eq_sign r.size
  rw [← Decimal.value_abs] at hvalue
  rw [signedAmount, shown, hvalue]
  cases r.size.negative with
  | false => exact (one_mul _).symm
  | true => exact (neg_one_mul _).symm

/-! ### Times -/

/-- The time of an entry, in milliseconds. -/
inductive Timed (e : Envelope) (r : Entry) : ℕ → Prop
  | millis {ms : Millis} (h : r.createTimeMs = some ms) : Timed e r ms.toNat
  | seconds {secs : UInt64} (hms : r.createTimeMs = none) (h : r.createTime = some secs) :
      Timed e r (1000 * secs.toNat)
  | message (hms : r.createTimeMs = none) (h : r.createTime = none) :
      Timed e r e.timeMillis.toNat

/-- The only time of an entry is in seconds, and does not fit in milliseconds. -/
def Late (r : Entry) (secs : UInt64) : Prop :=
  r.createTimeMs = none ∧ r.createTime = some secs ∧ UInt64.size ≤ 1000 * secs.toNat

theorem timed_of_time {timestamp : Millis} (h : r.time e = .ok timestamp) :
    Timed e r timestamp.toNat := by
  rw [Entry.time] at h
  split at h
  · rename_i hms
    obtain rfl := Except.ok.inj h
    exact .millis hms
  · rename_i hms hsecs
    rw [(millis_eq_ok_iff.mp h).2]
    exact .seconds hms hsecs
  · rename_i hms hsecs
    obtain rfl := Except.ok.inj h
    exact .message hms hsecs

theorem time_eq_error_iff :
    r.time e = .error error ↔ ∃ secs, Late r secs ∧ error = .outOfRange "create_time" secs := by
  rw [Entry.time]
  split
  · rename_i hms
    simp [Late, hms]
  · rename_i secs hms hsecs
    rw [millis_eq_error_iff]
    simp [Late, hms, hsecs]
  · rename_i hms hsecs
    simp [Late, hsecs]

theorem ofEntry_eq_error_iff :
    ofEntry e r = .error error ↔ ∃ secs, Late r secs ∧ error = .outOfRange "create_time" secs := by
  rw [ofEntry_eq, bind_eq_error_iff, ← time_eq_error_iff (e := e)]
  simp

end

/-! ### Entries -/

/-- The size of an entry is read from what the value has for it. -/
theorem size_of_entry {v : Json.Value} {r : Entry} (h : readEntry entry v = .ok r) :
    ∃ w, v.FirstField "size" w ∧ Decoder.decimal w.toDraft = .ok r.size := by
  obtain ⟨given, missing, hbuild, hgiven⟩ :=
    Json.exists_given_of_record rfl (mapError_eq_ok h)
  -- the fields are taken off from the last to the first
  obtain ⟨_, _, h₅, -, rfl⟩ := Json.Fields.seq_build hbuild
  obtain ⟨_, _, h₄, -, rfl⟩ := Json.Fields.seq_build h₅
  obtain ⟨_, _, h₃, -, rfl⟩ := Json.Fields.seq_build h₄
  obtain ⟨_, _, h₂, -, rfl⟩ := Json.Fields.seq_build h₃
  obtain ⟨_, _, h₁, -, rfl⟩ := Json.Fields.seq_build h₂
  obtain ⟨_, hrequired, rfl⟩ := Json.Fields.map_build h₁
  obtain ⟨d, hd, hsize⟩ := Json.Fields.required_build hrequired
  obtain ⟨w, hw, rfl⟩ := hgiven d hd
  exact ⟨w, hw, hsize⟩

/-- **A trade keeps the size and the time of its entry.** The amount is not below zero, and
with the side it makes up the size. A trade is a sale if its size is below zero or has been
sent as the text of a scaled numeral that vanishes. An entry is refused for its time alone, if
that is in seconds and does not fit in milliseconds. -/
theorem ofEntry_keeps_size_and_time (e : Envelope) {v : Json.Value} {r : Entry}
    (h : readEntry entry v = .ok r) :
    (∀ t, ofEntry e r = .ok t →
      0 ≤ t.amount.value ∧ t.signedAmount = r.size.value ∧ Timed e r t.timestamp.toNat ∧
      ∃ w, v.FirstField "size" w ∧ Decoder.decimal w.toDraft = .ok r.size ∧
        (t.side = .sell ↔ r.size.value < 0 ∨
          ∃ s, w = .text s ∧ Decimal.Vanishes (Text.trim s.toList))) ∧
    ((∃ t, ofEntry e r = .ok t) ↔ ∀ secs, ¬ Late r secs) ∧
    ∀ error, ofEntry e r = .error error ↔
      ∃ secs, Late r secs ∧ error = .outOfRange "create_time" secs := by
  refine ⟨fun t ht => ?_, ?_, fun error => ofEntry_eq_error_iff⟩
  · rw [ofEntry_eq] at ht
    obtain ⟨timestamp, htime, ht⟩ := bind_eq_ok ht
    obtain rfl := Except.ok.inj ht
    obtain ⟨w, hw, hsize⟩ := size_of_entry h
    refine ⟨r.size.value_abs_nonneg, signedAmount_shown timestamp, timed_of_time htime,
      w, hw, hsize, ?_⟩
    rw [side_shown, Decimal.negative_iff, isMinusZero_decimal_iff hsize]
  · cases hr : ofEntry e r with
    | ok t =>
      refine iff_of_true ⟨t, rfl⟩ fun secs hlate => ?_
      have herror := (ofEntry_eq_error_iff (e := e)).mpr ⟨secs, hlate, rfl⟩
      exact absurd (hr.symm.trans herror) (by simp)
    | error error =>
      obtain ⟨secs, hlate, -⟩ := ofEntry_eq_error_iff.mp hr
      exact iff_of_false (by simp) fun hno => hno secs hlate

/-- An entry with the text of a size, and a time in seconds. -/
def tradeValue (size : String) (secs : ℕ) : Json.Value :=
  .object [("contract", .text "X"), ("create_time", .number (.integer secs)),
    ("id", .number (.integer 1)), ("price", .text "1"), ("size", .text size)]

/-- What such an entry is read as. -/
def tradeEntry (size : Decimal) (secs : UInt64) : Entry :=
  ⟨size, .number (.integer 1), some secs, none, .ofCoeff 1 0, "X"⟩

/-- A sale, and an entry whose seconds do not fit in milliseconds. -/
theorem ofEntry_keeps_size_and_time_sale :
    (∃ r t, readEntry entry (tradeValue "-2.50" 1615366400) = .ok r ∧
      ofEntry tradeMessage r = .ok t ∧ t.side = .sell ∧ 0 ≤ t.amount.value ∧
        t.signedAmount = -5 / 2) ∧
    ∃ r, readEntry entry (tradeValue "1" 18446744073709552) = .ok r ∧
      ofEntry tradeMessage r = .error (.outOfRange "create_time" 18446744073709552) := by
  constructor
  · have hread : readEntry entry (tradeValue "-2.50" 1615366400) =
        .ok (tradeEntry (.ofCoeff (-250) 2) 1615366400) := by
      with_unfolding_all rfl
    have hsize : (Decimal.ofCoeff (-250) 2).value = -5 / 2 := by decide +kernel
    obtain ⟨hkeeps, haccepted, -⟩ := ofEntry_keeps_size_and_time tradeMessage hread
    obtain ⟨t, ht⟩ := haccepted.mpr fun secs hlate => by
      obtain rfl := Option.some_inj.mp hlate.2.1
      exact absurd hlate.2.2 (by decide)
    obtain ⟨hamount, hsigned, -, w, -, -, hside⟩ := hkeeps t ht
    have hneg : (Decimal.ofCoeff (-250) 2).value < 0 := by
      rw [hsize]
      norm_num
    exact ⟨_, t, hread, ht, hside.mpr (Or.inl hneg), hamount, hsigned.trans hsize⟩
  · have hread : readEntry entry (tradeValue "1" 18446744073709552) =
        .ok (tradeEntry (.ofCoeff 1 0) 18446744073709552) := by
      with_unfolding_all rfl
    obtain ⟨-, -, hrefused⟩ := ofEntry_keeps_size_and_time tradeMessage hread
    exact ⟨_, hread, (hrefused _).mpr ⟨_, ⟨rfl, rfl, by decide⟩, rfl⟩⟩

/-- **A sale of nothing.** A size that is rounded to zero is told as a sale if it is sent
with a power of ten, and as a purchase if the same number is sent without one. -/
theorem sells_nothing :
    (∃ r t, readEntry entry (tradeValue "-0.4e-28" 1) = .ok r ∧ ofEntry tradeMessage r = .ok t ∧
      t.side = .sell ∧ ¬ r.size.value < 0) ∧
    ∃ r t, readEntry entry (tradeValue "-0.00000000000000000000000000004" 1) = .ok r ∧
      ofEntry tradeMessage r = .ok t ∧ t.side = .buy ∧ ¬ r.size.value < 0 := by
  have hzero : ¬ (Decimal.ofCoeff 0 28).value < 0 := by decide +kernel
  have hminus : ¬ (Decimal.ofCoeff 0 28).neg.value < 0 := by decide +kernel
  have hread : readEntry entry (tradeValue "-0.4e-28" 1) =
      .ok (tradeEntry (Decimal.ofCoeff 0 28).neg 1) := by
    with_unfolding_all rfl
  have hread' : readEntry entry (tradeValue "-0.00000000000000000000000000004" 1) =
      .ok (tradeEntry (.ofCoeff 0 28) 1) := by
    with_unfolding_all rfl
  exact ⟨⟨_, _, hread, rfl, rfl, hminus⟩, _, _, hread', rfl, rfl, hzero⟩

end Trade

end BookSync
