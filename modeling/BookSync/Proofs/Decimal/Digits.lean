/-
Digits that are written.

The digits of a number, written one behind the other, are a numeral, and so are they
with a point among them. The number of such a numeral is known from how it was
written:

* `digits_toDigits`, `numberOf_toDigits`: the digits of a number denote it;
* `digits_digits`, `numberOf_digits`: zeros in front of them change nothing;
* `Row`: digits with a point among them or without one, their number and their
  places; `Row.unsigned`, `Row.magnitudeOf_eq`: they are a numeral, and which one.
-/
import BookSync.Proofs.Decimal.Written
import Mathlib.Tactic.IntervalCases

namespace BookSync.Decimal

/-! ### Characters -/

theorem isSome_digit?_iff {c : Char} : (digit? c).isSome = true ↔ c.isDigit = true := by
  have hdigit : c.isDigit = true ↔ '0' ≤ c ∧ c ≤ '9' := by
    simp [Char.isDigit, Char.le_def]
  rw [digit?, hdigit]
  split
  · rename_i h
    simp [h]
  · rename_i h
    simp [h]

theorem toNat_of_isSome {c : Char} (h : (digit? c).isSome = true) :
    48 ≤ c.toNat ∧ c.toNat ≤ 57 := by
  have hdigit := isSome_digit?_iff.mp h
  simpa [Char.isDigit, UInt32.le_iff_toNat_le] using hdigit

theorem digit?_eq_of_isSome {c : Char} (h : (digit? c).isSome = true) :
    digit? c = some (c.toNat - '0'.toNat) := by
  rw [digit?] at h ⊢
  split at h
  · rename_i hc
    rw [if_pos hc]
  · simp at h

theorem digit?_digitChar {d : ℕ} (h : d < 10) : digit? (Nat.digitChar d) = some d := by
  interval_cases d <;> rfl

/-! ### Digits in a row -/

theorem le_foldl_push (n : ℕ) (ds : List ℕ) : n ≤ ds.foldl push n := by
  rw [foldl_push]
  have hpow : 0 < 10 ^ ds.length := Nat.pow_pos (by decide)
  exact (Nat.le_mul_of_pos_right n hpow).trans (Nat.le_add_right _ _)

section

variable {cs ds : List Char}

theorem digitsOf_append : digitsOf (cs ++ ds) = digitsOf cs ++ digitsOf ds :=
  List.filterMap_append

theorem length_digitsOf (h : ∀ c ∈ cs, (digit? c).isSome) : (digitsOf cs).length = cs.length := by
  induction cs with
  | nil => rfl
  | cons c cs ih =>
    obtain ⟨hc, hrest⟩ := List.forall_mem_cons.mp h
    obtain ⟨d, hd⟩ := Option.isSome_iff_exists.mp hc
    rw [digitsOf_cons, hd, Option.toList_some, List.singleton_append, List.length_cons,
      ih hrest, List.length_cons]

theorem digitsOf_map_digitChar {ns : List ℕ} (h : ∀ n ∈ ns, n < 10) :
    digitsOf (ns.map Nat.digitChar) = ns := by
  induction ns with
  | nil => rfl
  | cons n ns ih =>
    obtain ⟨hn, hrest⟩ := List.forall_mem_cons.mp h
    rw [List.map_cons, digitsOf_cons, digit?_digitChar hn, ih hrest, Option.toList_some,
      List.singleton_append]

theorem foldl_push_digitsOf (h : ∀ c ∈ cs, (digit? c).isSome) (n : ℕ) :
    (digitsOf cs).foldl push n = Nat.ofDigitChars 10 cs n := by
  induction cs generalizing n with
  | nil => simp [digitsOf]
  | cons c cs ih =>
    obtain ⟨hc, hrest⟩ := List.forall_mem_cons.mp h
    rw [digitsOf_cons, digit?_eq_of_isSome hc, Option.toList_some, List.singleton_append,
      List.foldl_cons, ih hrest, Nat.ofDigitChars_cons, push, Nat.mul_comm]

theorem numberOf_eq (h : ∀ c ∈ cs, (digit? c).isSome) : numberOf cs = Nat.ofDigitChars 10 cs 0 := by
  rw [numberOf, ← foldl_push_zero, foldl_push_digitsOf h]

theorem digits_toDigits (n : ℕ) : Digits (Nat.toDigits 10 n) :=
  ⟨Nat.toDigits_ne_nil, fun _ hc => isSome_digit?_iff.mpr
    (Nat.isDigit_of_mem_toDigits (by decide) (by decide) hc)⟩

theorem numberOf_toDigits (n : ℕ) : numberOf (Nat.toDigits 10 n) = n := by
  rw [numberOf_eq (digits_toDigits n).chars, Nat.ofDigitChars_ten_toDigits]

end

/-! ### A fixed number of digits -/

section

variable (n width : ℕ)

theorem digits_digits : Digits (digits n width) := by
  have hrow := digits_toDigits n
  constructor
  · intro h
    exact hrow.ne_nil (List.append_eq_nil_iff.mp h).2
  · intro c hc
    rcases List.mem_append.mp hc with hzero | hrest
    · rw [List.eq_of_mem_replicate hzero]
      rfl
    · exact hrow.chars c hrest

theorem numberOf_digits : numberOf (digits n width) = n := by
  rw [numberOf_eq (digits_digits n width).chars, digits, Nat.ofDigitChars_append,
    Nat.ofDigitChars_replicate_zero, Nat.mul_zero, Nat.ofDigitChars_ten_toDigits]

theorem le_length_digits : width ≤ (digits n width).length := by
  rw [digits, List.length_append, List.length_replicate]
  omega

end

/-! ### Numerals -/

/-- How many digits of an unsigned numeral stand behind its point. -/
def placesOf (cs : List Char) : ℕ := (digitsOf (cs.dropWhile (· ≠ '.'))).length

theorem magnitudeOf_eq (cs : List Char) : magnitudeOf cs = numberOf cs / 10 ^ placesOf cs := rfl

section

variable {whole fraction : List Char}

theorem ne_point_of_isSome {c : Char} (h : (digit? c).isSome = true) : c ≠ '.' := by
  rintro rfl
  exact absurd h (by decide)

theorem count_point_eq_zero (h : ∀ c ∈ whole, (digit? c).isSome) : whole.count '.' = 0 := by
  rw [List.count_eq_zero]
  intro hmem
  exact ne_point_of_isSome (h _ hmem) rfl

theorem digitsOf_ne_nil (h : Digits whole) : digitsOf whole ≠ [] := by
  intro hnil
  have hlength := length_digitsOf h.chars
  rw [hnil, List.length_nil] at hlength
  exact h.ne_nil (List.eq_nil_of_length_eq_zero hlength.symm)

/-- Nothing but a digit stands in front. -/
theorem takeWhile_isNone_eq_nil (h : Digits whole) (rest : List Char) :
    (whole ++ rest).takeWhile (fun c => (digit? c).isNone) = [] := by
  cases whole with
  | nil => exact absurd rfl h.ne_nil
  | cons c cs =>
    obtain ⟨d, hd⟩ := Option.isSome_iff_exists.mp (h.chars c List.mem_cons_self)
    rw [List.cons_append, List.takeWhile_cons, hd]
    rfl

/-- Digits, with a point among them or without one. -/
inductive Row : List Char → ℕ → ℕ → Prop
  | whole {cs : List Char} (h : Digits cs) : Row cs (numberOf cs) 0
  | pointed {whole fraction : List Char} (hwhole : Digits whole)
      (hfraction : ∀ c ∈ fraction, (digit? c).isSome) :
      Row (whole ++ '.' :: fraction) (numberOf (whole ++ fraction)) fraction.length

/-- Digits that are cut in front of the last `places`. -/
theorem row_cut {ds : List Char} {places : ℕ} (h : Digits ds) (hplaces : places < ds.length) :
    Row (ds.take (ds.length - places) ++ '.' :: ds.drop (ds.length - places))
      (numberOf ds) places := by
  have hwhole : Digits (ds.take (ds.length - places)) := by
    refine ⟨fun hnil => ?_, fun c hc => h.chars c (List.mem_of_mem_take hc)⟩
    have htake := congrArg List.length hnil
    rw [List.length_take, List.length_nil] at htake
    omega
  have hlength : (ds.drop (ds.length - places)).length = places := by
    rw [List.length_drop]
    omega
  have hfraction : ∀ c ∈ ds.drop (ds.length - places), (digit? c).isSome :=
    fun c hc => h.chars c (List.mem_of_mem_drop hc)
  have hrow := Row.pointed hwhole hfraction
  rwa [List.take_append_drop, hlength] at hrow

end

namespace Row

variable {cs : List Char} {n places : ℕ}

theorem chars (h : Row cs n places) : ∀ c ∈ cs, (digit? c).isSome ∨ c = '.' := by
  cases h with
  | whole h => exact fun c hc => Or.inl (h.chars c hc)
  | pointed hwhole hfraction =>
    intro c hc
    rcases List.mem_append.mp hc with hmem | hmem
    · exact Or.inl (hwhole.chars c hmem)
    · rcases List.mem_cons.mp hmem with rfl | hmem
      · exact Or.inr rfl
      · exact Or.inl (hfraction c hmem)

theorem unsigned (h : Row cs n places) : Unsigned cs := by
  refine ⟨fun c hc => (h.chars c hc).imp_right Or.inl, ?_, ?_, ?_⟩
  · cases h with
    | whole h =>
      rw [count_point_eq_zero h.chars]
      exact Nat.zero_le 1
    | pointed hwhole hfraction =>
      rw [List.count_append, List.count_cons_self, count_point_eq_zero hwhole.chars,
        count_point_eq_zero hfraction]
  · cases h with
    | whole h => exact digitsOf_ne_nil h
    | pointed hwhole hfraction =>
      intro hnil
      rw [digitsOf_append] at hnil
      exact digitsOf_ne_nil hwhole (List.append_eq_nil_iff.mp hnil).1
  · cases h with
    | whole h =>
      have hfront := takeWhile_isNone_eq_nil h []
      rw [List.append_nil] at hfront
      simp [hfront]
    | pointed hwhole hfraction => simp [takeWhile_isNone_eq_nil hwhole]

theorem numberOf_eq (h : Row cs n places) : numberOf cs = n := by
  cases h with
  | whole h => rfl
  | pointed hwhole hfraction =>
    -- a point is not a digit
    rw [numberOf, digitsOf_append, digitsOf_cons, numberOf, digitsOf_append]
    rfl

theorem placesOf_eq (h : Row cs n places) : placesOf cs = places := by
  have hskip : ∀ {whole : List Char}, Digits whole → ∀ c ∈ whole, decide (c ≠ '.') = true :=
    fun hwhole c hc => decide_eq_true (ne_point_of_isSome (hwhole.chars c hc))
  cases h with
  | whole h =>
    have hrest : (cs ++ []).dropWhile (· ≠ '.') = [] := List.dropWhile_append_of_pos (hskip h)
    rw [List.append_nil] at hrest
    rw [placesOf, hrest]
    rfl
  | pointed hwhole hfraction =>
    rw [placesOf, List.dropWhile_append_of_pos (hskip hwhole), ← length_digitsOf hfraction]
    rfl

theorem magnitudeOf_eq (h : Row cs n places) : magnitudeOf cs = n / 10 ^ places := by
  rw [Decimal.magnitudeOf_eq, h.numberOf_eq, h.placesOf_eq]

end Row

end BookSync.Decimal
