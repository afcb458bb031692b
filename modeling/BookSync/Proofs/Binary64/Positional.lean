/-
The text of a floating point number as a decimal.

The positional text of a floating point number is a plain numeral without underscores.
It denotes `shortValue`, the number of the shortest digits, and so what a
reader of decimals makes of it can be told from this number alone.
-/
import BookSync.Binary64.Shortest
import BookSync.Proofs.Decimal.Nearest
import BookSync.Proofs.Decimal.Digits

namespace BookSync.Binary64

open Decimal (Row Digits Plain)

/-- The number of the shortest digits. -/
def shortValue (x : Binary64) : ℚ :=
  (if x.negative then -1 else 1) * ((x.shortest .up).1 * 10 ^ (x.shortest .up).2)

/-- The digits `c`, with as many zeros behind or in front of them as the power asks for. -/
def placed (c : ℕ) (power : ℤ) : List Char :=
  if 0 ≤ power then Nat.toDigits 10 c ++ List.replicate power.toNat '0'
  else
    let ds := Decimal.digits c ((-power).toNat + 1)
    ds.take (ds.length - (-power).toNat) ++ '.' :: ds.drop (ds.length - (-power).toNat)

theorem positional_eq (x : Binary64) :
    x.positional = x.signed (placed (x.shortest .up).1 (x.shortest .up).2) := rfl

section

variable (c : ℕ) (power : ℤ)

theorem digits_append_zeros (k : ℕ) : Digits (Nat.toDigits 10 c ++ List.replicate k '0') := by
  have hdigits := Decimal.digits_toDigits c
  refine ⟨fun hnil => hdigits.ne_nil (List.append_eq_nil_iff.mp hnil).1, fun d hd => ?_⟩
  rcases List.mem_append.mp hd with hfront | hzero
  · exact hdigits.chars d hfront
  · rw [List.eq_of_mem_replicate hzero]
    rfl

theorem numberOf_append_zeros (k : ℕ) :
    Decimal.numberOf (Nat.toDigits 10 c ++ List.replicate k '0') = c * 10 ^ k := by
  rw [Decimal.numberOf_eq (digits_append_zeros c k).chars, Nat.ofDigitChars_append,
    Nat.ofDigitChars_ten_toDigits, Nat.ofDigitChars_replicate_zero, Nat.mul_comm]

/-- Digits in their places are a numeral. -/
theorem row_placed : ∃ n places, Row (placed c power) n places ∧
    (n / 10 ^ places : ℚ) = c * 10 ^ power := by
  rw [placed]
  by_cases hpower : 0 ≤ power
  · have hrow := Row.whole (digits_append_zeros c power.toNat)
    rw [numberOf_append_zeros] at hrow
    rw [if_pos hpower]
    refine ⟨_, _, hrow, ?_⟩
    have hpow : (10 : ℚ) ^ power = 10 ^ power.toNat := by
      rw [← zpow_natCast, Int.toNat_of_nonneg hpower]
    rw [hpow, pow_zero, div_one, Nat.cast_mul, Nat.cast_pow, Nat.cast_ofNat]
  · have hrow := Decimal.row_cut (Decimal.digits_digits c ((-power).toNat + 1))
      (Decimal.le_length_digits c ((-power).toNat + 1))
    rw [Decimal.numberOf_digits] at hrow
    rw [if_neg hpower]
    refine ⟨_, _, hrow, ?_⟩
    have hpow : (10 : ℚ) ^ power = (10 ^ (-power).toNat)⁻¹ := by
      rw [← zpow_natCast, Int.toNat_of_nonneg (by omega), zpow_neg, inv_inv]
    rw [hpow, div_eq_mul_inv]

end

section

variable (x : Binary64)

/-- **The positional text denotes the number of the shortest digits.** -/
theorem plain_positional : Plain x.positional x.shortValue := by
  obtain ⟨n, places, hrow, hvalue⟩ := row_placed (x.shortest .up).1 (x.shortest .up).2
  have hmagnitude := hrow.magnitudeOf_eq
  rw [hvalue] at hmagnitude
  rw [positional_eq, signed, shortValue, ← hmagnitude]
  cases x.negative with
  | true =>
    rw [if_pos rfl, if_pos rfl, neg_one_mul]
    exact .minus hrow.unsigned
  | false =>
    rw [if_neg Bool.false_ne_true, if_neg Bool.false_ne_true, one_mul]
    exact .unsigned hrow.unsigned

theorem not_underscore_positional : '_' ∉ x.positional := by
  obtain ⟨n, places, hrow, -⟩ := row_placed (x.shortest .up).1 (x.shortest .up).2
  have hbody : '_' ∉ placed (x.shortest .up).1 (x.shortest .up).2 := by
    intro hmem
    rcases hrow.chars _ hmem with hdigit | hpoint
    · exact absurd hdigit (by decide)
    · exact absurd hpoint (by decide)
  rw [positional_eq, signed]
  split
  · simpa using hbody
  · exact hbody

/-- **A floating point number is read as the decimal nearest to its shortest digits.** -/
theorem map_value_positional :
    (Decimal.ofNumeral? x.positional).map Decimal.value = Decimal.nearest? x.shortValue := by
  have hdenotes : Decimal.Denotes x.positional ⟨x.shortValue, 0⟩ := .plain x.plain_positional
  rw [hdenotes.map_value x.not_underscore_positional, Decimal.Numeral.read?_plain]

end

end BookSync.Binary64
