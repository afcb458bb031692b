/-
The number that a decimal denotes.

`Decimal.value d` is the rational number `coeff / 10 ^ scale`. All comparisons
of decimals are comparisons of these numbers:

* `equiv_iff_value`, `lt_iff_value`, `le_iff_value`: `≈`, `<` and `≤` look at
  nothing but the value;
* `isPositive_iff_value`, `isNegative_iff_value`, `isZero_iff_value`: so do the tests of
  the sign.

Whatever orders or matches prices by value is therefore settled in `ℚ`, where
`≈` is equality.
-/
import BookSync.Decimal.Basic
import Mathlib.Algebra.Order.Field.Basic
import Mathlib.Data.Rat.Cast.Order
import Mathlib.Tactic.Positivity

namespace BookSync.Decimal

/-- The decimal with this coefficient and scale, and zero if there is none. -/
def ofCoeff (coeff : ℤ) (scale : ℕ) : Decimal := (ofCoeff? coeff scale).getD zero

/-- The number that a decimal denotes. -/
def value (d : Decimal) : ℚ := (d.coeff : ℚ) / 10 ^ d.scale

theorem ten_pow_pos (k : ℕ) : (0 : ℚ) < 10 ^ k := by positivity

theorem cast_tenTo (k : ℕ) : ((tenTo k : ℤ) : ℚ) = 10 ^ k := by
  rw [tenTo, Int.cast_natCast]
  exact Nat.cast_pow 10 k

theorem cast_widen (d : Decimal) (s : ℕ) : (d.widen s : ℚ) = d.coeff * 10 ^ s := by
  rw [widen, Int.cast_mul, cast_tenTo]

/-! ### Comparisons -/

theorem equiv_iff_value {a b : Decimal} : a ≈ b ↔ a.value = b.value := by
  rw [equiv_def, value, value, div_eq_div_iff (ten_pow_pos _).ne' (ten_pow_pos _).ne',
    ← cast_widen, ← cast_widen, Int.cast_inj]

theorem lt_iff_value {a b : Decimal} : a < b ↔ a.value < b.value := by
  rw [lt_def, value, value, div_lt_div_iff₀ (ten_pow_pos _) (ten_pow_pos _),
    ← cast_widen, ← cast_widen, Int.cast_lt]

theorem le_iff_value {a b : Decimal} : a ≤ b ↔ a.value ≤ b.value := by
  rw [le_iff_not_lt, lt_iff_value, not_lt]

/-! ### Signs -/

@[simp] theorem value_zero : zero.value = 0 := by
  rw [value, coeff_zero, Int.cast_zero, zero_div]

theorem coeff_ofInt (n : ℤ) (h : n.natAbs < UInt64.size) : (ofInt n h).coeff = n := by
  simp only [coeff, ofInt, decide_eq_true_iff]
  split <;> omega

@[simp] theorem value_ofInt (n : ℤ) (h : n.natAbs < UInt64.size) : (ofInt n h).value = n := by
  rw [value, coeff_ofInt, show (ofInt n h).scale = 0 from rfl, pow_zero, div_one]

theorem isPositive_iff_value {d : Decimal} : d.isPositive = true ↔ 0 < d.value := by
  rw [isPositive_iff, lt_iff_value, value_zero]

theorem isNegative_iff_value {d : Decimal} : d.isNegative = true ↔ d.value < 0 := by
  rw [isNegative_iff, lt_iff_value, value_zero]

theorem isZero_iff_value {d : Decimal} : d.isZero = true ↔ d.value = 0 := by
  rw [isZero_iff, equiv_iff_value, value_zero]

theorem value_eq_zero_iff {d : Decimal} : d.value = 0 ↔ d.magnitude = 0 := by
  rw [← isZero_iff_value, isZero, decide_eq_true_iff]

end BookSync.Decimal
