/-
Rounding to an integer, a tie going to the even neighbour.

What later proofs need of it is less than which neighbour a tie goes to:

* `IsNearest`: an integer is at most half a unit away from a number. So it does not
  leave an interval between two integers (`IsNearest.le_of_le`, `IsNearest.ge_of_ge`),
  and no integer is closer (`IsNearest.closest`);
* `isNearest_divNearestInt`: a quotient is rounded to such an integer;
* `bound_le_natAbs_iff`: the result has too many bits exactly if the quotient is at
  least half a unit below the bound, which is even.
-/
import BookSync.Decimal.Arithmetic
import Mathlib.Algebra.Order.Field.Basic
import Mathlib.Data.Rat.Cast.Order
import Mathlib.Tactic.Linarith

namespace BookSync.Decimal

/-! ### Natural numbers -/

/-- The result is at most half a unit away, and less if it is odd. -/
theorem divNearest_spec (a : ℕ) {b : ℕ} (hb : 0 < b) :
    2 * (divNearest a b * b) ≤ 2 * a + b ∧ 2 * a ≤ 2 * (divNearest a b * b) + b ∧
      (divNearest a b % 2 = 1 →
        2 * (divNearest a b * b) < 2 * a + b ∧ 2 * a < 2 * (divNearest a b * b) + b) := by
  have hdiv : a / b * b + a % b = a := Nat.div_add_mod' a b
  have hmod := Nat.mod_lt a hb
  have hsucc : (a / b + 1) * b = a / b * b + b := Nat.succ_mul _ _
  rw [divNearest]
  split
  · omega
  · split
    · rw [hsucc]
      omega
    · -- a tie
      rcases Nat.mod_two_eq_zero_or_one (a / b) with heven | hodd
      · rw [heven, Nat.add_zero]
        omega
      · rw [hodd, hsucc]
        omega

/-- In terms of the quotient. -/
theorem divNearest_bounds (a : ℕ) {b m : ℕ} (hb : 0 < b) (hm : divNearest a b = m) :
    (m : ℚ) - 1 / 2 ≤ a / b ∧ (a : ℚ) / b ≤ m + 1 / 2 ∧
      (m % 2 = 1 → (m : ℚ) - 1 / 2 < a / b ∧ (a : ℚ) / b < m + 1 / 2) := by
  obtain ⟨hlower, hupper, hodd⟩ := divNearest_spec a hb
  rw [hm] at hlower hupper hodd
  have hpos : (0 : ℚ) < b := by exact_mod_cast hb
  have hlower' : 2 * ((m : ℚ) * b) ≤ 2 * a + b := by exact_mod_cast hlower
  have hupper' : 2 * (a : ℚ) ≤ 2 * (m * b) + b := by exact_mod_cast hupper
  refine ⟨?_, ?_, fun h => ⟨?_, ?_⟩⟩
  · rw [le_div_iff₀ hpos]
    linarith
  · rw [div_le_iff₀ hpos]
    linarith
  · have hlt : 2 * ((m : ℚ) * b) < 2 * a + b := by exact_mod_cast (hodd h).1
    rw [lt_div_iff₀ hpos]
    linarith
  · have hlt : 2 * (a : ℚ) < 2 * (m * b) + b := by exact_mod_cast (hodd h).2
    rw [div_lt_iff₀ hpos]
    linarith

/-- An even number is reached from half a unit below it: there the tie goes up. -/
theorem le_divNearest_iff (a : ℕ) {b m : ℕ} (hb : 0 < b) (heven : m % 2 = 0) :
    m ≤ divNearest a b ↔ (m : ℚ) - 1 / 2 ≤ a / b := by
  obtain ⟨hlower, hupper, hodd⟩ := divNearest_bounds a hb rfl
  constructor
  · intro hle
    have hcast : (m : ℚ) ≤ divNearest a b := by exact_mod_cast hle
    linarith
  · intro hle
    by_contra hlt
    -- the result is at most the odd number below `m`, to which no tie goes
    have hcast : (divNearest a b : ℚ) + 1 ≤ m := by exact_mod_cast Nat.lt_of_not_le hlt
    by_cases hlast : divNearest a b + 1 = m
    · have hlt := (hodd (by omega)).2
      linarith
    · have hcast : (divNearest a b : ℚ) + 2 ≤ m := by exact_mod_cast (by omega : _ + 2 ≤ m)
      linarith

/-! ### Integers -/

/-- The integer is at most half a unit away from the number. -/
def IsNearest (m : ℤ) (x : ℚ) : Prop := |(m : ℚ) - x| ≤ 1 / 2

namespace IsNearest

variable {m a : ℤ} {x : ℚ}

theorem of_eq (h : (m : ℚ) = x) : IsNearest m x := by
  rw [IsNearest, h, sub_self, abs_zero]
  norm_num

theorem bounds (h : IsNearest m x) : x - 1 / 2 ≤ m ∧ (m : ℚ) ≤ x + 1 / 2 := by
  obtain ⟨hlower, hupper⟩ := abs_le.mp h
  constructor
  · linarith
  · linarith

theorem neg (h : IsNearest m x) : IsNearest (-m) (-x) := by
  rw [IsNearest, Int.cast_neg, neg_sub_neg, abs_sub_comm]
  exact h

theorem sub (h : IsNearest m (x + a)) : IsNearest (m - a) x := by
  rw [IsNearest, Int.cast_sub, sub_sub, add_comm (a : ℚ)]
  exact h

/-- An integer below the number is not above its nearest integer. -/
theorem le_of_le (h : IsNearest m x) (ha : (a : ℚ) ≤ x) : a ≤ m := by
  have hlt : (a : ℚ) < m + 1 := by linarith [h.bounds.1]
  have hlt : a < m + 1 := by exact_mod_cast hlt
  omega

theorem ge_of_ge (h : IsNearest m x) (ha : x ≤ a) : m ≤ a := by
  have hlt : (m : ℚ) < a + 1 := by linarith [h.bounds.2]
  have hlt : m < a + 1 := by exact_mod_cast hlt
  omega

/-- No integer is closer. -/
theorem closest (h : IsNearest m x) (a : ℤ) : |(m : ℚ) - x| ≤ |(a : ℚ) - x| := by
  by_cases heq : a = m
  · rw [heq]
  · have hne : 1 ≤ |a - m| := Int.one_le_abs (sub_ne_zero.mpr heq)
    have hcast : (1 : ℚ) ≤ |(a : ℚ) - m| := by exact_mod_cast hne
    have htriangle := abs_sub_le (a : ℚ) x m
    rw [abs_sub_comm x] at htriangle
    rw [IsNearest] at h
    linarith

/-- An integer is not rounded. -/
theorem eq_of_eq (h : IsNearest m x) (ha : x = a) : m = a :=
  le_antisymm (h.ge_of_ge ha.le) (h.le_of_le ha.ge)

end IsNearest

theorem isNearest_divNearest (a : ℕ) {b : ℕ} (hb : 0 < b) : IsNearest (divNearest a b) (a / b) := by
  obtain ⟨hlower, hupper, -⟩ := divNearest_bounds a hb rfl
  rw [IsNearest, Int.cast_natCast, abs_le]
  constructor
  · linarith
  · linarith

/-- A multiple is divided without rounding. -/
theorem divNearest_mul_right (q : ℕ) {b : ℕ} (hb : 0 < b) : divNearest (q * b) b = q := by
  have hquot : ((q * b : ℕ) : ℚ) / b = (q : ℤ) := by
    rw [Nat.cast_mul, mul_div_cancel_right₀ _ (by exact_mod_cast hb.ne'), Int.cast_natCast]
  exact_mod_cast (isNearest_divNearest (q * b) hb).eq_of_eq hquot

section

variable (n : ℤ) {d : ℕ}

theorem natAbs_divNearestInt (hd : 0 < d) : (divNearestInt n d).natAbs = divNearest n.natAbs d := by
  rw [divNearestInt, Int.natAbs_mul, Int.natAbs_natCast]
  by_cases hn : n = 0
  · have hzero : divNearest 0 d = 0 := by
      rw [divNearest]
      simp [hd]
    rw [hn, Int.natAbs_zero, hzero, Nat.mul_zero]
  · rw [Int.natAbs_sign_of_ne_zero hn, Nat.one_mul]

theorem isNearest_divNearestInt (hd : 0 < d) : IsNearest (divNearestInt n d) (n / d) := by
  have hnearest := isNearest_divNearest n.natAbs hd
  rw [divNearestInt]
  rcases lt_trichotomy n 0 with hneg | rfl | hpos
  · have habs : (n : ℚ) = -(n.natAbs : ℚ) := by
      rw [← Int.cast_natCast, Int.ofNat_natAbs_of_nonpos hneg.le, Int.cast_neg, neg_neg]
    rw [Int.sign_eq_neg_one_of_neg hneg, neg_one_mul, habs, neg_div]
    exact hnearest.neg
  · rw [Int.sign_zero, zero_mul]
    exact .of_eq (by simp)
  · have habs : (n : ℚ) = (n.natAbs : ℚ) := by
      rw [← Int.cast_natCast, Int.natAbs_of_nonneg hpos.le]
    rw [Int.sign_eq_one_of_pos hpos, one_mul, habs]
    exact hnearest

/-- **When a rounded quotient is too large for a coefficient.** -/
theorem bound_le_natAbs_iff (hd : 0 < d) :
    bound ≤ (divNearestInt n d).natAbs ↔ (bound : ℚ) - 1 / 2 ≤ |(n : ℚ) / d| := by
  have habs : |(n : ℚ) / d| = (n.natAbs : ℚ) / d := by
    rw [abs_div, Nat.abs_cast, ← Int.cast_abs, Int.abs_eq_natAbs, Int.cast_natCast]
  rw [natAbs_divNearestInt n hd, habs]
  exact le_divNearest_iff n.natAbs hd (by decide)

end

end BookSync.Decimal
