/-
Rounding to floating point numbers.

Each floating point number stands for the numbers between its two bounds. A quotient that
is neither too small nor too large is rounded to the floating point number between whose
bounds it lies.

* `magnitude`, `lower`, `upper`, `Covers`: a floating point number, its bounds, and the
  numbers for which it stands;
* `exponentOf_spec`: the exponent at which a quotient has 53 bits;
* `exists_ofRatio?`: a quotient is rounded to a number that covers it;
* `exists_ofNat?`: integers with few bits are not rounded at all.
-/
import BookSync.Binary64.Shortest
import BookSync.Proofs.Decimal.HalfEven
import Mathlib.Algebra.Order.Field.Power
import Mathlib.Data.Rat.Cast.Order
import Mathlib.Tactic.FieldSimp
import Mathlib.Tactic.Linarith
import Mathlib.Tactic.NormNum
import Mathlib.Tactic.Ring

namespace BookSync.Binary64

/-! ### Powers as quotients -/

section

variable {b : ℕ} (e : ℤ)

theorem powRatio_pos (hb : 0 < b) : 0 < (powRatio b e).1 ∧ 0 < (powRatio b e).2 :=
  ⟨Nat.pow_pos hb, Nat.pow_pos hb⟩

theorem cast_powRatio (hb : 0 < b) :
    ((powRatio b e).1 : ℚ) = (b : ℚ) ^ e * (powRatio b e).2 := by
  have hne : (b : ℚ) ≠ 0 := by exact_mod_cast hb.ne'
  have hsplit : e + ((-e).toNat : ℤ) = e.toNat := by omega
  have hfst : ((powRatio b e).1 : ℚ) = (b : ℚ) ^ (e.toNat : ℤ) := by
    rw [zpow_natCast]
    exact Nat.cast_pow b _
  have hsnd : ((powRatio b e).2 : ℚ) = (b : ℚ) ^ ((-e).toNat : ℤ) := by
    rw [zpow_natCast]
    exact Nat.cast_pow b _
  rw [hfst, hsnd, ← zpow_add₀ hne, hsplit]

end

theorem cast_powRatio_two (e : ℤ) : ((powRatio 2 e).1 : ℚ) = 2 ^ e * (powRatio 2 e).2 := by
  exact_mod_cast cast_powRatio e (b := 2) (by decide)

theorem cast_powRatio_ten (e : ℤ) : ((powRatio 10 e).1 : ℚ) = 10 ^ e * (powRatio 10 e).2 := by
  exact_mod_cast cast_powRatio e (b := 10) (by decide)

theorem two_zpow_pos (e : ℤ) : (0 : ℚ) < 2 ^ e := zpow_pos (by norm_num) e

/-! ### Bounds -/

section

variable (x : Binary64)

/-- The absolute value. -/
def magnitude : ℚ := x.significand * 2 ^ x.exponent

/-- The lower bound of the numbers that are rounded to `x`. -/
def lower : ℚ := x.quarters.1 * 2 ^ (x.exponent - 2)

/-- The upper bound of the numbers that are rounded to `x`. -/
def upper : ℚ := x.quarters.2.2 * 2 ^ (x.exponent - 2)

/-- The number lies between the bounds, or on one if the significand is even. -/
def Covers (y : ℚ) : Prop :=
  if x.significand % 2 = 0 then x.lower ≤ y ∧ y ≤ x.upper else x.lower < y ∧ y < x.upper

end

section

variable {x : Binary64} {y z : ℚ}

theorem Covers.bounds (h : x.Covers y) : x.lower ≤ y ∧ y ≤ x.upper := by
  rw [Covers] at h
  split at h
  · exact h
  · exact ⟨h.1.le, h.2.le⟩

theorem covers_of_lt (h : x.lower < y) (h' : y < x.upper) : x.Covers y := by
  rw [Covers]
  split
  · exact ⟨h.le, h'.le⟩
  · exact ⟨h, h'⟩

/-- Between two numbers that are covered there is no other. -/
theorem Covers.convex {w : ℚ} (hy : x.Covers y) (hz : x.Covers z) (hyw : y ≤ w) (hwz : w ≤ z) :
    x.Covers w := by
  rw [Covers] at hy hz ⊢
  split at hy
  · rename_i heven
    rw [if_pos heven] at hz ⊢
    exact ⟨hy.1.trans hyw, hwz.trans hz.2⟩
  · rename_i hodd
    rw [if_neg hodd] at hz ⊢
    exact ⟨hy.1.trans_le hyw, hwz.trans_lt hz.2⟩

theorem zpow_sub_two (e : ℤ) : (2 : ℚ) ^ e = 4 * 2 ^ (e - 2) := by
  rw [zpow_sub₀ (by norm_num)]
  norm_num
  ring

theorem magnitude_eq (x : Binary64) : x.magnitude = 4 * x.significand * 2 ^ (x.exponent - 2) := by
  rw [magnitude, zpow_sub_two]
  ring

theorem upper_eq (x : Binary64) : x.upper = (4 * x.significand + 2) * 2 ^ (x.exponent - 2) := by
  rw [upper, quarters]
  push_cast
  rfl

theorem lower_eq (h : 0 < x.significand) : x.lower =
    (4 * x.significand - if x.significand = leastNormal ∧ minExponent < x.exponent then 1 else 2) *
      2 ^ (x.exponent - 2) := by
  rw [lower, quarters]
  split
  · rename_i hnormal
    have hle : 1 ≤ 4 * x.significand := by omega
    push_cast [Nat.cast_sub hle]
    rfl
  · have hle : 2 ≤ 4 * x.significand := by omega
    push_cast [Nat.cast_sub hle]
    rfl

/-- What is covered, in quarters of a unit of the last bit. -/
theorem covers_of_quarters {t : ℚ} (h : 0 < x.significand)
    (hlow : (4 * x.significand -
      if x.significand = leastNormal ∧ minExponent < x.exponent then 1 else 2) ≤ t)
    (hhigh : t ≤ 4 * x.significand + 2)
    (hodd : x.significand % 2 = 1 → (4 * x.significand -
      if x.significand = leastNormal ∧ minExponent < x.exponent then 1 else 2) < t ∧
        t < 4 * x.significand + 2) : x.Covers (t * 2 ^ (x.exponent - 2)) := by
  have hunit := two_zpow_pos (x.exponent - 2)
  rw [Covers, lower_eq h, upper_eq]
  split
  · exact ⟨mul_le_mul_of_nonneg_right hlow hunit.le, mul_le_mul_of_nonneg_right hhigh hunit.le⟩
  · rename_i hparity
    obtain ⟨hlow', hhigh'⟩ := hodd (by omega)
    exact ⟨mul_lt_mul_of_pos_right hlow' hunit, mul_lt_mul_of_pos_right hhigh' hunit⟩

/-- A number above zero is covered by itself. -/
theorem covers_magnitude (h : 0 < x.significand) : x.Covers x.magnitude := by
  have hunit := two_zpow_pos (x.exponent - 2)
  refine covers_of_lt ?_ ?_
  · rw [lower_eq h, magnitude_eq]
    refine mul_lt_mul_of_pos_right ?_ hunit
    split
    · linarith
    · linarith
  · rw [upper_eq, magnitude_eq]
    exact mul_lt_mul_of_pos_right (by linarith) hunit

/-- The bounds are one unit of the last bit apart at most. -/
theorem upper_sub_lower_le (h : 0 < x.significand) : x.upper - x.lower ≤ 2 ^ x.exponent := by
  have hunit := (two_zpow_pos (x.exponent - 2)).le
  rw [upper_eq, lower_eq h, zpow_sub_two x.exponent, ← sub_mul]
  refine mul_le_mul_of_nonneg_right ?_ hunit
  split
  · linarith
  · linarith

end

/-! ### The exponent -/

theorem cast_leastNormal : (leastNormal : ℚ) = 2 ^ (52 : ℤ) := by
  rw [leastNormal]
  norm_num

section

variable {n d : ℕ}

/-- A quotient lies between two powers of two that are four apart. -/
theorem log2_bounds (hn : 0 < n) (hd : 0 < d) :
    (2 : ℚ) ^ ((n.log2 : ℤ) - d.log2 - 1) < n / d ∧
      (n / d : ℚ) < 2 ^ ((n.log2 : ℤ) - d.log2 + 1) := by
  have hn0 : n ≠ 0 := hn.ne'
  have hd0 : d ≠ 0 := hd.ne'
  have hnlow : (2 : ℚ) ^ (n.log2 : ℤ) ≤ n := by
    rw [zpow_natCast]
    exact_mod_cast Nat.log2_self_le hn0
  have hnhigh : (n : ℚ) < 2 ^ ((n.log2 : ℤ) + 1) := by
    have hlt := Nat.lt_log2_self (n := n)
    exact_mod_cast hlt
  have hdlow : (2 : ℚ) ^ (d.log2 : ℤ) ≤ d := by
    rw [zpow_natCast]
    exact_mod_cast Nat.log2_self_le hd0
  have hdhigh : (d : ℚ) < 2 ^ ((d.log2 : ℤ) + 1) := by
    have hlt := Nat.lt_log2_self (n := d)
    exact_mod_cast hlt
  have hpos : (0 : ℚ) < d := by exact_mod_cast hd
  constructor
  · rw [lt_div_iff₀ hpos]
    calc (2 : ℚ) ^ ((n.log2 : ℤ) - d.log2 - 1) * d
        < 2 ^ ((n.log2 : ℤ) - d.log2 - 1) * 2 ^ ((d.log2 : ℤ) + 1) :=
          mul_lt_mul_of_pos_left hdhigh (two_zpow_pos _)
      _ = 2 ^ (n.log2 : ℤ) := by
          rw [← zpow_add₀ (by norm_num)]
          congr 1
          ring
      _ ≤ n := hnlow
  · rw [div_lt_iff₀ hpos]
    calc (n : ℚ) < 2 ^ ((n.log2 : ℤ) + 1) := hnhigh
      _ = 2 ^ ((n.log2 : ℤ) - d.log2 + 1) * 2 ^ (d.log2 : ℤ) := by
          rw [← zpow_add₀ (by norm_num)]
          congr 1
          ring
      _ ≤ 2 ^ ((n.log2 : ℤ) - d.log2 + 1) * d :=
          mul_le_mul_of_nonneg_left hdlow (two_zpow_pos _).le

/-- **The exponent of a quotient** leaves 53 bits, if it is not too small for that. -/
theorem exponentOf_spec (hn : 0 < n) (hd : 0 < d) :
    ∃ e, exponentOf n d = max minExponent e ∧
      (2 : ℚ) ^ (e + 52) ≤ n / d ∧ (n / d : ℚ) < 2 ^ (e + 53) := by
  obtain ⟨hlow, hhigh⟩ := log2_bounds hn hd
  have hpos : (0 : ℚ) < d := by exact_mod_cast hd
  rw [exponentOf]
  generalize he : (n.log2 : ℤ) - d.log2 - 52 = e
  have hlower : (n.log2 : ℤ) - d.log2 - 1 = e + 51 := by omega
  have hupper : (n.log2 : ℤ) - d.log2 + 1 = e + 53 := by omega
  rw [hlower] at hlow
  rw [hupper] at hhigh
  have hcast := cast_powRatio_two e
  have hsnd : (0 : ℚ) < (powRatio 2 e).2 := by exact_mod_cast (powRatio_pos e (by decide)).2
  -- the test of the definition, as a comparison of quotients
  have htest : n * (powRatio 2 e).2 < leastNormal * (d * (powRatio 2 e).1) ↔
      (n / d : ℚ) < 2 ^ (e + 52) := by
    have hprod : (leastNormal * (d * (powRatio 2 e).1) : ℚ) =
        2 ^ (e + 52) * d * (powRatio 2 e).2 := by
      rw [hcast, cast_leastNormal, zpow_add₀ (by norm_num)]
      push_cast
      ring
    rw [div_lt_iff₀ hpos, ← mul_lt_mul_iff_of_pos_right hsnd, ← hprod]
    exact_mod_cast Iff.rfl
  refine ⟨if n * (powRatio 2 e).2 < leastNormal * (d * (powRatio 2 e).1) then e - 1 else e,
    rfl, ?_⟩
  -- the logarithms leave a factor of four, of which the test takes one half
  split
  · rename_i hsmall
    have hlt := htest.mp hsmall
    have h51 : e - 1 + 52 = e + 51 := by ring
    have h52 : e - 1 + 53 = e + 52 := by ring
    rw [h51, h52]
    exact ⟨hlow.le, hlt⟩
  · rename_i hlarge
    exact ⟨not_lt.mp fun h => hlarge (htest.mpr h), hhigh⟩

/-- The quotient in units of the last bit. -/
theorem cast_scaled (hd : 0 < d) (e : ℤ) :
    ((n * (powRatio 2 e).2 : ℕ) : ℚ) / (d * (powRatio 2 e).1 : ℕ) = n / d / 2 ^ e := by
  have hcast := cast_powRatio_two e
  have hsnd : ((powRatio 2 e).2 : ℚ) ≠ 0 := by exact_mod_cast (powRatio_pos e (by decide)).2.ne'
  have hpos : (d : ℚ) ≠ 0 := by exact_mod_cast hd.ne'
  push_cast
  rw [hcast]
  field_simp

/-- A quotient in units `t` of its last bit, and the integer `m` to which these are
rounded. -/
structure Scaled (n d : ℕ) (e : ℤ) (t : ℚ) (m : ℕ) : Prop where
  exponent : exponentOf n d = e
  minExponent_le : minExponent ≤ e
  lt_maxExponent : e < maxExponent
  quotient : (n / d : ℚ) = t * 2 ^ e
  least : leastNormal ≤ t
  lt_carry : t < 2 * leastNormal
  nearest : Decimal.divNearest (n * (powRatio 2 e).2) (d * (powRatio 2 e).1) = m
  below : (m : ℚ) - 1 / 2 ≤ t
  above : t ≤ m + 1 / 2
  odd : m % 2 = 1 → (m : ℚ) - 1 / 2 < t ∧ t < m + 1 / 2

theorem exists_scaled (hn : 0 < n) (hd : 0 < d) (hlow : (2 : ℚ) ^ (-1022 : ℤ) ≤ n / d)
    (hhigh : (n / d : ℚ) < 2 ^ (1023 : ℤ)) : ∃ e t m, Scaled n d e t m := by
  obtain ⟨e, he, helow, hehigh⟩ := exponentOf_spec hn hd
  -- with 53 bits at this exponent the quotient is between the limits, and so is the exponent
  have hone : (1 : ℚ) < 2 := by norm_num
  have hmin : -1022 < e + 53 := (zpow_lt_zpow_iff_right₀ hone).mp (hlow.trans_lt hehigh)
  have hmax : e + 52 < 1023 := (zpow_lt_zpow_iff_right₀ hone).mp (helow.trans_lt hhigh)
  have hminExponent : minExponent = -1074 := rfl
  have hmaxExponent : maxExponent = 971 := rfl
  have hunit := two_zpow_pos e
  have hden : 0 < d * (powRatio 2 e).1 := Nat.mul_pos hd (powRatio_pos e (by decide)).1
  obtain ⟨hbelow, habove, hodd⟩ := Decimal.divNearest_bounds (n * (powRatio 2 e).2) hden rfl
  rw [cast_scaled hd] at hbelow habove hodd
  refine ⟨e, n / d / 2 ^ e, _, ?_, by omega, by omega, ?_, ?_, ?_, rfl, hbelow, habove, hodd⟩
  · rw [he, max_eq_right (by omega)]
  · rw [div_mul_cancel₀ _ hunit.ne']
  · rw [le_div_iff₀ hunit, cast_leastNormal, ← zpow_add₀ (by norm_num), add_comm]
    exact helow
  · have hpow : (2 : ℚ) ^ (e + 53) = 2 * leastNormal * 2 ^ e := by
      rw [cast_leastNormal, zpow_add₀ (by norm_num)]
      norm_num
      ring
    rw [div_lt_iff₀ hunit, ← hpow]
    exact hehigh

namespace Scaled

variable {e : ℤ} {t : ℚ} {m : ℕ}

theorem le (h : Scaled n d e t m) : leastNormal ≤ m := by
  have hleast := h.least
  have habove := h.above
  have hcast : (leastNormal : ℚ) < m + 1 := by linarith
  exact Nat.lt_succ_iff.mp (by exact_mod_cast hcast)

theorem pos (h : Scaled n d e t m) : 0 < m := lt_of_lt_of_le (by decide) h.le

/-- The fewer bits a quotient has, the smaller is its unit. -/
theorem exponent_le (h : Scaled n d e t m) {k : ℕ} (hlt : (n / d : ℚ) < 2 ^ ((53 : ℤ) + k)) :
    e ≤ k := by
  have hunit := two_zpow_pos e
  have hle : (2 : ℚ) ^ ((52 : ℤ) + e) ≤ n / d := by
    rw [h.quotient, zpow_add₀ (by norm_num), ← cast_leastNormal]
    exact mul_le_mul_of_nonneg_right h.least hunit.le
  have hone : (1 : ℚ) < 2 := by norm_num
  have hexp := (zpow_lt_zpow_iff_right₀ hone).mp (hle.trans_lt hlt)
  omega

/-- A whole number of units is not rounded, and so there is no bit more. -/
theorem eq_of_whole (h : Scaled n d e t m) {i : ℕ} (ht : t = i) :
    m = i ∧ m ≠ 2 * leastNormal := by
  have hbelow := h.below
  have habove := h.above
  have hcarry := h.lt_carry
  rw [ht] at hbelow habove hcarry
  have hlt : (m : ℚ) < (i : ℚ) + 1 := by linarith
  have hlt' : (i : ℚ) < (m : ℚ) + 1 := by linarith
  have hle : m < i + 1 := by exact_mod_cast hlt
  have hle' : i < m + 1 := by exact_mod_cast hlt'
  have hbits : i < 2 * leastNormal := by exact_mod_cast hcarry
  omega

theorem ofRatio?_eq (h : Scaled n d e t m) (hn : 0 < n) (negative : Bool) :
    ofRatio? negative n d =
      if m = 2 * leastNormal then some ⟨negative, leastNormal, e + 1⟩
      else some ⟨negative, m, e⟩ := by
  have hmax := h.lt_maxExponent
  rw [ofRatio?, if_neg hn.ne', h.exponent]
  dsimp only
  rw [h.nearest]
  by_cases hcarry : m = 2 * leastNormal
  · rw [if_pos hcarry, if_pos hcarry, if_neg (by omega)]
  · rw [if_neg hcarry, if_neg hcarry, if_neg (by omega)]

end Scaled

/-- **A quotient is rounded to a number that covers it.** -/
theorem exists_ofRatio? (negative : Bool) (hn : 0 < n) (hd : 0 < d)
    (hlow : (2 : ℚ) ^ (-1022 : ℤ) ≤ n / d) (hhigh : (n / d : ℚ) < 2 ^ (1023 : ℤ)) :
    ∃ x, ofRatio? negative n d = some x ∧ x.negative = negative ∧ leastNormal ≤ x.significand ∧
      x.Covers (n / d) := by
  obtain ⟨e, t, m, h⟩ := exists_scaled hn hd hlow hhigh
  have hmin := h.minExponent_le
  have hleast := h.least
  have hlt := h.lt_carry
  have hbelow := h.below
  have habove := h.above
  have hnormal : 0 < leastNormal := by decide
  have heven : ¬ leastNormal % 2 = 1 := by decide
  rw [h.ofRatio?_eq hn, h.quotient]
  by_cases hcarry : m = 2 * leastNormal
  · -- the significand has a bit more, and the exponent grows
    have hcast : (m : ℚ) = 2 * leastNormal := by exact_mod_cast hcarry
    have hunit : t * 2 ^ e = 2 * t * 2 ^ (e + 1 - 2) := by
      have hexp : e + 1 - 2 = e - 2 + 1 := by ring
      rw [zpow_sub_two e, hexp, zpow_add₀ (by norm_num) (e - 2) 1]
      norm_num
      ring
    rw [if_pos hcarry, hunit]
    refine ⟨_, rfl, rfl, le_refl _, ?_⟩
    refine covers_of_quarters hnormal ?_ ?_ fun hodd => absurd hodd heven
    · dsimp only
      rw [if_pos ⟨rfl, by omega⟩]
      linarith
    · dsimp only
      linarith
  · -- half a unit is two quarters, and only one below the least significand, which is even
    have hunit : t * 2 ^ e = 4 * t * 2 ^ (e - 2) := by
      rw [zpow_sub_two e]
      ring
    rw [if_neg hcarry, hunit]
    refine ⟨_, rfl, rfl, h.le, ?_⟩
    refine covers_of_quarters h.pos ?_ ?_ fun hodd => ⟨?_, ?_⟩
    · dsimp only
      split
      · rename_i hfirst
        have hcast : (m : ℚ) = leastNormal := by exact_mod_cast hfirst.1
        linarith
      · linarith
    · dsimp only
      linarith
    · have hlt := (h.odd hodd).1
      dsimp only
      split
      · rename_i hfirst
        exact absurd hodd (hfirst.1 ▸ heven)
      · linarith
    · have hlt := (h.odd hodd).2
      dsimp only
      linarith

/-- **Integers with few bits are not rounded,** whatever power of two they are multiplied
with. -/
theorem exists_ofNat? (negative : Bool) {s k : ℕ} (hn : n = s * 2 ^ k) (hs : 0 < s)
    (hlt : s < 2 * leastNormal) (hk : k < 900) :
    ∃ x, ofNat? negative n = some x ∧ x.negative = negative ∧ 0 < x.significand ∧
      x.magnitude = n := by
  have hpos : 0 < n := hn ▸ Nat.mul_pos hs (Nat.pow_pos (by decide))
  have hwhole : (n / (1 : ℕ) : ℚ) = n := by rw [Nat.cast_one, div_one]
  have hone : (1 : ℚ) < 2 := by norm_num
  have hsmall : (s : ℚ) < 2 ^ (53 : ℤ) := by
    have hcast : (s : ℚ) < 2 * leastNormal := by exact_mod_cast hlt
    rw [cast_leastNormal] at hcast
    norm_num at hcast ⊢
    exact hcast
  have hbound : (n / (1 : ℕ) : ℚ) < 2 ^ ((53 : ℤ) + k) := by
    rw [hwhole, hn, zpow_add₀ (by norm_num), zpow_natCast]
    push_cast
    exact mul_lt_mul_of_pos_right hsmall (by positivity)
  have hlow : (2 : ℚ) ^ (-1022 : ℤ) ≤ n / (1 : ℕ) := by
    have hle : (1 : ℚ) ≤ n := by exact_mod_cast hpos
    rw [hwhole]
    exact (zpow_le_one_of_nonpos₀ hone.le (by norm_num)).trans hle
  have hhigh : (n / (1 : ℕ) : ℚ) < 2 ^ (1023 : ℤ) :=
    hbound.trans_le (zpow_le_zpow_right₀ hone.le (by omega))
  obtain ⟨e, t, m, h⟩ := exists_scaled hpos Nat.one_pos hlow hhigh
  have hquotient := h.quotient
  rw [hwhole] at hquotient
  -- there are not more bits than the significand has
  have he := h.exponent_le hbound
  obtain ⟨j, hj⟩ : ∃ j : ℕ, (k : ℤ) = e + j := ⟨(k - e).toNat, by omega⟩
  have hint : t = (s * 2 ^ j : ℕ) := by
    refine mul_right_cancel₀ (two_zpow_pos e).ne' ?_
    rw [← hquotient, hn]
    push_cast
    rw [mul_assoc, ← zpow_natCast 2 k, hj, zpow_add₀ (by norm_num), zpow_natCast,
      mul_comm ((2 : ℚ) ^ e)]
  obtain ⟨hm, hcarry⟩ := h.eq_of_whole hint
  refine ⟨⟨negative, m, e⟩, ?_, rfl, h.pos, ?_⟩
  · rw [ofNat?, h.ofRatio?_eq hpos, if_neg hcarry]
  · rw [magnitude, hquotient, hint, ← hm]

end

/-! ### Powers of ten -/

section

variable {x : Binary64} {k : ℤ}

theorem ratio_snd_pos (x : Binary64) : 0 < x.ratio.2 := (powRatio_pos x.exponent (by decide)).2

theorem cast_ratio (x : Binary64) : (x.ratio.1 / x.ratio.2 : ℚ) = x.magnitude := by
  have hpos : (0 : ℚ) < x.ratio.2 := by exact_mod_cast x.ratio_snd_pos
  have hcast := cast_powRatio_two x.exponent
  rw [div_eq_iff hpos.ne', magnitude, mul_assoc]
  show ((x.significand * (powRatio 2 x.exponent).1 : ℕ) : ℚ) = _
  rw [Nat.cast_mul, hcast]
  rfl

theorem ratio_fst_pos (h : 0 < x.significand) : 0 < x.ratio.1 :=
  Nat.mul_pos h (powRatio_pos x.exponent (by decide)).1

/-- The powers of ten that have few bits. -/
theorem exists_ofNat?_tenTo {j : ℕ} (hj : j ≤ 22) :
    ∃ y, ofNat? false (Decimal.tenTo j) = some y ∧ 0 < y.significand ∧ y.magnitude = 10 ^ j := by
  have hpow : Decimal.tenTo j = 5 ^ j * 2 ^ j := by
    rw [← Nat.mul_pow]
    rfl
  have hfive : 5 ^ j < 2 * leastNormal :=
    (Nat.pow_le_pow_right (by decide) hj).trans_lt (by decide)
  obtain ⟨y, hy, -, hpos, hvalue⟩ :=
    exists_ofNat? false hpow (Nat.pow_pos (by decide)) hfive (by omega)
  refine ⟨y, hy, hpos, ?_⟩
  rw [hvalue, Decimal.tenTo]
  exact Nat.cast_pow 10 j

/-- **A product with a small power of ten is rounded once.** -/
theorem exists_scaleTen? (hx : 0 < x.significand) (hk : k.natAbs ≤ 22)
    (hlow : (2 : ℚ) ^ (-1022 : ℤ) ≤ x.magnitude * 10 ^ k)
    (hhigh : x.magnitude * 10 ^ k < (2 : ℚ) ^ (1023 : ℤ)) :
    ∃ y, x.scaleTen? k = some y ∧ y.negative = x.negative ∧ leastNormal ≤ y.significand ∧
      y.Covers (x.magnitude * 10 ^ k) := by
  obtain ⟨power, hpower, hpos, hvalue⟩ := exists_ofNat?_tenTo hk
  have hx1 := ratio_fst_pos hx
  have hx2 := x.ratio_snd_pos
  have hp1 := ratio_fst_pos hpos
  have hp2 := power.ratio_snd_pos
  have hratio := x.cast_ratio
  have hratio' := power.cast_ratio
  rw [hvalue] at hratio'
  rw [scaleTen?, hpower, Option.bind_some]
  dsimp only
  by_cases hk0 : 0 ≤ k
  · have hquot : ((x.ratio.1 * power.ratio.1 : ℕ) : ℚ) / (x.ratio.2 * power.ratio.2 : ℕ) =
        x.magnitude * 10 ^ k := by
      have hzpow : (10 : ℚ) ^ k = 10 ^ k.natAbs := by
        rw [← zpow_natCast, Int.natAbs_of_nonneg hk0]
      rw [hzpow, ← hratio, ← hratio']
      push_cast
      rw [div_mul_div_comm]
    rw [if_pos hk0, ← hquot]
    rw [← hquot] at hlow hhigh
    exact exists_ofRatio? _ (Nat.mul_pos hx1 hp1) (Nat.mul_pos hx2 hp2) hlow hhigh
  · have hquot : ((x.ratio.1 * power.ratio.2 : ℕ) : ℚ) / (x.ratio.2 * power.ratio.1 : ℕ) =
        x.magnitude * 10 ^ k := by
      have hzpow : (10 : ℚ) ^ k = (10 ^ k.natAbs)⁻¹ := by
        have hneg : k = -(k.natAbs : ℤ) := by omega
        conv_lhs => rw [hneg]
        rw [zpow_neg, zpow_natCast]
      rw [hzpow, ← hratio, ← hratio', inv_div]
      push_cast
      rw [div_mul_div_comm]
    rw [if_neg hk0, ← hquot]
    rw [← hquot] at hlow hhigh
    exact exists_ofRatio? _ (Nat.mul_pos hx1 hp2) (Nat.mul_pos hx2 hp1) hlow hhigh

end

end BookSync.Binary64
