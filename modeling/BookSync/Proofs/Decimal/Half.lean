/-
Halves of decimals, against exact numbers.

The half of a decimal is exact wherever there is room for one more digit. Where there is
none, it is rounded to the places that the decimal has:

* `parts_cutFraction`: zeros that are cut off the end do not change the number;
* `Halved`: the two ways in which a half can come out;
* `halved_half`: no other is possible.
-/
import BookSync.Proofs.Decimal.Exact
import BookSync.Proofs.Decimal.HalfEven
import Mathlib.Tactic.FieldSimp
import Mathlib.Tactic.Ring

namespace BookSync.Decimal

/-! ### Zeros at the end -/

/-- The number of a coefficient and a scale. -/
def parts (p : ℕ × ℕ) : ℚ := p.1 / 10 ^ p.2

theorem parts_cutZeros (k : ℕ) (p : ℕ × ℕ) : parts (cutZeros k p) = parts p := by
  obtain ⟨n, scale⟩ := p
  rw [cutZeros]
  split
  · rename_i h
    obtain ⟨hmod, hk⟩ := h
    obtain ⟨q, rfl⟩ : 10 ^ k ∣ n := Nat.dvd_of_mod_eq_zero hmod
    obtain ⟨e, rfl⟩ := Nat.exists_eq_add_of_le hk
    have hdiv : 10 ^ k * q / tenTo k = q := Nat.mul_div_cancel_left q (Nat.pow_pos (by decide))
    rw [parts, parts]
    dsimp only
    rw [hdiv, Nat.add_sub_cancel_left, pow_add, Nat.cast_mul, Nat.cast_pow, Nat.cast_ofNat,
      mul_div_mul_left _ _ (ten_pow_pos k).ne']
  · rfl

theorem parts_cutEights (fuel : ℕ) (p : ℕ × ℕ) : parts (cutEights fuel p) = parts p := by
  induction fuel generalizing p with
  | zero => rfl
  | succ fuel ih =>
    rw [cutEights]
    split
    · rename_i h
      have hcut : cutZeros 8 p = (p.1 / tenTo 8, p.2 - 8) := if_pos h.2
      rw [ih, ← hcut, parts_cutZeros]
    · rfl

theorem parts_cutOnce (k m : ℕ) (p : ℕ × ℕ) : parts (cutOnce k m p) = parts p := by
  rw [cutOnce]
  split
  · exact parts_cutZeros k p
  · rfl

theorem parts_cutFraction (p : ℕ × ℕ) : parts (cutFraction p) = parts p := by
  rw [cutFraction, parts_cutOnce, parts_cutOnce, parts_cutOnce, parts_cutEights]

/-! ### Half of a coefficient -/

/-- Half of `m` units of the place `scale`, as it can come out. -/
inductive HalvedUnits (m scale : ℕ) (y : ℚ) : Prop
  | exact (h : y = m / 2 / 10 ^ scale)
  /-- There is no room for one more digit. -/
  | rounded (c : ℕ) (hy : y = c / 10 ^ scale) (hc : IsNearest c (m / 2))
      (hroom : scale = 28 ∨ bound ≤ 5 * m)

section

variable {m scale : ℕ}

/-- If there is no room, then one digit would already be too many. -/
theorem full_of_room_eq_zero {n : ℕ} (hs : scale ≤ 28) (h : room n scale = 0) :
    scale = 28 ∨ bound ≤ n * 10 := by
  by_contra hno
  obtain ⟨hscale, hlt⟩ := not_or.mp hno
  have hone : scale + 1 ≤ 28 ∧ n * tenTo 1 < bound :=
    ⟨by omega, by simpa [tenTo] using hlt⟩
  have hlist : (List.range 10).reverse = [9, 8, 7, 6, 5, 4, 3, 2] ++ [1, 0] := rfl
  rw [room, hlist, List.find?_append] at h
  cases hmore : [9, 8, 7, 6, 5, 4, 3, 2].find? fun k =>
      decide (scale + k ≤ 28 ∧ n * tenTo k < bound) with
  | none =>
    rw [hmore, Option.none_or, List.find?_cons, decide_eq_true hone] at h
    exact absurd h Nat.one_ne_zero
  | some k =>
    rw [hmore] at h
    obtain rfl : k = 0 := h
    exact absurd (List.mem_of_find?_eq_some hmore) (by decide)

/-- With one more digit every half is exact. -/
theorem half_mul_tenTo (m j : ℕ) : m * tenTo (j + 1) / 2 = m * 5 * 10 ^ j := by
  have htwice : m * tenTo (j + 1) = m * 5 * 10 ^ j * 2 := by
    show m * 10 ^ (j + 1) = _
    ring
  rw [htwice, Nat.mul_div_cancel _ (by decide)]

theorem parts_five (m scale j : ℕ) :
    parts (m * 5 * 10 ^ j, scale + (j + 1)) = m / 2 / 10 ^ scale := by
  rw [parts]
  push_cast
  rw [pow_add, pow_succ]
  field_simp
  ring

theorem halvedUnits_halfOdd (hs : scale ≤ 28) : HalvedUnits m scale (parts (halfOdd m scale)) := by
  have hfull := full_of_room_eq_zero (n := m / 2) hs
  rw [halfOdd, parts_cutFraction]
  generalize room (m / 2) scale = k at hfull
  cases k with
  | zero =>
    refine .rounded _ rfl (isNearest_divNearest m (by decide)) ((hfull rfl).imp_right fun h => ?_)
    omega
  | succ j =>
    rw [if_neg (Nat.succ_ne_zero j), half_mul_tenTo]
    split
    · exact .exact (parts_five m scale j)
    · rename_i hlarge
      rw [Nat.add_succ_sub_one]
      cases j with
      | zero =>
        rw [pow_zero, Nat.mul_one] at hlarge ⊢
        have hnearest := isNearest_divNearest (m * 5) (b := 10) (by decide)
        have hhalf : ((m * 5 : ℕ) : ℚ) / (10 : ℕ) = m / 2 := by
          push_cast
          ring
        rw [hhalf] at hnearest
        exact .rounded _ rfl hnearest (Or.inr (by omega))
      | succ i =>
        -- the digit that is dropped is a zero
        rw [pow_succ, ← Nat.mul_assoc, divNearest_mul_right _ (by decide)]
        exact .exact (parts_five m scale i)

theorem halvedUnits_halfNat (m : ℕ) (hs : scale ≤ 28) :
    HalvedUnits m scale (parts (halfNat m scale)) := by
  rw [halfNat]
  split
  · rename_i hzero
    refine .exact ?_
    rw [hzero, parts]
    norm_num
  · split
    · rename_i heven
      refine .exact ?_
      obtain ⟨q, rfl⟩ : 2 ∣ m := Nat.dvd_of_mod_eq_zero heven
      rw [parts, Nat.mul_div_cancel_left q (by decide)]
      push_cast
      rw [mul_div_cancel_left₀ _ (by norm_num)]
    · exact halvedUnits_halfOdd hs

end

/-! ### Half of a decimal -/

/-- What the half of a decimal can come out as. -/
inductive Halved (d y : Decimal) : Prop
  | exact (h : y.value = d.value / 2)
  /-- There is no room for one more digit. -/
  | rounded (c : ℤ) (hy : y.value = c / 10 ^ d.scale) (hc : IsNearest c (d.coeff / 2))
      (hroom : d.scale = 28 ∨ bound ≤ 5 * d.magnitude)

/-- A half that is rounded to zero has lost its sign, and nothing else. -/
theorem value_half (d : Decimal) :
    d.half.value = (if d.negative then -1 else 1) * parts (halfNat d.magnitude d.scale) := by
  rw [value_eq_sign, half, parts]
  dsimp only
  cases d.negative with
  | false => simp
  | true =>
    by_cases hzero : (halfNat d.magnitude d.scale).1 = 0
    · simp [hzero]
    · simp [hzero]

/-- **A half is exact, or there is no room for it.** -/
theorem halved_half (d : Decimal) : Halved d d.half := by
  cases halvedUnits_halfNat d.magnitude d.scale_le with
  | exact h =>
    refine .exact ?_
    rw [value_half, h, value_eq_sign]
    ring
  | rounded c hy hc hroom =>
    refine .rounded ((if d.negative then -1 else 1) * c) ?_ ?_ hroom
    · rw [value_half, hy]
      push_cast
      ring
    · rw [coeff_eq]
      cases d.negative with
      | false => simpa using hc
      | true => simpa [neg_div] using hc.neg

end BookSync.Decimal
