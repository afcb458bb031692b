/-
Half of a rounded sum, and the two numbers that were added.

The half of a sum should lie between its operands. It does so exactly as long as no more
was lost when the sum was rounded than what the operands are apart. That the half is
rounded once more does no harm: a half for which there is no room is so large that one of
its operands has no more places than the sum, and then everything is rounded
towards an operand.

* `exists_units_or_small`: a decimal has no more places than a sum, or it is
  small against what a coefficient can hold;
* `Midway`: the half lies between, and the error of the sum is no larger than the gap;
* `midway_of_units`, `midway_of_low`, `midway_of_high`: so it is for a rounded half, by the
  places that the operands have; `Rounded.midway` puts them together;
* `Rounded.half_between_iff`: in all, the half lies between if and only if the error is
  no larger than the gap.
-/
import BookSync.Proofs.Decimal.Half
import BookSync.Proofs.Decimal.Sum

namespace BookSync.Decimal

/-! ### Units of the last place -/

/-- Moved by `s` places, a decimal is an integer, or it is far from the largest
coefficient. -/
theorem exists_units_or_small (d : Decimal) (s : ℕ) :
    (∃ n : ℤ, d.value * 10 ^ s = n) ∨ s < d.scale ∧ 10 * |d.value * 10 ^ s| < bound := by
  by_cases hs : d.scale ≤ s
  · exact Or.inl ⟨_, value_mul_of_scale_le hs⟩
  · have hlt := Nat.lt_of_not_le hs
    refine Or.inr ⟨hlt, ?_⟩
    have hpow : (10 : ℚ) ^ (s + 1) ≤ 10 ^ d.scale := pow_le_pow_right₀ (by norm_num) hlt
    have hle : |d.value| * 10 ^ (s + 1) ≤ |d.value| * 10 ^ d.scale :=
      mul_le_mul_of_nonneg_left hpow (abs_nonneg _)
    have habs : |d.value| * 10 ^ d.scale = d.magnitude := by
      rw [value, abs_mul_pow, natAbs_coeff]
    have hcast : (d.magnitude : ℚ) < bound := by exact_mod_cast d.magnitude_lt
    rw [pow_succ, ← mul_assoc, habs] at hle
    rw [abs_mul, abs_of_pos (ten_pow_pos s)]
    linarith

/-! ### Rounded halves -/

/-- The half `m` of the sum `n` lies between the operands, and the error of the sum is
not larger than what they are apart. -/
structure Midway (low high n m : ℚ) : Prop where
  low_le : low ≤ m
  le_high : m ≤ high
  error : |n - (low + high)| ≤ high - low

theorem Midway.neg {low high n m : ℚ} (h : Midway (-high) (-low) (-n) (-m)) :
    Midway low high n m where
  low_le := neg_le_neg_iff.mp h.le_high
  le_high := neg_le_neg_iff.mp h.low_le
  error := by
    have herror := h.error
    have hsum : -n - (-high + -low) = -(n - (low + high)) := by ring
    rw [hsum, abs_neg] at herror
    linarith

section

variable {n m : ℤ}

/-- Between integers a rounded half does not leave the interval. -/
theorem midway_of_units {low high : ℤ} (h : low ≤ high) (hn : IsNearest n (low + high))
    (hm : IsNearest m (n / 2)) : Midway low high n m := by
  obtain rfl := hn.eq_of_eq (a := low + high) (by push_cast; rfl)
  have hcast : (low : ℚ) ≤ high := by exact_mod_cast h
  push_cast at hm ⊢
  have hlow := hm.le_of_le (a := low) (by linarith)
  have hhigh := hm.ge_of_ge (a := high) (by linarith)
  refine ⟨by exact_mod_cast hlow, by exact_mod_cast hhigh, ?_⟩
  rw [sub_self, abs_zero]
  linarith

/-- Half of a number without room for it is not below the lower operand, though that may have
been rounded down. -/
theorem le_half_of_large {r high : ℤ} {low : ℚ} (h : low ≤ high) (hsmall : 10 * |low| < bound)
    (hr : IsNearest r low) (hm : IsNearest m ((r + high : ℤ) / 2))
    (hlarge : bound ≤ 5 * (r + high).natAbs) : low ≤ m := by
  obtain ⟨hbelow, habove⟩ := hr.bounds
  have hle := hr.ge_of_ge h
  have hcast : (r : ℚ) ≤ high := by exact_mod_cast hle
  push_cast at hm
  have hrm := hm.le_of_le (a := r) (by linarith)
  by_cases hup : low ≤ r
  · exact hup.trans (by exact_mod_cast hrm)
  rcases hrm.lt_or_eq with hlt | rfl
  · have hstep : (r : ℚ) + 1 ≤ m := by exact_mod_cast hlt
    linarith
  · -- the half has come out as `r`, so that the operands are next to each other, and then they
    -- are too small for a half without room
    exfalso
    have hnear : (high : ℚ) ≤ r + 1 := by linarith [hm.bounds.1]
    have hnear : high ≤ r + 1 := by exact_mod_cast hnear
    have hlt : (10 * r : ℚ) < bound := by linarith [le_abs_self low]
    have hlt' : -(10 * r + 5 : ℚ) < bound := by linarith [neg_abs_le low]
    have hlt : 10 * r < (bound : ℤ) := by exact_mod_cast hlt
    have hlt' : -(10 * r + 5) < (bound : ℤ) := by exact_mod_cast hlt'
    have hne : high ≠ r := fun heq => hup (heq ▸ h)
    have hbound : bound = 79228162514264337593543950336 := rfl
    omega

/-- The lower operand has places that the sum has lost. -/
theorem midway_of_low {low : ℚ} {high : ℤ} (h : low ≤ high) (hsmall : 10 * |low| < bound)
    (hn : IsNearest n (low + high)) (hm : IsNearest m (n / 2))
    (hlarge : bound ≤ 5 * n.natAbs) : Midway low high n m := by
  -- the sum is the upper operand and the lower one, rounded to `r`
  obtain ⟨r, rfl⟩ : ∃ r, n = r + high := ⟨n - high, by omega⟩
  have hr : IsNearest r low := by simpa using hn.sub
  have hle : (r : ℚ) ≤ high := by exact_mod_cast hr.ge_of_ge h
  refine ⟨le_half_of_large h hsmall hr hm hlarge, ?_, ?_⟩
  · push_cast at hm
    exact_mod_cast hm.ge_of_ge (a := high) (by linarith)
  · have herror : ((r + high : ℤ) : ℚ) - (low + high) = r - low := by
      push_cast
      ring
    have hclosest := hr.closest high
    rwa [herror, ← abs_of_nonneg (sub_nonneg.mpr h)]

/-- The upper operand has places that the sum has lost. -/
theorem midway_of_high {low : ℤ} {high : ℚ} (h : low ≤ high) (hsmall : 10 * |high| < bound)
    (hn : IsNearest n (low + high)) (hm : IsNearest m (n / 2))
    (hlarge : bound ≤ 5 * n.natAbs) : Midway low high n m := by
  have hn' : IsNearest (-n) (-high + (-low : ℤ)) := by
    have hneg := hn.neg
    push_cast
    rwa [← neg_add, add_comm]
  have hm' : IsNearest (-m) ((-n : ℤ) / 2) := by
    have hneg := hm.neg
    push_cast
    rwa [neg_div]
  have h' : -high ≤ (-low : ℤ) := by
    push_cast
    linarith
  have hmidway := midway_of_low h' (by rwa [abs_neg]) hn' hm' (by rwa [Int.natAbs_neg])
  push_cast at hmidway
  exact hmidway.neg

/-- If both operands have places that the sum has lost, there is room for its half. -/
theorem not_large_of_small {low high : ℚ} (hlow : 10 * |low| < bound) (hhigh : 10 * |high| < bound)
    (hn : IsNearest n (low + high)) : ¬ bound ≤ 5 * n.natAbs := by
  have hbound : bound = 79228162514264337593543950336 := rfl
  obtain ⟨hbelow, habove⟩ := hn.bounds
  have hup : (10 * n : ℚ) < 2 * bound + 5 := by
    linarith [le_abs_self low, le_abs_self high]
  have hdown : -(10 * n : ℚ) < 2 * bound + 5 := by
    linarith [neg_abs_le low, neg_abs_le high]
  have hup : 10 * n < 2 * (bound : ℤ) + 5 := by exact_mod_cast hup
  have hdown : -(10 * n) < 2 * (bound : ℤ) + 5 := by exact_mod_cast hdown
  omega

end

/-! ### The half of a sum -/

namespace Rounded

variable {a b c : Decimal} {places : ℕ}

/-- Everything in units of the last place of the sum. -/
theorem midway (h : a.value ≤ b.value) (hc : Rounded (a.value + b.value) places c) {m : ℤ}
    (hm : IsNearest m (c.coeff / 2)) (hroom : c.scale = 28 ∨ bound ≤ 5 * c.magnitude) :
    Midway (a.value * 10 ^ c.scale) (b.value * 10 ^ c.scale) c.coeff m := by
  have hle : a.value * 10 ^ c.scale ≤ b.value * 10 ^ c.scale :=
    mul_le_mul_of_nonneg_right h (ten_pow_pos c.scale).le
  have hsum := hc.nearest
  rw [add_mul] at hsum
  have hlarge : c.scale ≠ 28 → bound ≤ 5 * c.coeff.natAbs := by
    rw [natAbs_coeff]
    exact hroom.resolve_left
  have ha := a.scale_le
  have hb := b.scale_le
  rcases exists_units_or_small a c.scale with ⟨low, hlow⟩ | ⟨hplaces, hlow⟩
  · rcases exists_units_or_small b c.scale with ⟨high, hhigh⟩ | ⟨hplaces', hhigh⟩
    · rw [hlow, hhigh] at hle hsum ⊢
      exact midway_of_units (by exact_mod_cast hle) hsum hm
    · rw [hlow] at hle hsum ⊢
      exact midway_of_high hle hhigh hsum hm (hlarge (by omega))
  · rcases exists_units_or_small b c.scale with ⟨high, hhigh⟩ | ⟨hplaces', hhigh⟩
    · rw [hhigh] at hle hsum ⊢
      exact midway_of_low hle hlow hsum hm (hlarge (by omega))
    · exact absurd (hlarge (by omega)) (not_large_of_small hlow hhigh hsum)

/-- **When the half of a rounded sum lies between the operands.** -/
theorem half_between_iff (h : a.value ≤ b.value) (hc : Rounded (a.value + b.value) places c) :
    (a.value ≤ c.half.value ∧ c.half.value ≤ b.value) ↔
      |c.value - (a.value + b.value)| ≤ b.value - a.value := by
  cases halved_half c with
  | exact hhalf =>
    rw [hhalf, abs_le]
    constructor
    · rintro ⟨hlow, hhigh⟩
      constructor
      · linarith
      · linarith
    · rintro ⟨hlow, hhigh⟩
      constructor
      · linarith
      · linarith
  | rounded m hm hnearest hroom =>
    have hunit := ten_pow_pos c.scale
    obtain ⟨hlow, hhigh, herror⟩ := hc.midway h hnearest hroom
    have hgap : |c.value - (a.value + b.value)| * 10 ^ c.scale ≤
        (b.value - a.value) * 10 ^ c.scale := by
      rw [← abs_of_pos hunit, ← abs_mul, abs_of_pos hunit, sub_mul, value_mul_pow_scale, add_mul,
        sub_mul]
      exact herror
    refine iff_of_true ⟨?_, ?_⟩ (le_of_mul_le_mul_right hgap hunit)
    · rw [hm, le_div_iff₀ hunit]
      exact hlow
    · rw [hm, div_le_iff₀ hunit]
      exact hhigh

end Rounded

end BookSync.Decimal
