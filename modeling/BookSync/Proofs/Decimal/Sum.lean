/-
Sums and differences, against exact numbers.

A sum is written with the larger scale of its operands. If there is no room for that,
as few digits as possible are dropped. What comes out is told here by the exact sum alone:

* `Rounded`: a decimal is a number rounded to its own places, and fewer places
  than there should be mean that one more would not have fitted;
* `Rounded.eq_of_representable`: of a number that is a decimal nothing is lost;
* `Rounded.pos_iff`: rounding keeps the sign, as the digits that are left are many;
* `add?_eq_some`, `sub?_eq_some`: sums and differences are such decimals;
* `add?_eq_none_iff`, `sub?_eq_none_iff`: there is none exactly if the result is not
  less than half a unit below the bound, and then `add` and `sub` say what failed;
* `add_of_representable`, `sub_of_representable`: a result that is a decimal is exact.
-/
import BookSync.Proofs.Decimal.HalfEven
import BookSync.Proofs.Decimal.Nearest

namespace BookSync.Decimal

/-! ### Values -/

section

variable (d : Decimal)

theorem value_mul_pow_scale : d.value * 10 ^ d.scale = d.coeff := by
  rw [value, div_mul_cancel₀ _ (ten_pow_pos _).ne']

theorem value_neg : d.neg.value = -d.value := by
  rw [value, coeff_neg, Int.cast_neg, neg_div]
  rfl

/-- A decimal is at least one unit below the bound. -/
theorem abs_value_le : |d.value| ≤ (bound : ℚ) - 1 := by
  have hpow : (1 : ℚ) ≤ 10 ^ d.scale := one_le_pow₀ (by norm_num)
  have habs := abs_mul_pow d.coeff d.scale
  rw [natAbs_coeff, ← value] at habs
  have hlt : (d.magnitude : ℚ) + 1 ≤ bound := by exact_mod_cast d.magnitude_lt
  have hle : |d.value| * 1 ≤ |d.value| * 10 ^ d.scale :=
    mul_le_mul_of_nonneg_left hpow (abs_nonneg _)
  linarith

end

theorem Representable.abs_le {x : ℚ} (h : Representable x) : |x| ≤ (bound : ℚ) - 1 := by
  obtain ⟨c, s, hc, hs, rfl⟩ := h
  obtain ⟨d, -, hvalue⟩ := exists_ofCoeff? hc hs
  exact hvalue ▸ d.abs_value_le

/-! ### Rounded numbers -/

/-- The decimal is the number, rounded if there is no room for its places. -/
structure Rounded (x : ℚ) (places : ℕ) (d : Decimal) : Prop where
  scale_le : d.scale ≤ places
  nearest : IsNearest d.coeff (x * 10 ^ d.scale)
  /-- Digits are dropped only if one more would be too many. -/
  full : d.value ≠ x → d.scale < places ∧ (bound : ℚ) - 1 / 2 ≤ |x| * 10 ^ (d.scale + 1)

namespace Rounded

variable {x : ℚ} {places : ℕ} {d : Decimal}

theorem of_eq (hscale : d.scale ≤ places) (h : d.value = x) : Rounded x places d where
  scale_le := hscale
  nearest := .of_eq (by rw [← h, value_mul_pow_scale])
  full hne := absurd h hne

/-- **Of a number that is a decimal nothing is lost.** -/
theorem eq_of_representable (h : Rounded x places d) (hx : Representable x) : d.value = x := by
  by_contra hne
  obtain ⟨-, hfull⟩ := h.full hne
  obtain ⟨c, s, hc, -, rfl⟩ := hx
  by_cases hs : s ≤ d.scale
  · -- there are places enough
    obtain ⟨e, he⟩ := Nat.exists_eq_add_of_le hs
    have hunits : (c : ℚ) / 10 ^ s * 10 ^ d.scale = (c * 10 ^ e : ℤ) := by
      rw [he, pow_add, ← mul_assoc, div_mul_cancel₀ _ (ten_pow_pos s).ne']
      push_cast
      rfl
    have hcoeff := h.nearest.eq_of_eq hunits
    exact hne (by rw [value, hcoeff, ← hunits, mul_div_cancel_right₀ _ (ten_pow_pos _).ne'])
  · -- one digit more would not have been too many
    have hpow : (10 : ℚ) ^ (d.scale + 1) ≤ 10 ^ s :=
      pow_le_pow_right₀ (by norm_num) (Nat.lt_of_not_le hs)
    have hle : |(c : ℚ) / 10 ^ s| * 10 ^ (d.scale + 1) ≤ |(c : ℚ) / 10 ^ s| * 10 ^ s :=
      mul_le_mul_of_nonneg_left hpow (abs_nonneg _)
    have hcast : (c.natAbs : ℚ) + 1 ≤ bound := by exact_mod_cast hc
    rw [abs_mul_pow] at hle
    linarith

/-- **Rounding keeps the sign.** -/
theorem pos_iff (h : Rounded x places d) : 0 < d.value ↔ 0 < x := by
  have hcoeff : 0 < d.value ↔ 0 < d.coeff := by
    rw [value, div_pos_iff_of_pos_right (ten_pow_pos _), Int.cast_pos]
  constructor
  · intro hpos
    by_contra hx
    have hscaled : x * 10 ^ d.scale ≤ (0 : ℤ) := by
      rw [Int.cast_zero]
      exact mul_nonpos_of_nonpos_of_nonneg (not_lt.mp hx) (ten_pow_pos _).le
    have hle := h.nearest.ge_of_ge hscaled
    have hlt := hcoeff.mp hpos
    omega
  · intro hx
    by_contra hpos
    -- a number that is rounded to zero has places to spare
    have hne : d.value ≠ x := fun heq => hpos (heq ▸ hx)
    obtain ⟨-, hfull⟩ := h.full hne
    have hle : d.coeff ≤ 0 := not_lt.mp fun hlt => hpos (hcoeff.mpr hlt)
    have hcast : (d.coeff : ℚ) ≤ 0 := by exact_mod_cast hle
    have hbelow := h.nearest.bounds.1
    have hbound : (11 : ℚ) ≤ bound := by
      rw [bound]
      norm_num
    rw [abs_of_pos hx, pow_succ, ← mul_assoc] at hfull
    linarith

end Rounded

/-! ### Rounding to fit -/

section

variable {n : ℤ} {places : ℕ} {d : Decimal}

theorem ofCoeff?_eq_none_iff {c : ℤ} {s : ℕ} (hs : s ≤ 28) :
    ofCoeff? c s = none ↔ bound ≤ c.natAbs := by
  rw [ofCoeff?]
  split
  · rename_i h
    simp only [reduceCtorEq, false_iff, not_le]
    exact h.1
  · rename_i h
    simp only [true_iff]
    exact not_lt.mp fun hlt => h ⟨hlt, hs⟩

theorem tenTo_pos (k : ℕ) : 0 < tenTo k := Nat.pow_pos (by decide)

/-- A number with `k` places dropped. -/
theorem div_tenTo_eq {k : ℕ} (hk : k ≤ places) :
    (n : ℚ) / tenTo k = n / 10 ^ places * 10 ^ (places - k) := by
  have hcast : ((tenTo k : ℕ) : ℚ) = 10 ^ k := by exact_mod_cast cast_tenTo k
  have hpow : (10 : ℚ) ^ places = 10 ^ k * 10 ^ (places - k) := by
    rw [← pow_add, Nat.add_sub_cancel' hk]
  rw [hcast, hpow, div_mul_eq_mul_div, mul_div_mul_right _ _ (ten_pow_pos _).ne']

/-- What fits has been tried with more places before. -/
theorem exists_of_fit? (h : fit? n places = some d) : ∃ k ≤ places,
    ofCoeff? (divNearestInt n (tenTo k)) (places - k) = some d ∧
      ∀ j < k, ofCoeff? (divNearestInt n (tenTo j)) (places - j) = none := by
  obtain ⟨before, k, after, hsplit, hk, hbefore⟩ := List.findSome?_eq_some_iff.mp h
  have hmem : k ∈ List.range (places + 1) := hsplit ▸ List.mem_append_right _ List.mem_cons_self
  have hlt := List.mem_range.mp hmem
  refine ⟨k, by omega, hk, fun j hj => hbefore j ?_⟩
  -- all numbers behind `k` in the list are larger
  have hordered := List.pairwise_lt_range (n := places + 1)
  rw [hsplit] at hordered
  obtain ⟨-, hrest, -⟩ := List.pairwise_append.mp hordered
  have hj' : j ∈ before ++ k :: after := hsplit ▸ List.mem_range.mpr (by omega)
  rcases List.mem_append.mp hj' with hmem | hmem
  · exact hmem
  · rcases List.mem_cons.mp hmem with rfl | hmem
    · omega
    · have hlarger := (List.pairwise_cons.mp hrest).1 j hmem
      omega

theorem fit?_eq_some (hplaces : places ≤ 28) (h : fit? n places = some d) :
    Rounded (n / 10 ^ places) places d := by
  obtain ⟨k, hk, hd, hsmaller⟩ := exists_of_fit? h
  have hcoeff := coeff_of_ofCoeff? hd
  obtain ⟨-, -, hscale⟩ := ofCoeff?_eq_some_iff.mp hd
  have hnearest := isNearest_divNearestInt n (tenTo_pos k)
  rw [div_tenTo_eq hk, ← hscale, ← hcoeff] at hnearest
  refine ⟨by omega, hnearest, fun hne => ?_⟩
  obtain ⟨j, rfl⟩ : ∃ j, k = j + 1 := by
    refine Nat.exists_eq_succ_of_ne_zero fun hzero => hne ?_
    -- without a digit dropped, the number is exact
    rw [hzero, Nat.sub_zero] at hscale
    rw [hscale, div_mul_cancel₀ _ (ten_pow_pos _).ne'] at hnearest
    rw [value, hnearest.eq_of_eq rfl, hscale]
  have hfull := (ofCoeff?_eq_none_iff (by omega)).mp (hsmaller j (Nat.lt_succ_self j))
  have hscale' : d.scale + 1 = places - j := by omega
  have hj : j ≤ places := by omega
  rw [bound_le_natAbs_iff n (tenTo_pos j), div_tenTo_eq hj, abs_mul,
    abs_of_pos (ten_pow_pos _)] at hfull
  rw [hscale']
  exact ⟨by omega, hfull⟩

theorem fit?_eq_none_iff (hplaces : places ≤ 28) :
    fit? n places = none ↔ (bound : ℚ) - 1 / 2 ≤ |(n : ℚ) / 10 ^ places| := by
  have htry : ∀ k ≤ places, ofCoeff? (divNearestInt n (tenTo k)) (places - k) = none ↔
      (bound : ℚ) - 1 / 2 ≤ |(n : ℚ) / 10 ^ places| * 10 ^ (places - k) := by
    intro k hk
    rw [ofCoeff?_eq_none_iff (by omega), bound_le_natAbs_iff n (tenTo_pos k), div_tenTo_eq hk,
      abs_mul, abs_of_pos (ten_pow_pos _)]
  rw [fit?, List.findSome?_eq_none_iff]
  constructor
  · intro h
    have hlast := (htry places le_rfl).mp (h places (List.mem_range.mpr (Nat.lt_succ_self _)))
    rwa [Nat.sub_self, pow_zero, mul_one] at hlast
  · intro h k hk
    have hpow : (1 : ℚ) ≤ 10 ^ (places - k) := one_le_pow₀ (by norm_num)
    refine (htry k (by have := List.mem_range.mp hk; omega)).mpr (h.trans ?_)
    exact le_mul_of_one_le_right (abs_nonneg _) hpow

end

/-! ### Sum and difference -/

section

variable {a b c : Decimal}

/-- Both operands with the larger scale. -/
theorem widen_add_widen (a b : Decimal) :
    ((a.widen (max a.scale b.scale - a.scale) + b.widen (max a.scale b.scale - b.scale) : ℤ) : ℚ) /
      10 ^ max a.scale b.scale = a.value + b.value := by
  have hwiden : ∀ d : Decimal, ∀ s, d.scale ≤ s →
      (d.widen (s - d.scale) : ℚ) = d.value * 10 ^ s := by
    intro d s hs
    rw [widen, value_mul_of_scale_le hs]
  rw [Int.cast_add, hwiden a _ (le_max_left _ _), hwiden b _ (le_max_right _ _), ← add_mul,
    mul_div_cancel_right₀ _ (ten_pow_pos _).ne']

theorem max_scale_le (a b : Decimal) : max a.scale b.scale ≤ 28 := max_le a.scale_le b.scale_le

/-- **The sum, if there is one.** -/
theorem add?_eq_some (h : add? a b = some c) :
    Rounded (a.value + b.value) (max a.scale b.scale) c := by
  rw [add?] at h
  split at h
  · rename_i ha
    obtain rfl := Option.some_inj.mp h
    rw [isZero_iff_value.mp ha, zero_add]
    exact .of_eq (le_max_right _ _) rfl
  · split at h
    · rename_i hb
      obtain rfl := Option.some_inj.mp h
      rw [isZero_iff_value.mp hb, add_zero]
      exact .of_eq (le_max_left _ _) rfl
    · rw [← widen_add_widen]
      exact fit?_eq_some (max_scale_le a b) h

/-- **When a sum is too large.** -/
theorem add?_eq_none_iff : add? a b = none ↔ (bound : ℚ) - 1 / 2 ≤ |a.value + b.value| := by
  have hsmall : ∀ d : Decimal, ¬ (bound : ℚ) - 1 / 2 ≤ |d.value| := by
    intro d hle
    have habs := d.abs_value_le
    linarith
  rw [add?]
  split
  · rename_i ha
    rw [isZero_iff_value.mp ha, zero_add]
    simpa using hsmall b
  · split
    · rename_i hb
      rw [isZero_iff_value.mp hb, add_zero]
      simpa using hsmall a
    · rw [← widen_add_widen]
      exact fit?_eq_none_iff (max_scale_le a b)

/-- **The difference, if there is one.** -/
theorem sub?_eq_some (h : sub? a b = some c) :
    Rounded (a.value - b.value) (max a.scale b.scale) c := by
  rw [sub?] at h
  split at h
  · rename_i hzero
    obtain ⟨ha, hb⟩ := Bool.and_eq_true_iff.mp hzero
    obtain rfl := Option.some_inj.mp h
    refine .of_eq (le_max_right _ _) ?_
    rw [isZero_iff_value.mp ha, isZero_iff_value.mp hb, sub_zero]
  · have hsum := add?_eq_some h
    rwa [value_neg, ← sub_eq_add_neg] at hsum

/-- **When a difference is too large.** -/
theorem sub?_eq_none_iff : sub? a b = none ↔ (bound : ℚ) - 1 / 2 ≤ |a.value - b.value| := by
  rw [sub?]
  split
  · rename_i hzero
    obtain ⟨ha, hb⟩ := Bool.and_eq_true_iff.mp hzero
    have hbound : ¬ (bound : ℚ) - 1 / 2 ≤ 0 := by
      rw [bound]
      norm_num
    rw [isZero_iff_value.mp ha, isZero_iff_value.mp hb, sub_zero, abs_zero]
    exact iff_of_false (by simp) hbound
  · rw [add?_eq_none_iff, value_neg, ← sub_eq_add_neg]

/-! ### Success and failure -/

theorem add_eq_ok_iff : add a b = .ok c ↔ add? a b = some c := by
  rw [add]
  cases add? a b <;> simp

theorem sub_eq_ok_iff : sub a b = .ok c ↔ sub? a b = some c := by
  rw [sub]
  cases sub? a b <;> simp

/-- A sum fails in one way only. -/
theorem add_eq_error_iff {e : Overflow} :
    add a b = .error e ↔ e = .sum ∧ (bound : ℚ) - 1 / 2 ≤ |a.value + b.value| := by
  rw [← add?_eq_none_iff, add]
  cases add? a b <;> simp [eq_comm]

theorem sub_eq_error_iff {e : Overflow} :
    sub a b = .error e ↔ e = .difference ∧ (bound : ℚ) - 1 / 2 ≤ |a.value - b.value| := by
  rw [← sub?_eq_none_iff, sub]
  cases sub? a b <;> simp [eq_comm]

/-- **A sum that is a decimal is exact.** -/
theorem add_of_representable (h : Representable (a.value + b.value)) :
    ∃ c, add a b = .ok c ∧ c.value = a.value + b.value := by
  cases hc : add a b with
  | error e =>
    have hlarge := (add_eq_error_iff.mp hc).2
    linarith [h.abs_le]
  | ok c => exact ⟨c, rfl, (add?_eq_some (add_eq_ok_iff.mp hc)).eq_of_representable h⟩

/-- **So is a difference.** -/
theorem sub_of_representable (h : Representable (a.value - b.value)) :
    ∃ c, sub a b = .ok c ∧ c.value = a.value - b.value := by
  cases hc : sub a b with
  | error e =>
    have hlarge := (sub_eq_error_iff.mp hc).2
    linarith [h.abs_le]
  | ok c => exact ⟨c, rfl, (sub?_eq_some (sub_eq_ok_iff.mp hc)).eq_of_representable h⟩

end

end BookSync.Decimal
