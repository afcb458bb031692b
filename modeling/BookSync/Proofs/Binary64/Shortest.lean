/-
The search for the shortest digits.

The shortest digits of a floating point number are found by trying one power of ten after
the other. A decimal number with few digits that lies between the bounds is found, and no
other, as there is only one with so few digits between them.

* `fits_iff`: the test of the search, as a statement on rational numbers;
* `exists_onGrid?`: a power of ten has a hit if one of its multiples lies between the bounds;
* `searchGrid_spec`: the search ends at the first power with a hit;
* `powerAbove_bounds`: the power at which the search begins;
* `shortest_eq`: a number of fifteen digits between the bounds is the one that is found.
-/
import BookSync.Proofs.Binary64.Rounding

namespace BookSync.Binary64

theorem ten_zpow_pos (e : ℤ) : (0 : ℚ) < 10 ^ e := zpow_pos (by norm_num) e

/-! ### One power of ten -/

section

variable (x : Binary64) (power : ℤ)

/-- The multiple of the power of ten lies between the bounds, as the search tests it. -/
def fits (c : ℕ) : Bool :=
  let (lo, _, hi) := x.quarters
  let (p, q) := powRatio 2 (x.exponent - 2)
  let (s, t) := powRatio 10 power
  if x.significand % 2 = 0 then lo * (p * t) ≤ c * (q * s) && c * (q * s) ≤ hi * (p * t)
  else lo * (p * t) < c * (q * s) && c * (q * s) < hi * (p * t)

/-- How many times the power of ten goes into the number. -/
def multiple : ℕ :=
  4 * x.significand * ((powRatio 2 (x.exponent - 2)).1 * (powRatio 10 power).2) /
    ((powRatio 2 (x.exponent - 2)).2 * (powRatio 10 power).1)

/-- Both neighbours are tried. -/
theorem onGrid?_cases (tie : Tie) :
    (∃ c, x.onGrid? tie power = some c ∧ x.fits power c = true) ∨
      (x.onGrid? tie power = none ∧ x.fits power (x.multiple power) = false ∧
        x.fits power (x.multiple power + 1) = false) := by
  rw [onGrid?]
  dsimp only
  split
  · rename_i hc hc'
    refine Or.inl ⟨_, rfl, ?_⟩
    split
    · exact hc
    · exact hc'
  · rename_i hc _
    exact Or.inl ⟨_, rfl, hc⟩
  · rename_i _ hc'
    exact Or.inl ⟨_, rfl, hc'⟩
  · rename_i hc hc'
    exact Or.inr ⟨rfl, hc, hc'⟩

/-- The common denominator of the comparisons. -/
def denominator : ℚ := (powRatio 2 (x.exponent - 2)).2 * (powRatio 10 power).2

theorem denominator_pos : 0 < x.denominator power := by
  have hq : (0 : ℚ) < (powRatio 2 (x.exponent - 2)).2 := by
    exact_mod_cast (powRatio_pos _ (by decide)).2
  have ht : (0 : ℚ) < (powRatio 10 power).2 := by exact_mod_cast (powRatio_pos _ (by decide)).2
  exact mul_pos hq ht

theorem cast_quarter (a : ℕ) :
    ((a * ((powRatio 2 (x.exponent - 2)).1 * (powRatio 10 power).2) : ℕ) : ℚ) =
      a * 2 ^ (x.exponent - 2) * x.denominator power := by
  have htwo := cast_powRatio_two (x.exponent - 2)
  push_cast
  rw [htwo, denominator]
  ring

theorem cast_multiple (c : ℕ) :
    ((c * ((powRatio 2 (x.exponent - 2)).2 * (powRatio 10 power).1) : ℕ) : ℚ) =
      c * 10 ^ power * x.denominator power := by
  have hten := cast_powRatio_ten power
  push_cast
  rw [hten, denominator]
  ring

/-- **What the search tests.** -/
theorem fits_iff (c : ℕ) : x.fits power c = true ↔ x.Covers (c * 10 ^ power) := by
  have hpos := x.denominator_pos power
  have hlow : ∀ a, a * ((powRatio 2 (x.exponent - 2)).1 * (powRatio 10 power).2) ≤
      c * ((powRatio 2 (x.exponent - 2)).2 * (powRatio 10 power).1) ↔
        (a * 2 ^ (x.exponent - 2) : ℚ) ≤ c * 10 ^ power := by
    intro a
    rw [← Nat.cast_le (α := ℚ), cast_quarter, cast_multiple, mul_le_mul_iff_of_pos_right hpos]
  have hhigh : ∀ a, c * ((powRatio 2 (x.exponent - 2)).2 * (powRatio 10 power).1) ≤
      a * ((powRatio 2 (x.exponent - 2)).1 * (powRatio 10 power).2) ↔
        (c * 10 ^ power : ℚ) ≤ a * 2 ^ (x.exponent - 2) := by
    intro a
    rw [← Nat.cast_le (α := ℚ), cast_quarter, cast_multiple, mul_le_mul_iff_of_pos_right hpos]
  rw [fits, Covers, lower, upper]
  dsimp only
  split
  · rw [Bool.and_eq_true, decide_eq_true_iff, decide_eq_true_iff, hlow, hhigh]
  · rw [Bool.and_eq_true, decide_eq_true_iff, decide_eq_true_iff, ← not_le, ← not_le, hlow, hhigh,
      not_le, not_le]

/-- The number lies between two neighbouring multiples of the power of ten. -/
theorem multiple_bounds : (x.multiple power * 10 ^ power : ℚ) ≤ x.magnitude ∧
    x.magnitude < (x.multiple power + 1) * 10 ^ power := by
  have hpos := x.denominator_pos power
  have hden : 0 < (powRatio 2 (x.exponent - 2)).2 * (powRatio 10 power).1 :=
    Nat.mul_pos (powRatio_pos _ (by decide)).2 (powRatio_pos _ (by decide)).1
  have hmagnitude : x.magnitude = (4 * x.significand : ℕ) * 2 ^ (x.exponent - 2) := by
    rw [magnitude_eq]
    push_cast
    rfl
  rw [hmagnitude]
  constructor
  · rw [← mul_le_mul_iff_of_pos_right hpos, ← cast_quarter, ← cast_multiple, Nat.cast_le]
    exact Nat.div_mul_le_self _ _
  · have hsucc : (x.multiple power + 1 : ℚ) = (x.multiple power + 1 : ℕ) := by push_cast; rfl
    rw [hsucc, ← mul_lt_mul_iff_of_pos_right hpos, ← cast_quarter, ← cast_multiple, Nat.cast_lt]
    exact Nat.lt_mul_of_div_lt (Nat.lt_succ_self _) hden

end

section

variable {x : Binary64} {power : ℤ} {tie : Tie}

theorem covers_of_onGrid? {c : ℕ} (h : x.onGrid? tie power = some c) :
    x.Covers (c * 10 ^ power) := by
  rcases x.onGrid?_cases power tie with ⟨c', hc', hfits⟩ | ⟨hnone, -, -⟩
  · obtain rfl := Option.some_inj.mp (h.symm.trans hc')
    exact (x.fits_iff power c).mp hfits
  · exact absurd (h.symm.trans hnone) (by simp)

/-- **A power of ten with a multiple between the bounds has a hit.** A multiple that is not
next to the number has one of the neighbours between itself and the number. -/
theorem exists_onGrid? (tie : Tie) {c : ℕ} (hx : 0 < x.significand)
    (h : x.Covers (c * 10 ^ power)) : ∃ c', x.onGrid? tie power = some c' := by
  rcases x.onGrid?_cases power tie with ⟨c', hc', -⟩ | ⟨-, hbelow, habove⟩
  · exact ⟨c', hc'⟩
  · -- the number itself is covered, so that all between it and the multiple is covered, too
    exfalso
    have hself := covers_magnitude hx
    have hten := (ten_zpow_pos power).le
    obtain ⟨hlow, hhigh⟩ := x.multiple_bounds power
    rcases Nat.lt_or_ge (x.multiple power) c with hlt | hle
    · have hcast : ((x.multiple power + 1 : ℕ) : ℚ) ≤ c := by exact_mod_cast hlt
      have hfits : x.Covers ((x.multiple power + 1 : ℕ) * 10 ^ power) := by
        refine hself.convex h ?_ (mul_le_mul_of_nonneg_right hcast hten)
        push_cast
        exact hhigh.le
      rw [← fits_iff, habove] at hfits
      exact absurd hfits (by simp)
    · have hcast : (c : ℚ) ≤ x.multiple power := by exact_mod_cast hle
      have hfits : x.Covers (x.multiple power * 10 ^ power) :=
        h.convex hself (mul_le_mul_of_nonneg_right hcast hten) hlow
      rw [← fits_iff, hbelow] at hfits
      exact absurd hfits (by simp)

/-! ### The search -/

/-- **The search ends at the first power with a hit.** -/
theorem searchGrid_spec {steps : ℕ} {start : ℤ} (hstart : power ≤ start)
    (hsteps : start - power < steps) (hhit : ∃ c, x.onGrid? tie power = some c) :
    power ≤ (x.searchGrid tie steps start).2 ∧
      x.onGrid? tie (x.searchGrid tie steps start).2 = some (x.searchGrid tie steps start).1 := by
  induction steps generalizing start with
  | zero => omega
  | succ steps ih =>
    rw [searchGrid]
    cases hgrid : x.onGrid? tie start with
    | some c => exact ⟨hstart, hgrid⟩
    | none =>
      -- the power has a hit, so that it is still to come
      have hne : power ≠ start := by
        rintro rfl
        obtain ⟨c, hc⟩ := hhit
        exact absurd (hgrid.symm.trans hc) (by simp)
      exact ih (by omega) (by push_cast at hsteps; omega)

end

/-! ### Where the search begins -/

/-- A quotient of at least one, between the powers of ten that its digits tell. -/
theorem quotient_bounds {a b : ℕ} (hb : 0 < b) (h : b ≤ a) :
    (10 : ℚ) ^ (((Nat.toDigits 10 (a / b)).length : ℤ) - 1) ≤ a / b ∧
      (a / b : ℚ) < 10 ^ ((Nat.toDigits 10 (a / b)).length : ℤ) := by
  have hpos : (0 : ℚ) < b := by exact_mod_cast hb
  have hone : 1 ≤ a / b := (Nat.one_le_div_iff hb).mpr h
  have hfloor : ((a / b : ℕ) : ℚ) ≤ a / b := by
    rw [le_div_iff₀ hpos]
    exact_mod_cast Nat.div_mul_le_self a b
  have hsucc : (a / b : ℚ) < (a / b : ℕ) + 1 := by
    rw [div_lt_iff₀ hpos]
    exact_mod_cast Nat.lt_mul_of_div_lt (Nat.lt_succ_self (a / b)) hb
  have hlength : 0 < (Nat.toDigits 10 (a / b)).length := Nat.length_toDigits_pos
  have hlt : a / b < 10 ^ (Nat.toDigits 10 (a / b)).length :=
    (Nat.length_toDigits_le_iff (by decide) hlength).mp (le_refl _)
  have hle : 10 ^ ((Nat.toDigits 10 (a / b)).length - 1) ≤ a / b := by
    rcases Nat.eq_zero_or_pos ((Nat.toDigits 10 (a / b)).length - 1) with hzero | hrest
    · rw [hzero, pow_zero]
      exact hone
    · have hmore := (Nat.length_toDigits_le_iff (n := a / b) (b := 10) (by decide) hrest).not
      omega
  generalize (Nat.toDigits 10 (a / b)).length = digits at hlength hlt hle
  have hexp : (digits : ℤ) - 1 = (digits - 1 : ℕ) := by omega
  constructor
  · rw [hexp, zpow_natCast]
    exact le_trans (by exact_mod_cast hle) hfloor
  · rw [zpow_natCast]
    have hcast : ((a / b : ℕ) + 1 : ℚ) ≤ 10 ^ digits := by exact_mod_cast hlt
    exact hsucc.trans_le hcast

theorem powerAbove_bounds {n d : ℕ} (hn : 0 < n) (hd : 0 < d) :
    (10 : ℚ) ^ (powerAbove n d - 1) ≤ n / d ∧ (n / d : ℚ) ≤ 10 ^ powerAbove n d := by
  rw [powerAbove]
  split
  · rename_i h
    obtain ⟨hlow, hhigh⟩ := quotient_bounds hd h
    exact ⟨hlow, hhigh.le⟩
  · -- below one the inverse has the digits
    rename_i h
    obtain ⟨hlow, hhigh⟩ := quotient_bounds hn (Nat.le_of_not_le h)
    generalize ((Nat.toDigits 10 (d / n)).length : ℤ) = digits at hlow hhigh
    have hpos : (0 : ℚ) < d / n := by
      have hncast : (0 : ℚ) < n := by exact_mod_cast hn
      have hdcast : (0 : ℚ) < d := by exact_mod_cast hd
      exact div_pos hdcast hncast
    have hinv : (n / d : ℚ) = (d / n : ℚ)⁻¹ := (inv_div _ _).symm
    have hleft : 1 - digits - 1 = -digits := by ring
    have hright : 1 - digits = -(digits - 1) := by ring
    rw [hinv]
    constructor
    · rw [hleft, zpow_neg]
      exact inv_anti₀ hpos hhigh.le
    · rw [hright, zpow_neg]
      exact inv_anti₀ (ten_zpow_pos _) hlow

/-! ### Few digits -/

section

variable {x : Binary64} {c : ℕ} {power : ℤ}

/-- Multiples of a power of ten that are less than one apart are equal. -/
theorem eq_of_sub_lt {c' : ℕ} {power' : ℤ} (hpower : power ≤ power')
    (hlow : (c * 10 ^ power : ℚ) < c' * 10 ^ power' + 10 ^ power)
    (hhigh : (c' * 10 ^ power' : ℚ) < c * 10 ^ power + 10 ^ power) :
    (c' * 10 ^ power' : ℚ) = c * 10 ^ power := by
  -- both are whole numbers of the smaller power
  obtain ⟨j, rfl⟩ : ∃ j : ℕ, power' = power + j := ⟨(power' - power).toNat, by omega⟩
  have hten := ten_zpow_pos power
  have hshift : (c' * 10 ^ (power + (j : ℤ)) : ℚ) = (c' * 10 ^ j : ℕ) * 10 ^ power := by
    rw [zpow_add₀ (by norm_num), zpow_natCast]
    push_cast
    ring
  rw [hshift] at hlow hhigh ⊢
  have hle : (c : ℚ) < (c' * 10 ^ j : ℕ) + 1 := by
    refine lt_of_mul_lt_mul_right ?_ hten.le
    rw [add_mul, one_mul]
    exact hlow
  have hge : ((c' * 10 ^ j : ℕ) : ℚ) < c + 1 := by
    refine lt_of_mul_lt_mul_right ?_ hten.le
    rw [add_mul, one_mul]
    exact hhigh
  have hle' : c < c' * 10 ^ j + 1 := by exact_mod_cast hle
  have hge' : c' * 10 ^ j < c + 1 := by exact_mod_cast hge
  have heq : c' * 10 ^ j = c := by omega
  rw [heq]

/-- Between the bounds there is no room for two numbers of fifteen digits. -/
theorem unit_lt (hx : leastNormal ≤ x.significand) (hc : c < 10 ^ 15)
    (h : x.Covers (c * 10 ^ power)) : (2 : ℚ) ^ x.exponent < 10 ^ power := by
  have hpos : 0 < x.significand := lt_of_lt_of_le (by decide) hx
  obtain ⟨hlow, -⟩ := h.bounds
  obtain ⟨-, hself⟩ := (covers_magnitude hpos).bounds
  have hwidth := upper_sub_lower_le hpos
  have hunit := two_zpow_pos x.exponent
  have hten := ten_zpow_pos power
  have hnormal : (leastNormal : ℚ) * 2 ^ x.exponent ≤ x.magnitude :=
    mul_le_mul_of_nonneg_right (by exact_mod_cast hx) hunit.le
  have hsmall : (c * 10 ^ power : ℚ) < 10 ^ 15 * 10 ^ power :=
    mul_lt_mul_of_pos_right (by exact_mod_cast hc) hten
  -- a significand has more units than fifteen digits can tell apart
  have hbits : (10 : ℚ) ^ 15 + 1 ≤ leastNormal := by
    rw [leastNormal]
    norm_num
  have hmany := mul_le_mul_of_nonneg_right hbits hunit.le
  rw [add_mul, one_mul] at hmany
  have hfactor : (10 : ℚ) ^ 15 * 2 ^ x.exponent < 10 ^ 15 * 10 ^ power := by linarith
  exact lt_of_mul_lt_mul_left hfactor (by positivity)

/-- The search begins above the power of a number with few digits, and reaches it. -/
theorem start_bounds (hx : leastNormal ≤ x.significand) (hc : 0 < c) (hlt : c < 10 ^ 15)
    (h : x.Covers (c * 10 ^ power)) : power ≤ powerAbove x.ratio.1 x.ratio.2 ∧
      powerAbove x.ratio.1 x.ratio.2 - power < (19 : ℕ) := by
  have hpos : 0 < x.significand := lt_of_lt_of_le (by decide) hx
  have hunit := unit_lt hx hlt h
  have hten := ten_zpow_pos power
  have hwidth := upper_sub_lower_le hpos
  obtain ⟨hlow, hhigh⟩ := h.bounds
  obtain ⟨hselflow, hselfhigh⟩ := (covers_magnitude hpos).bounds
  obtain ⟨hstart, hstart'⟩ := powerAbove_bounds (ratio_fst_pos hpos) x.ratio_snd_pos
  rw [x.cast_ratio] at hstart hstart'
  have hone : (1 : ℚ) < 10 := by norm_num
  constructor
  · have hclow : (10 : ℚ) ^ power ≤ c * 10 ^ power :=
      le_mul_of_one_le_left hten.le (by exact_mod_cast hc)
    -- the number is as large as two units of its last bit, and so its bounds are near to it
    have hbits : (2 : ℚ) * 2 ^ x.exponent ≤ x.magnitude := by
      have hnat : 2 ≤ x.significand := le_trans (by decide) hx
      have hle : (2 : ℚ) ≤ x.significand := by exact_mod_cast hnat
      exact mul_le_mul_of_nonneg_right hle (two_zpow_pos _).le
    have htenth : (10 : ℚ) ^ power = 10 * 10 ^ (power - 1) := by
      rw [zpow_sub₀ (by norm_num)]
      norm_num
      ring
    have hpredpos := ten_zpow_pos (power - 1)
    have hpred : (10 : ℚ) ^ (power - 1) < 10 ^ powerAbove x.ratio.1 x.ratio.2 := by linarith
    have hexp := (zpow_lt_zpow_iff_right₀ hone).mp hpred
    omega
  · have hchigh : (c * 10 ^ power : ℚ) < 10 ^ 15 * 10 ^ power :=
      mul_lt_mul_of_pos_right (by exact_mod_cast hlt) hten
    have hshift : (10 : ℚ) ^ (power + 16) = 10 ^ 16 * 10 ^ power := by
      rw [zpow_add₀ (by norm_num)]
      norm_num
      ring
    have hsucc : (10 : ℚ) ^ (powerAbove x.ratio.1 x.ratio.2 - 1) < 10 ^ (power + 16) := by
      rw [hshift]
      linarith
    have hexp := (zpow_lt_zpow_iff_right₀ hone).mp hsucc
    push_cast
    omega

/-- **A number of fifteen digits between the bounds has the shortest digits.** -/
theorem shortest_eq (tie : Tie) (hx : leastNormal ≤ x.significand) (hc : 0 < c)
    (hlt : c < 10 ^ 15) (h : x.Covers (c * 10 ^ power)) :
    ((x.shortest tie).1 * 10 ^ (x.shortest tie).2 : ℚ) = c * 10 ^ power := by
  have hpos : 0 < x.significand := lt_of_lt_of_le (by decide) hx
  obtain ⟨habove, hnear⟩ := start_bounds hx hc hlt h
  obtain ⟨hpower, hgrid⟩ := searchGrid_spec habove hnear (exists_onGrid? tie hpos h)
  have hshortest : x.shortest tie = x.searchGrid tie 19 (powerAbove x.ratio.1 x.ratio.2) := by
    rw [shortest, if_neg hpos.ne']
  -- what is found lies between the bounds as well, and these are less than one step apart
  have hunit := unit_lt hx hlt h
  have hwidth := upper_sub_lower_le hpos
  obtain ⟨hlow, hhigh⟩ := h.bounds
  obtain ⟨hfoundlow, hfoundhigh⟩ := (covers_of_onGrid? hgrid).bounds
  rw [hshortest]
  exact eq_of_sub_lt hpower (by linarith) (by linarith)

end

end BookSync.Binary64
