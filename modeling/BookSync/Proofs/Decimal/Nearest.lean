/-
Numbers that are rounded to decimals.

A plain numeral without underscores is read digit by digit, and yet only its number
counts: what comes out is this number, rounded half up to as many places as there is
room for.

* `unitsAt`, `roundedTo`: a number rounded to a fixed number of places;
* `nearest?`: the number rounded to the most places that a decimal can have;
* `takeFraction_nearest`, `ofPlain?_nearest`: this is what a plain numeral is read as;
* `Numeral.read?`, `Denotes.map_value`: the same with a power of ten, which moves
  the point after the base has been rounded;
* `Numeral.read?_eq_nearest?`: if there is room for the base, then the number as a whole
  is rounded.

So two numerals of one number are read alike, however they are written.
-/
import BookSync.Proofs.Decimal.Exact
import Mathlib.Algebra.Order.Floor.Semifield
import Mathlib.Data.Nat.Find
import Mathlib.Data.Rat.Floor
import Mathlib.Tactic.Linarith

namespace BookSync.Decimal

/-! ### Rounding to places -/

/-- The absolute value in units of the place `s`, a half going up. -/
def unitsAt (x : ℚ) (s : ℕ) : ℕ := ⌊|x| * 10 ^ s + 1 / 2⌋₊

/-- The number rounded to `s` places. -/
def roundedTo (x : ℚ) (s : ℕ) : ℚ := (if x < 0 then -1 else 1) * unitsAt x s / 10 ^ s

/-- The most places, 28 at most, for which there is room. -/
def roomFor (x : ℚ) : ℕ := Nat.findGreatest (fun s => unitsAt x s < bound) 28

/-- The number rounded to the places for which there is room, unless it is too large. -/
def nearest? (x : ℚ) : Option ℚ :=
  if unitsAt x (roomFor x) < bound then some (roundedTo x (roomFor x)) else none

section

variable {x : ℚ} {n s t : ℕ}

theorem unitsAt_mono (h : s ≤ t) : unitsAt x s ≤ unitsAt x t := by
  have hpow : (10 : ℚ) ^ s ≤ 10 ^ t := pow_le_pow_right₀ (by norm_num) h
  have hmul := mul_le_mul_of_nonneg_left hpow (abs_nonneg x)
  exact Nat.floor_mono (by linarith)

theorem unitsAt_eq_iff : unitsAt x s = n ↔ (n : ℚ) ≤ |x| * 10 ^ s + 1 / 2 ∧
    |x| * 10 ^ s + 1 / 2 < n + 1 := by
  have hpos : 0 ≤ |x| * 10 ^ s + 1 / 2 := by positivity
  rw [unitsAt, Nat.floor_eq_iff hpos]

theorem le_unitsAt (h : (n : ℚ) ≤ |x| * 10 ^ s) : n ≤ unitsAt x s :=
  Nat.le_floor (by linarith)

theorem unitsAt_eq_of_exact (h : |x| * 10 ^ s = n) : unitsAt x s = n := by
  rw [unitsAt_eq_iff, h]
  constructor
  · linarith
  · linarith

theorem sign_mul_abs (x : ℚ) : (if x < 0 then -1 else 1) * |x| = x := by
  by_cases hx : x < 0
  · rw [if_pos hx, abs_of_neg hx, neg_one_mul, neg_neg]
  · rw [if_neg hx, abs_of_nonneg (not_lt.mp hx), one_mul]

/-- A number that has no more places stays as it is. -/
theorem roundedTo_eq_self (h : |x| * 10 ^ s = n) : roundedTo x s = x := by
  rw [roundedTo, unitsAt_eq_of_exact h, ← h, mul_div_assoc, mul_div_cancel_right₀ _
    (ten_pow_pos s).ne', sign_mul_abs]

/-- The places of the result are those that cannot be exceeded. -/
theorem nearest?_eq_some (hs : s ≤ 28) (hlt : unitsAt x s < bound)
    (hfull : s < 28 → bound ≤ unitsAt x (s + 1)) : nearest? x = some (roundedTo x s) := by
  have hroom : roomFor x = s := by
    refine Nat.findGreatest_eq_iff.mpr ⟨hs, fun _ => hlt, fun t hst ht => ?_⟩
    have hnext := hfull (by omega)
    have hle : unitsAt x (s + 1) ≤ unitsAt x t := unitsAt_mono hst
    omega
  rw [nearest?, hroom, if_pos hlt]

theorem nearest?_eq_none (h : bound ≤ unitsAt x 0) : nearest? x = none := by
  have hle : unitsAt x 0 ≤ unitsAt x (roomFor x) := unitsAt_mono (Nat.zero_le _)
  rw [nearest?, if_neg (by omega)]

theorem nearest?_eq_none_of_le (h : (bound : ℚ) ≤ |x|) : nearest? x = none := by
  refine nearest?_eq_none (le_unitsAt ?_)
  rw [pow_zero, mul_one]
  exact h

/-- A number for which there is room is not rounded. -/
theorem nearest?_eq_self (h : |x| * 10 ^ s = n) (hn : n < bound) (hs : s ≤ 28) :
    nearest? x = some x := by
  have hfits : unitsAt x s < bound := unitsAt_eq_of_exact h ▸ hn
  have hroom : unitsAt x (roomFor x) < bound :=
    Nat.findGreatest_spec (P := fun s => unitsAt x s < bound) hs hfits
  have hle : s ≤ roomFor x := Nat.le_findGreatest hs hfits
  obtain ⟨e, he⟩ := Nat.exists_eq_add_of_le hle
  -- more places only add zeros
  have hexact : |x| * 10 ^ roomFor x = (n * 10 ^ e : ℕ) := by
    rw [he, pow_add, ← mul_assoc, h]
    norm_cast
  rw [nearest?, if_pos hroom, roundedTo_eq_self hexact]

/-- The coefficient of a decimal, from its number. -/
theorem abs_mul_pow (c : ℤ) (s : ℕ) : |(c : ℚ) / 10 ^ s| * 10 ^ s = c.natAbs := by
  rw [abs_div, abs_of_pos (ten_pow_pos s), div_mul_cancel₀ _ (ten_pow_pos s).ne', ← Int.cast_abs,
    Int.abs_eq_natAbs, Int.cast_natCast]

theorem Representable.nearest? (h : Representable x) : nearest? x = some x := by
  obtain ⟨c, s, hc, hs, rfl⟩ := h
  exact nearest?_eq_self (abs_mul_pow c s) hc hs

theorem Representable.roundedTo (h : Representable x) : roundedTo x 28 = x := by
  obtain ⟨c, s, hc, hs, rfl⟩ := h
  obtain ⟨e, he⟩ := Nat.exists_eq_add_of_le hs
  have hexact : |(c : ℚ) / 10 ^ s| * 10 ^ 28 = (c.natAbs * 10 ^ e : ℕ) := by
    rw [he, pow_add, ← mul_assoc, abs_mul_pow]
    norm_cast
  exact roundedTo_eq_self hexact

end

/-! ### Plain numerals -/

section

variable {x : ℚ} {negative : Bool} {n scale s : ℕ}

/-- A zero may have a minus, but it is not below zero for that. -/
theorem roundedTo_eq (hsign : (if negative then -1 else 1) * |x| = x) (hunits : unitsAt x s = n) :
    roundedTo x s = (if negative then -1 else 1) * n / 10 ^ s := by
  rw [roundedTo, hunits]
  cases negative with
  | false =>
    have hx : ¬ x < 0 := by
      rw [← hsign]
      simp
    simp [hx]
  | true =>
    by_cases hx : x < 0
    · simp [hx]
    · have hzero : x = 0 := by
        have habs := abs_nonneg x
        have hminus : -1 * |x| = x := hsign
        linarith
      have hn : n = 0 := by rw [← hunits, unitsAt, hzero]; norm_num
      simp [hzero, hn]

/-- A rounded number, as a decimal with this sign. -/
theorem map_value_ofCoeff? (hsign : (if negative then -1 else 1) * |x| = x)
    (hunits : unitsAt x s = n) (hn : n < bound) (hs : s ≤ 28) :
    (ofCoeff? (if negative then -(n : ℤ) else n) s).map value = some (roundedTo x s) := by
  have hcoeff : (if negative then -(n : ℤ) else n).natAbs < bound := by
    cases negative <;> simpa using hn
  obtain ⟨d, hd, hvalue⟩ := exists_ofCoeff? hcoeff hs
  rw [hd, Option.map_some, hvalue, roundedTo_eq hsign hunits]
  cases negative <;> simp

/-- The digits that are left, as a fraction of a unit. -/
theorem units_of_foldl {d : ℕ} {ds : List ℕ} (hds : ∀ c ∈ ds, c < 10)
    (hx : |x| * 10 ^ (scale + (d :: ds).length) = ((d :: ds).foldl push n : ℕ)) :
    (push n d : ℚ) ≤ |x| * 10 ^ (scale + 1) ∧ |x| * 10 ^ (scale + 1) < push n d + 1 := by
  -- the digits behind `d` are less than one unit of its place
  have hlt : (Nat.ofDigits 10 ds.reverse : ℚ) < 10 ^ ds.length := by
    exact_mod_cast ofDigits_reverse_lt hds
  have hnonneg : (0 : ℚ) ≤ Nat.ofDigits 10 ds.reverse := by exact_mod_cast Nat.zero_le _
  have hlength : scale + (d :: ds).length = scale + 1 + ds.length := by
    rw [List.length_cons]
    omega
  rw [hlength, pow_add, ← mul_assoc, List.foldl_cons, foldl_push] at hx
  push_cast at hx
  have hpow := ten_pow_pos ds.length
  constructor
  · refine le_of_mul_le_mul_right ?_ hpow
    rw [hx]
    exact le_add_of_nonneg_right hnonneg
  · refine lt_of_mul_lt_mul_right ?_ hpow.le
    rw [hx, add_mul, one_mul]
    linarith

section

variable {d : ℕ} (hle : (push n d : ℚ) ≤ |x| * 10 ^ (scale + 1))
  (hlt : |x| * 10 ^ (scale + 1) < push n d + 1)

include hle hlt

/-- The next digit decides which way the number is rounded. -/
theorem unitsAt_of_push (hd : d < 10) : unitsAt x scale = if 5 ≤ d then n + 1 else n := by
  rw [pow_succ, ← mul_assoc, push] at hle hlt
  push_cast at hle hlt
  rw [unitsAt_eq_iff]
  by_cases h5 : 5 ≤ d
  · have hcast : (5 : ℚ) ≤ d := by exact_mod_cast h5
    have hcast' : (d : ℚ) + 1 ≤ 10 := by exact_mod_cast hd
    rw [if_pos h5]
    push_cast
    constructor
    · linarith
    · linarith
  · have hcast : (d : ℚ) + 1 ≤ 5 := by exact_mod_cast Nat.lt_of_not_le h5
    have hcast' : (0 : ℚ) ≤ d := Nat.cast_nonneg d
    rw [if_neg h5]
    constructor
    · linarith
    · linarith

/-- One place less: the last digit of the coefficient decides. -/
theorem unitsAt_pred_of_push (hd : d < 10) (hscale : scale = s + 1) :
    unitsAt x s = (n + 5) / 10 := by
  have hnext : (push n d : ℚ) + 1 ≤ 10 * (n + 1) := by
    rw [push]
    push_cast
    have hcast : (d : ℚ) + 1 ≤ 10 := by exact_mod_cast hd
    linarith
  have hlast : (10 : ℚ) * n ≤ push n d := by
    rw [push]
    push_cast
    have hcast : (0 : ℚ) ≤ d := Nat.cast_nonneg d
    linarith
  rw [hscale, pow_succ, pow_succ, ← mul_assoc, ← mul_assoc] at hle hlt
  have hdiv : 10 * ((n + 5) / 10) ≤ n + 5 ∧ n + 5 < 10 * ((n + 5) / 10) + 10 := by omega
  have hcast : (10 : ℚ) * ((n + 5) / 10 : ℕ) ≤ n + 5 := by exact_mod_cast hdiv.1
  have hcast' : (n : ℚ) + 5 + 1 ≤ 10 * ((n + 5) / 10 : ℕ) + 10 := by exact_mod_cast hdiv.2
  rw [unitsAt_eq_iff]
  constructor
  · linarith
  · linarith

end

/-- **A coefficient that is rounded up** may be full, so that a place has to go. -/
theorem roundUp?_nearest (hsign : (if negative then -1 else 1) * |x| = x) (hn : n < bound)
    (hscale : scale ≤ 28) (hunits : unitsAt x scale = n + 1)
    (hcut : ∀ s, scale = s + 1 → unitsAt x s = (n + 5) / 10)
    (hfull : scale < 28 → bound ≤ unitsAt x (scale + 1)) :
    ((roundUp? n scale).bind fun (m, s) =>
      ofCoeff? (if negative then -(m : ℤ) else m) s).map value = nearest? x := by
  rw [roundUp?]
  by_cases hup : n + 1 < bound
  · rw [if_pos hup, Option.bind_some, map_value_ofCoeff? hsign hunits hup hscale,
      nearest?_eq_some hscale (hunits ▸ hup) hfull]
  · have hover : bound ≤ unitsAt x scale := by omega
    rw [if_neg hup]
    cases scale with
    | zero =>
      rw [if_pos rfl, nearest?_eq_none hover]
      rfl
    | succ t =>
      have hplace := hcut t rfl
      have hfits : (n + 5) / 10 < bound := by
        have hbound : 5 < bound := by decide
        omega
      rw [if_neg (Nat.succ_ne_zero t), Option.bind_some, Nat.add_sub_cancel,
        map_value_ofCoeff? hsign hplace hfits (by omega),
        nearest?_eq_some (by omega) (hplace ▸ hfits) fun _ => hover]

/-- **The digits of a number are rounded like the number.** -/
theorem takeFraction_nearest {ps : List Place} (hsign : (if negative then -1 else 1) * |x| = x)
    (hn : n < bound) (hscale : scale ≤ 28)
    (hps : ∀ p ∈ ps, p.digit < 10 ∧ p.separated = false)
    (hx : |x| * 10 ^ (scale + ps.length) = ((ps.map (·.digit)).foldl push n : ℕ)) :
    ((takeFraction n scale ps).bind fun (m, s) =>
      ofCoeff? (if negative then -(m : ℤ) else m) s).map value = nearest? x := by
  -- while there is room a digit moves from the list into the coefficient, and the number that
  -- the two make together stays the same
  induction ps generalizing n scale with
  | nil =>
    have hexact : |x| * 10 ^ scale = n := by simpa using hx
    rw [takeFraction, Option.bind_some,
      map_value_ofCoeff? hsign (unitsAt_eq_of_exact hexact) hn hscale,
      nearest?_eq_self hexact hn hscale, roundedTo_eq_self hexact]
  | cons p ps ih =>
    obtain ⟨⟨hd, hseparated⟩, hrest⟩ := List.forall_mem_cons.mp hps
    have hlength : scale + (p :: ps).length = scale + 1 + ps.length := by
      rw [List.length_cons]
      omega
    rw [takeFraction]
    by_cases hroom : scale < 28 ∧ push n p.digit < bound
    · rw [if_pos hroom]
      rw [hlength] at hx
      exact ih hroom.2 hroom.1 hrest hx
    · -- the digit has no place, and it alone decides
      have hdigits : ∀ c ∈ ps.map (·.digit), c < 10 := by
        intro c hc
        obtain ⟨q, hq, rfl⟩ := List.mem_map.mp hc
        exact (hrest q hq).1
      have hcons : |x| * 10 ^ (scale + (p.digit :: ps.map (·.digit)).length) =
          ((p.digit :: ps.map (·.digit)).foldl push n : ℕ) := by simpa using hx
      obtain ⟨hle, hlt⟩ := units_of_foldl hdigits hcons
      have hunits := unitsAt_of_push hle hlt hd
      have hfull : scale < 28 → bound ≤ unitsAt x (scale + 1) := by
        intro h28
        have hpush : bound ≤ push n p.digit := by omega
        exact hpush.trans (le_unitsAt hle)
      have hround : roundsUp n p = decide (5 ≤ p.digit) := by simp [roundsUp, hseparated]
      rw [if_neg hroom, hround]
      by_cases h5 : 5 ≤ p.digit
      · rw [if_pos h5] at hunits
        rw [if_pos (decide_eq_true h5)]
        exact roundUp?_nearest hsign hn hscale hunits
          (fun s hs => unitsAt_pred_of_push hle hlt hd hs) hfull
      · rw [if_neg h5] at hunits
        rw [if_neg (by simpa using h5), Option.bind_some, map_value_ofCoeff? hsign hunits hn hscale,
          nearest?_eq_some hscale (hunits ▸ hn) hfull]

end

/-- Without underscores no digit is separated from the one in front of it. -/
theorem not_separated_of_scan {p : Progress} {cs : List Char} {whole : List ℕ}
    {fraction : List Place} (h : scan p cs = some (whole, fraction)) (hcs : '_' ∉ cs)
    (hp : p.separated = false) : ∀ q ∈ fraction, q.separated = false := by
  induction cs generalizing p whole fraction with
  | nil =>
    rw [scan] at h
    split at h
    · obtain ⟨rfl, rfl⟩ := Prod.mk.inj (Option.some_inj.mp h)
      simp
    · simp at h
  | cons c cs ih =>
    obtain ⟨hc, hrest⟩ : '_' ≠ c ∧ '_' ∉ cs := by simpa using hcs
    rw [scan] at h
    cases hd : digit? c with
    | some d =>
      rw [hd] at h
      obtain ⟨⟨whole', fraction'⟩, hscan, hpair⟩ := Option.map_eq_some_iff.mp h
      have hfraction := ih hscan hrest rfl
      dsimp only at hpair
      split at hpair
      · obtain ⟨rfl, rfl⟩ := Prod.mk.inj hpair
        exact List.forall_mem_cons.mpr ⟨hp, hfraction⟩
      · obtain ⟨rfl, rfl⟩ := Prod.mk.inj hpair
        exact hfraction
    | none =>
      rw [hd] at h
      dsimp only at h
      split at h
      · exact ih h hrest rfl
      · rename_i hpoint
        rw [if_neg fun hunderscore => hc hunderscore.1.symm] at h
        simp at h

section

variable {cs : List Char} {x : ℚ}

/-- **A plain numeral is read as the nearest decimal.** -/
theorem ofPlain?_nearest (h : Plain cs x) (hcs : '_' ∉ cs) :
    (ofPlain? cs).map value = nearest? x := by
  obtain ⟨whole, fraction, hscan, hdigits, hx⟩ := h.exists_scan
  have hbody : '_' ∉ (splitSign cs).2 := by
    rw [splitSign.eq_def]
    split
    · simpa using hcs
    · simpa using hcs
    · exact hcs
  have hseparated := not_separated_of_scan hscan hbody rfl
  -- what is scanned are the digits of the absolute value, all of them
  have hnumber : (0 : ℚ) ≤ joined whole fraction / 10 ^ fraction.length := by positivity
  have habs : |x| = joined whole fraction / 10 ^ fraction.length := by
    rw [hx, abs_mul, abs_of_nonneg hnumber]
    cases (splitSign cs).1 <;> simp
  have hsign : (if (splitSign cs).1 then -1 else 1) * |x| = x := by rw [habs, hx]
  have hall : |x| * 10 ^ (0 + fraction.length) =
      ((fraction.map (·.digit)).foldl push (whole.foldl push 0) : ℕ) := by
    rw [habs, Nat.zero_add, div_mul_cancel₀ _ (ten_pow_pos _).ne', joined_eq_foldl]
  rw [ofPlain?_eq hscan, ofDigits?]
  dsimp only
  by_cases hwhole : whole.foldl push 0 < bound
  · rw [if_pos hwhole]
    exact takeFraction_nearest hsign hwhole (Nat.zero_le 28)
      (fun p hp => ⟨hdigits p hp, hseparated p hp⟩) hall
  · have hle : ((whole.foldl push 0 : ℕ) : ℚ) ≤ |x| * 10 ^ 0 := by
      rw [habs, pow_zero, mul_one, le_div_iff₀ (ten_pow_pos _), joined_eq_add]
      push_cast
      exact le_add_of_nonneg_right (by exact_mod_cast Nat.zero_le _)
    rw [if_neg hwhole, nearest?_eq_none ((Nat.le_of_not_lt hwhole).trans (le_unitsAt hle))]
    rfl

end

/-! ### Powers of ten -/

section

variable {d : Decimal} {k : ℕ}

/-- Moved to the left by 28 places at most, a decimal is one if it is not too large. -/
theorem representable_mul_pow (hlt : |d.value * 10 ^ k| < bound) :
    Representable (d.value * 10 ^ k) := by
  by_cases hplaces : k ≤ d.scale
  · obtain ⟨e, he⟩ := Nat.exists_eq_add_of_le hplaces
    have hscale : e ≤ 28 := by
      have hle := d.scale_le
      omega
    refine ⟨d.coeff, e, natAbs_coeff d ▸ d.magnitude_lt, hscale, ?_⟩
    rw [value, he, pow_add, div_mul_eq_div_div_swap, div_mul_cancel₀ _ (ten_pow_pos k).ne']
  · have hint := value_mul_of_scale_le (Nat.le_of_not_le hplaces)
    rw [hint, ← Int.cast_abs, Int.abs_eq_natAbs] at hlt
    refine ⟨d.coeff * tenTo (k - d.scale), 0, by exact_mod_cast hlt, Nat.zero_le 28, ?_⟩
    rw [hint, pow_zero, div_one]

theorem map_value_scaleUp? : (d.scaleUp? k).map value =
    if k ≤ 28 ∧ |d.value * 10 ^ k| < bound then some (d.value * 10 ^ k) else none := by
  cases hup : d.scaleUp? k with
  | some d' =>
    obtain ⟨hk, hvalue⟩ := scaleUp?_eq_some hup
    have hlt := (representable_value d').abs_lt
    rw [hvalue] at hlt
    rw [Option.map_some, hvalue, if_pos ⟨hk, hlt⟩]
  | none =>
    rw [Option.map_none, if_neg]
    rintro ⟨hk, hlt⟩
    obtain ⟨d', hd'⟩ := exists_scaleUp? hk (representable_mul_pow hlt)
    exact absurd (hup.symm.trans hd') (by simp)

/-- Digits are dropped as a number is rounded. -/
theorem unitsAt_eq_dropDigits {x : ℚ} {m j s : ℕ} (h : |x| * 10 ^ s = m / 10 ^ j) :
    unitsAt x s = dropDigits m j := by
  have hquot : (m : ℚ) / 10 ^ j + 1 / 2 = ((2 * m + 10 ^ j : ℕ) : ℚ) / (2 * 10 ^ j : ℕ) := by
    push_cast
    field_simp
  rw [unitsAt, h, hquot, Nat.floor_div_eq_div]
  rfl

theorem map_value_scaleDown? : (d.scaleDown? k).map value =
    if k ≤ 28 then some (roundedTo (d.value / 10 ^ k) 28) else none := by
  have hquot : d.value / 10 ^ k = d.coeff / 10 ^ (d.scale + k) := by
    rw [value, div_div, ← pow_add]
  rw [scaleDown?]
  by_cases hk : k ≤ 28
  · rw [if_neg (Nat.not_lt.mpr hk), if_pos hk]
    split
    · rename_i hplaces
      have hfits : Representable (d.value / 10 ^ k) :=
        ⟨d.coeff, d.scale + k, natAbs_coeff d ▸ d.magnitude_lt, hplaces, hquot.symm⟩
      rw [hfits.roundedTo, hquot]
      rfl
    · rename_i hplaces
      have hpow : (10 : ℚ) ^ (d.scale + k) = 10 ^ 28 * 10 ^ (d.scale + k - 28) := by
        rw [← pow_add, Nat.add_sub_cancel' (Nat.le_of_not_le hplaces)]
      have habs : |d.value / 10 ^ k| = d.magnitude / 10 ^ (d.scale + k) := by
        rw [hquot, abs_div, abs_of_pos (ten_pow_pos _), ← Int.cast_abs, Int.abs_eq_natAbs,
          natAbs_coeff, Int.cast_natCast]
      have hsign : (if d.negative then -1 else 1) * |d.value / 10 ^ k| = d.value / 10 ^ k := by
        rw [habs, hquot, coeff_eq, mul_div_assoc]
      have hunits : unitsAt (d.value / 10 ^ k) 28 = dropDigits d.magnitude (d.scale + k - 28) := by
        refine unitsAt_eq_dropDigits ?_
        rw [habs, hpow, div_mul_eq_mul_div, mul_comm (d.magnitude : ℚ),
          mul_div_mul_left _ _ (ten_pow_pos 28).ne']
      rw [Option.map_some, roundedTo_eq hsign hunits, value, coeff_eq]
  · rw [if_pos (Nat.lt_of_not_le hk), if_neg hk]
    rfl

end

/-! ### Numerals of both forms -/

/-- The number that a numeral is read as. Its base is rounded first, and again when
the point has been moved; the power is limited. -/
def Numeral.read? (n : Numeral) : Option ℚ :=
  (nearest? n.base).bind fun y =>
    if n.power.natAbs ≤ 28 ∧ |y * 10 ^ n.power| < bound then some (roundedTo (y * 10 ^ n.power) 28)
    else none

/-- A number that is rounded is a decimal. -/
theorem representable_of_nearest? {x y : ℚ} (h : nearest? x = some y) : Representable y := by
  have hroom : roomFor x ≤ 28 := Nat.findGreatest_le 28
  rw [nearest?] at h
  split at h
  · rename_i hlt
    obtain rfl := Option.some_inj.mp h
    have hunits : Representable (unitsAt x (roomFor x) / 10 ^ roomFor x) :=
      ⟨unitsAt x (roomFor x), roomFor x, hlt, hroom, by rw [Int.cast_natCast]⟩
    rw [roundedTo]
    split
    · rw [neg_one_mul, neg_div]
      exact hunits.neg
    · rw [one_mul]
      exact hunits
  · exact absurd h (by simp)

/-- Without a power of ten there is nothing left to round. -/
theorem Numeral.read?_plain (x : ℚ) : Numeral.read? ⟨x, 0⟩ = nearest? x := by
  rw [read?]
  cases hy : Decimal.nearest? x with
  | none => rfl
  | some y =>
    have hfits := representable_of_nearest? hy
    have hlt := hfits.abs_lt
    simp [hlt, hfits.roundedTo]

/-- **A numeral is read by its number,** underscores aside. -/
theorem Denotes.map_value {cs : List Char} {n : Numeral} (h : Denotes cs n) (hcs : '_' ∉ cs) :
    (ofNumeral? cs).map value = n.read? := by
  cases h with
  | @plain cs x h =>
    rw [ofNumeral?, ofScaled?_eq_none h.not_isMark, Option.or_none, Numeral.read?_plain,
      ofPlain?_nearest h hcs]
  | @scaled base power mark x k hbase hmark hpower =>
    have hbase' : '_' ∉ base := fun hmem => hcs (List.mem_append_left _ hmem)
    rw [ofNumeral?_scaled hmark, Numeral.read?, ← ofPlain?_nearest hbase hbase']
    cases hpower with
    | @up cs k hcount =>
      rw [ofScaled?_up hbase.not_isMark hmark hcount]
      cases ofPlain? base with
      | none => rfl
      | some d =>
        have hvalue := map_value_scaleUp? (d := d) (k := k)
        have hround : |d.value * 10 ^ k| < bound →
            roundedTo (d.value * 10 ^ k) 28 = d.value * 10 ^ k :=
          fun hlt => (representable_mul_pow hlt).roundedTo
        simp only [Option.bind_some, Option.map_some, Int.natAbs_natCast, zpow_natCast, hvalue]
        split
        · rename_i hk
          rw [hround hk.2]
        · rfl
    | @down cs k hcount =>
      rw [ofScaled?_down hbase.not_isMark hmark hcount]
      cases ofPlain? base with
      | none => rfl
      | some d =>
        have hvalue := map_value_scaleDown? (d := d) (k := k)
        -- a quotient is not too large
        have hlt : |d.value / 10 ^ k| < bound := by
          rw [abs_div, abs_of_pos (ten_pow_pos k)]
          exact (div_le_self (abs_nonneg _) (one_le_pow₀ (by norm_num))).trans_lt
            (representable_value d).abs_lt
        have hpow : d.value * 10 ^ (-k : ℤ) = d.value / 10 ^ k := by
          rw [zpow_neg, zpow_natCast, div_eq_mul_inv]
        simp only [Option.bind_some, Option.map_some, Int.natAbs_neg, Int.natAbs_natCast, hpow,
          hvalue, hlt, and_true]

/-- If there is room for the base, then there is room for the number or for 28 of its
places. -/
theorem representable_or_unitsAt_lt {n : Numeral} (hbase : Representable n.base)
    (hlt : |n.value| < bound) : Representable n.value ∨ unitsAt n.value 28 < bound := by
  obtain ⟨c, s, hc, hs, hcs⟩ := hbase
  obtain ⟨k, hk | hk⟩ := Int.eq_nat_or_neg n.power
  · obtain ⟨d, -, hd⟩ := exists_ofCoeff? hc hs
    have hvalue : n.value = d.value * 10 ^ k := by
      rw [Numeral.value, hk, zpow_natCast, hd, hcs]
    rw [hvalue] at hlt ⊢
    exact Or.inl (representable_mul_pow hlt)
  · have hvalue : n.value = c / 10 ^ (s + k) := by
      rw [Numeral.value, hk, zpow_neg, zpow_natCast, ← hcs, pow_add, div_mul_eq_div_div,
        div_eq_mul_inv (_ / _)]
    by_cases hplaces : s + k ≤ 28
    · exact Or.inl ⟨c, s + k, hc, hplaces, hvalue.symm⟩
    · -- the places behind the 28th are as many digits less
      obtain ⟨j, hj⟩ : ∃ j, s + k = 28 + (j + 1) := ⟨s + k - 29, by omega⟩
      have hunits : |n.value| * 10 ^ 28 = (c.natAbs : ℕ) / 10 ^ (j + 1) := by
        have habs := abs_mul_pow c (s + k)
        rw [← hvalue, hj, pow_add, ← mul_assoc] at habs
        rw [eq_div_iff (ten_pow_pos _).ne', habs]
      refine Or.inr ?_
      rw [unitsAt_eq_dropDigits hunits]
      exact (dropDigits_le _ _).trans_lt hc

/-- **What has a base for which there is room is read as the nearest decimal.** -/
theorem Numeral.read?_eq_nearest? {n : Numeral} (hbase : Representable n.base)
    (hpower : n.power.natAbs ≤ 28) : n.read? = Decimal.nearest? n.value := by
  -- the base is not rounded, so that the only rounding left is the one to 28 places
  rw [read?, hbase.nearest?, Option.bind_some, ← value]
  by_cases hlt : |n.value| < bound
  · rw [if_pos ⟨hpower, hlt⟩]
    rcases representable_or_unitsAt_lt hbase hlt with hfits | hunits
    · rw [hfits.nearest?, hfits.roundedTo]
    · rw [nearest?_eq_some (le_refl 28) hunits fun h => absurd h (lt_irrefl 28)]
  · rw [if_neg fun h => hlt h.2, nearest?_eq_none_of_le (not_lt.mp hlt)]

end BookSync.Decimal
