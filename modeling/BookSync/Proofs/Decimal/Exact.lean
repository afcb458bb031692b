/-
Which numerals are read exactly.

A decimal has 28 places behind the point at most, and a coefficient of 96 bits. What
is read keeps the digits that there is room for and rounds at the next one, so that a
numeral may come out as another number than it denotes. It does so in one case only:

* `takeFraction_exact`, `ofPlain?_exact`: of a number that is a decimal nothing is
  rounded away, as the digits that find no place are zeros;
* `scaleUp?_eq_some`, `scaleDown?_eq_some`: a power of ten moves the point, and
  rounds only if no decimal comes out;
* `Numeral.FallsBetween`, `Reading.value_eq_iff`: what is read is the number of
  the numeral unless that, or its base, lies between two decimals;
* `Reading.exists_eq_some`: what can be read exactly is not refused.

`parse_exact_or_refused` says this of the texts of fields. The exception is real:
`parse_rounds_to_zero` names a size above zero that is read as zero.
-/
import BookSync.Level
import BookSync.Proofs.Decimal.Value
import BookSync.Proofs.Decimal.Written

namespace BookSync.Decimal

/-! ### Numbers that are decimals -/

/-- The number is that of a decimal. -/
def Representable (x : ℚ) : Prop :=
  ∃ (c : ℤ) (s : ℕ), c.natAbs < bound ∧ s ≤ 28 ∧ (c : ℚ) / 10 ^ s = x

/-- The number is no decimal, though it is not too large for one. -/
def Between (x : ℚ) : Prop := |x| < bound ∧ ¬ Representable x

theorem representable_value (d : Decimal) : Representable d.value :=
  ⟨d.coeff, d.scale, natAbs_coeff d ▸ d.magnitude_lt, d.scale_le, rfl⟩

theorem Representable.neg {x : ℚ} (h : Representable x) : Representable (-x) := by
  obtain ⟨c, s, hc, hs, rfl⟩ := h
  exact ⟨-c, s, by rwa [Int.natAbs_neg], hs, by rw [Int.cast_neg, neg_div]⟩

theorem Representable.abs_lt {x : ℚ} (h : Representable x) : |x| < bound := by
  obtain ⟨c, s, hc, -, rfl⟩ := h
  have hpow : (1 : ℚ) ≤ 10 ^ s := one_le_pow₀ (by norm_num)
  have hcast : |(c : ℚ)| < bound := by
    rw [← Int.cast_abs, Int.abs_eq_natAbs]
    exact_mod_cast hc
  rw [abs_div, abs_of_pos (ten_pow_pos s)]
  exact (div_le_self (abs_nonneg _) hpow).trans_lt hcast

/-- Fractions of one value, over a common denominator. -/
theorem natAbs_mul_eq_of_div_eq {a b : ℤ} {s t : ℕ} (h : (a : ℚ) / 10 ^ s = b / 10 ^ t) :
    a.natAbs * 10 ^ t = b.natAbs * 10 ^ s := by
  rw [div_eq_div_iff (ten_pow_pos s).ne' (ten_pow_pos t).ne'] at h
  have hint : a * 10 ^ t = b * 10 ^ s := by exact_mod_cast h
  simpa [Int.natAbs_mul, Int.natAbs_pow] using congrArg Int.natAbs hint

/-! ### Digits behind the point -/

theorem ofDigits_reverse_lt {ds : List ℕ} (h : ∀ x ∈ ds, x < 10) :
    Nat.ofDigits 10 ds.reverse < 10 ^ ds.length := by
  have hrev : ∀ x ∈ ds.reverse, x < 10 := fun x hx => h x (List.mem_reverse.mp hx)
  have hlt := Nat.ofDigits_lt_base_pow_length (by decide) hrev
  rwa [List.length_reverse] at hlt

section

variable {n scale c t : ℕ} {ds : List ℕ}

/-- A number that has no more places than have been taken in ends with zeros. -/
theorem ofDigits_eq_zero_of_le (hds : ∀ x ∈ ds, x < 10) (hts : t ≤ scale)
    (hfits : c * 10 ^ (scale + ds.length) = ds.foldl push n * 10 ^ t) :
    Nat.ofDigits 10 ds.reverse = 0 := by
  obtain ⟨e, rfl⟩ := Nat.exists_eq_add_of_le hts
  rw [foldl_push] at hfits
  have hcancel : c * 10 ^ e * 10 ^ ds.length =
      n * 10 ^ ds.length + Nat.ofDigits 10 ds.reverse := by
    refine Nat.eq_of_mul_eq_mul_right (Nat.pow_pos (n := t) (by decide : 0 < 10)) ?_
    rw [← hfits]
    ring
  have hdvd : 10 ^ ds.length ∣ n * 10 ^ ds.length + Nat.ofDigits 10 ds.reverse :=
    hcancel ▸ Dvd.intro_left (c * 10 ^ e) rfl
  exact Nat.eq_zero_of_dvd_of_lt ((Nat.dvd_add_right (Dvd.intro_left n rfl)).mp hdvd)
    (ofDigits_reverse_lt hds)

/-- A number that has more places needs the next digit in its coefficient. -/
theorem push_le_of_lt {d : ℕ} (hts : scale < t)
    (hfits : c * 10 ^ (scale + (d :: ds).length) = (d :: ds).foldl push n * 10 ^ t) :
    push n d ≤ c := by
  obtain ⟨e, rfl⟩ := Nat.exists_eq_add_of_lt hts
  rw [List.foldl_cons, foldl_push] at hfits
  have hcancel : c * 10 ^ ds.length =
      (push n d * 10 ^ ds.length + Nat.ofDigits 10 ds.reverse) * 10 ^ e := by
    refine Nat.eq_of_mul_eq_mul_right (Nat.pow_pos (n := scale + 1) (by decide : 0 < 10)) ?_
    calc c * 10 ^ ds.length * 10 ^ (scale + 1)
        = c * 10 ^ (scale + (d :: ds).length) := by rw [List.length_cons]; ring
      _ = _ := by rw [hfits]; ring
  refine Nat.le_of_mul_le_mul_right ?_ (Nat.pow_pos (n := ds.length) (by decide : 0 < 10))
  rw [hcancel]
  exact (Nat.le_add_right _ _).trans (Nat.le_mul_of_pos_right _ (Nat.pow_pos (by decide)))

/-- Digits without a place are zeros, if the whole number is a decimal. -/
theorem ofDigits_eq_zero_of_full {d : ℕ} (hds : ∀ x ∈ d :: ds, x < 10)
    (hfull : ¬ (scale < 28 ∧ push n d < bound)) (hc : c < bound) (ht : t ≤ 28)
    (hfits : c * 10 ^ (scale + (d :: ds).length) = (d :: ds).foldl push n * 10 ^ t) :
    Nat.ofDigits 10 (d :: ds).reverse = 0 := by
  by_cases hts : t ≤ scale
  · exact ofDigits_eq_zero_of_le hds hts hfits
  · -- there are places left, but the coefficient is full: it would have to be larger
    have hle := push_le_of_lt (Nat.lt_of_not_le hts) hfits
    exact absurd ⟨by omega, by omega⟩ hfull

end

/-- **Nothing is rounded away of a decimal.** -/
theorem takeFraction_exact {n scale c t : ℕ} {ps : List Place} (hps : ∀ p ∈ ps, p.digit < 10)
    (hn : n < bound) (hscale : scale ≤ 28) (hc : c < bound) (ht : t ≤ 28)
    (hfits : c * 10 ^ (scale + ps.length) = (ps.map (·.digit)).foldl push n * 10 ^ t) :
    ∃ m s, takeFraction n scale ps = some (m, s) ∧ m < bound ∧ s ≤ 28 ∧
      m * 10 ^ (scale + ps.length) = (ps.map (·.digit)).foldl push n * 10 ^ s := by
  induction ps generalizing n scale with
  | nil => exact ⟨n, scale, rfl, hn, hscale, rfl⟩
  | cons p ps ih =>
    obtain ⟨hp, hrest⟩ := List.forall_mem_cons.mp hps
    rw [takeFraction]
    by_cases hroom : scale < 28 ∧ push n p.digit < bound
    · rw [if_pos hroom]
      have hlength : scale + (p :: ps).length = scale + 1 + ps.length := by
        rw [List.length_cons]
        omega
      rw [hlength] at hfits ⊢
      exact ih hrest hroom.2 hroom.1 hfits
    · -- all that is left are zeros, and the first of them does not round up
      have hzero : Nat.ofDigits 10 (p.digit :: ps.map (·.digit)).reverse = 0 := by
        refine ofDigits_eq_zero_of_full ?_ hroom hc ht (by simpa using hfits)
        exact List.forall_mem_cons.mpr ⟨hp, List.forall_mem_map.mpr hrest⟩
      have hdigit : p.digit = 0 := by
        rw [Nat.ofDigits_reverse_cons] at hzero
        have hpow : 0 < 10 ^ (ps.map (·.digit)).length := Nat.pow_pos (by decide)
        exact (Nat.mul_eq_zero.mp (Nat.add_eq_zero_iff.mp hzero).2).resolve_left hpow.ne'
      have hround : roundsUp n p = false := by rw [roundsUp, hdigit]; rfl
      rw [if_neg hroom, hround, if_neg Bool.false_ne_true]
      refine ⟨n, scale, rfl, hn, hscale, ?_⟩
      rw [List.map_cons, foldl_push, hzero, List.length_cons, List.length_cons, List.length_map]
      ring

/-! ### Plain numerals -/

theorem value_of_ofCoeff? {c : ℤ} {s : ℕ} {d : Decimal} (h : ofCoeff? c s = some d) :
    d.value = c / 10 ^ s := by
  rw [value, coeff_of_ofCoeff? h, (ofCoeff?_eq_some_iff.mp h).2.2]

theorem exists_ofCoeff? {c : ℤ} {s : ℕ} (hc : c.natAbs < bound) (hs : s ≤ 28) :
    ∃ d, ofCoeff? c s = some d ∧ d.value = c / 10 ^ s := by
  obtain ⟨d, hd⟩ : ∃ d, ofCoeff? c s = some d := ⟨_, dif_pos ⟨hc, hs⟩⟩
  exact ⟨d, hd, value_of_ofCoeff? hd⟩

section

variable {whole : List ℕ} {fraction : List Place}

/-- The number that all digits make. -/
def joined (whole : List ℕ) (fraction : List Place) : ℕ :=
  Nat.ofDigits 10 (whole ++ fraction.map (·.digit)).reverse

theorem joined_eq_foldl :
    joined whole fraction = (fraction.map (·.digit)).foldl push (whole.foldl push 0) := by
  rw [← List.foldl_append, foldl_push_zero, joined]

theorem joined_eq_add :
    joined whole fraction = whole.foldl push 0 * 10 ^ fraction.length +
      Nat.ofDigits 10 (fraction.map (·.digit)).reverse := by
  rw [joined_eq_foldl, foldl_push, List.length_map]

theorem ofDigits?_exact (negative : Bool) (hdigits : ∀ p ∈ fraction, p.digit < 10)
    (hfits : Representable (joined whole fraction / 10 ^ fraction.length)) :
    ∃ d, ofDigits? negative whole fraction = some d ∧
      d.value = (if negative then -1 else 1) * (joined whole fraction / 10 ^ fraction.length) := by
  obtain ⟨c, t, hc, ht, hct⟩ := hfits
  have hnat : c.natAbs * 10 ^ fraction.length = joined whole fraction * 10 ^ t :=
    natAbs_mul_eq_of_div_eq (b := joined whole fraction) (by rw [Int.cast_natCast]; exact hct)
  have hwhole : whole.foldl push 0 < bound := by
    have hpow : 0 < 10 ^ fraction.length := Nat.pow_pos (by decide)
    refine lt_of_le_of_lt (Nat.le_of_mul_le_mul_right ?_ hpow) hc
    rw [hnat, joined_eq_add]
    exact (Nat.le_add_right _ _).trans (Nat.le_mul_of_pos_right _ (Nat.pow_pos (by decide)))
  obtain ⟨m, s, htake, hm, hs, hms⟩ := takeFraction_exact hdigits hwhole (Nat.zero_le 28) hc ht
    (by rw [Nat.zero_add, ← joined_eq_foldl]; exact hnat)
  rw [Nat.zero_add, ← joined_eq_foldl] at hms
  have hcoeff : (if negative then -(m : ℤ) else m).natAbs < bound := by
    cases negative <;> simpa using hm
  obtain ⟨d, hd, hvalue⟩ := exists_ofCoeff? hcoeff hs
  refine ⟨d, ?_, ?_⟩
  · rw [ofDigits?]
    dsimp only
    rw [if_pos hwhole, htake]
    exact hd
  · have hquot : (m : ℚ) / 10 ^ s = joined whole fraction / 10 ^ fraction.length := by
      rw [div_eq_div_iff (ten_pow_pos _).ne' (ten_pow_pos _).ne']
      exact_mod_cast hms
    rw [hvalue, ← hquot]
    cases negative with
    | true => simp [neg_div]
    | false => simp

theorem joined_lt_of_ofDigits? {negative : Bool} (hdigits : ∀ p ∈ fraction, p.digit < 10)
    {d : Decimal} (h : ofDigits? negative whole fraction = some d) :
    joined whole fraction < bound * 10 ^ fraction.length := by
  have hwhole : whole.foldl push 0 < bound := by
    by_contra hno
    rw [ofDigits?] at h
    dsimp only at h
    rw [if_neg hno] at h
    exact absurd h (by simp)
  have hlast : Nat.ofDigits 10 (fraction.map (·.digit)).reverse < 10 ^ fraction.length := by
    simpa using ofDigits_reverse_lt (List.forall_mem_map.mpr hdigits)
  rw [joined_eq_add]
  calc whole.foldl push 0 * 10 ^ fraction.length + _
      < (whole.foldl push 0 + 1) * 10 ^ fraction.length := by rw [Nat.succ_mul]; omega
    _ ≤ bound * 10 ^ fraction.length := Nat.mul_le_mul_right _ hwhole

end

section

variable {cs : List Char} {x : ℚ}

/-- The scan of a plain numeral finds the digits of the number that it denotes. -/
theorem Plain.exists_scan (h : Plain cs x) : ∃ whole fraction,
    scan ⟨false, false, false⟩ (splitSign cs).2 = some (whole, fraction) ∧
      (∀ p ∈ fraction, p.digit < 10) ∧
      x = (if (splitSign cs).1 then -1 else 1) *
        (joined whole fraction / 10 ^ fraction.length) := by
  obtain ⟨hu, rfl⟩ := plain_iff.mp h
  obtain ⟨⟨whole, fraction⟩, hscan⟩ :=
    Option.isSome_iff_exists.mp ((scan_start_isSome_iff _).mpr hu)
  obtain ⟨hall, hlast⟩ := scan_eq_some hscan
  refine ⟨whole, fraction, hscan, fun p hp => ?_, ?_⟩
  · have hmem : p.digit ∈ digitsOf (splitSign cs).2 := by
      rw [← hall]
      exact List.mem_append_right _ (List.mem_map_of_mem hp)
    exact lt_of_mem_digitsOf hmem
  · have hlength := congrArg List.length hlast
    rw [List.length_map] at hlength
    rw [joined, hall, hlength, magnitudeOf, numberOf]
    cases (splitSign cs).1 <;> simp

theorem ofPlain?_eq {whole : List ℕ} {fraction : List Place}
    (h : scan ⟨false, false, false⟩ (splitSign cs).2 = some (whole, fraction)) :
    ofPlain? cs = ofDigits? (splitSign cs).1 whole fraction := by
  rw [ofPlain?]
  dsimp only
  rw [h]
  rfl

/-- **A plain numeral that denotes a decimal is read as that.** -/
theorem ofPlain?_exact (h : Plain cs x) (hfits : Representable x) :
    ∃ d, ofPlain? cs = some d ∧ d.value = x := by
  obtain ⟨whole, fraction, hscan, hdigits, rfl⟩ := h.exists_scan
  rw [ofPlain?_eq hscan]
  refine ofDigits?_exact _ hdigits ?_
  cases hsign : (splitSign cs).1 with
  | true => simpa [hsign] using hfits.neg
  | false => simpa [hsign] using hfits

theorem abs_lt_of_ofPlain? (h : Plain cs x) {d : Decimal} (hd : ofPlain? cs = some d) :
    |x| < bound := by
  obtain ⟨whole, fraction, hscan, hdigits, rfl⟩ := h.exists_scan
  rw [ofPlain?_eq hscan] at hd
  have hlt : (joined whole fraction : ℚ) < bound * 10 ^ fraction.length := by
    exact_mod_cast joined_lt_of_ofDigits? hdigits hd
  have hsign : |if (splitSign cs).1 then (-1 : ℚ) else 1| = 1 := by
    cases (splitSign cs).1 <;> simp
  rw [abs_mul, hsign, one_mul, abs_of_nonneg (by positivity), div_lt_iff₀ (ten_pow_pos _)]
  exact hlt

end

/-- A plain numeral is read exactly unless it falls between two decimals. -/
theorem value_of_ofPlain? {cs : List Char} {x : ℚ} {d : Decimal} (h : Plain cs x)
    (hd : ofPlain? cs = some d) (hx : ¬ Between x) : d.value = x := by
  have hfits : Representable x := by
    by_contra hno
    exact hx ⟨abs_lt_of_ofPlain? h hd, hno⟩
  obtain ⟨d', hd', hvalue⟩ := ofPlain?_exact h hfits
  obtain rfl := Option.some_inj.mp (hd.symm.trans hd')
  exact hvalue

/-! ### Powers of ten -/

section

variable {d d' : Decimal} {k : ℕ}

/-- Moved behind its last place, a decimal is an integer. -/
theorem value_mul_of_scale_le (h : d.scale ≤ k) :
    d.value * 10 ^ k = (d.coeff * tenTo (k - d.scale) : ℤ) := by
  obtain ⟨e, rfl⟩ := Nat.exists_eq_add_of_le h
  rw [Nat.add_sub_cancel_left, Int.cast_mul, cast_tenTo, value, pow_add, ← mul_assoc,
    div_mul_cancel₀ _ (ten_pow_pos _).ne']

theorem scaleUp?_eq_some (h : d.scaleUp? k = some d') :
    k ≤ 28 ∧ d'.value = d.value * 10 ^ k := by
  rw [scaleUp?] at h
  split at h
  · rename_i hk
    refine ⟨hk.trans d.scale_le, ?_⟩
    obtain ⟨e, he⟩ := Nat.exists_eq_add_of_le hk
    rw [value_of_ofCoeff? h, value, he, Nat.add_sub_cancel_left, pow_add, div_mul_eq_div_div_swap,
      div_mul_cancel₀ _ (ten_pow_pos _).ne']
  · rename_i hk
    split at h
    · exact absurd h (by simp)
    · rename_i h28
      refine ⟨Nat.le_of_not_lt h28, ?_⟩
      rw [value_of_ofCoeff? h, value_mul_of_scale_le (Nat.le_of_not_le hk), pow_zero, div_one]

theorem exists_scaleUp? (hk : k ≤ 28) (hfits : Representable (d.value * 10 ^ k)) :
    ∃ d', d.scaleUp? k = some d' := by
  rw [scaleUp?]
  by_cases hplaces : k ≤ d.scale
  · rw [if_pos hplaces]
    have hcoeff : d.coeff.natAbs < bound := natAbs_coeff d ▸ d.magnitude_lt
    have hscale : d.scale - k ≤ 28 := (Nat.sub_le _ _).trans d.scale_le
    obtain ⟨d', hd', -⟩ := exists_ofCoeff? hcoeff hscale
    exact ⟨d', hd'⟩
  · rw [if_neg hplaces, if_neg (Nat.not_lt.mpr hk)]
    have hlt := hfits.abs_lt
    rw [value_mul_of_scale_le (Nat.le_of_not_le hplaces), ← Int.cast_abs, Int.abs_eq_natAbs] at hlt
    have hcoeff : (d.coeff * tenTo (k - d.scale)).natAbs < bound := by exact_mod_cast hlt
    obtain ⟨d', hd', -⟩ := exists_ofCoeff? hcoeff (Nat.zero_le 28)
    exact ⟨d', hd'⟩

theorem exists_scaleDown? (d : Decimal) (hk : k ≤ 28) : ∃ d', d.scaleDown? k = some d' := by
  rw [scaleDown?, if_neg (Nat.not_lt.mpr hk)]
  split
  · exact ⟨_, rfl⟩
  · exact ⟨_, rfl⟩

theorem dropDigits_mul (q j : ℕ) : dropDigits (q * 10 ^ j) j = q := by
  have hpow : 0 < 10 ^ j := Nat.pow_pos (by decide)
  have htwice : 2 * (q * 10 ^ j) + 10 ^ j = 10 ^ j + q * (2 * 10 ^ j) := by ring
  show (2 * (q * 10 ^ j) + 10 ^ j) / (2 * 10 ^ j) = q
  rw [htwice, Nat.add_mul_div_right _ _ (by omega), Nat.div_eq_of_lt (by omega), Nat.zero_add]

theorem coeff_eq (d : Decimal) : (d.coeff : ℚ) = (if d.negative then -1 else 1) * d.magnitude := by
  rw [coeff]
  cases d.negative <;> simp

theorem value_eq_sign (d : Decimal) :
    d.value = (if d.negative then -1 else 1) * (d.magnitude / 10 ^ d.scale) := by
  rw [value, coeff_eq, mul_div_assoc]

/-- A number of 28 places that is written with more has zeros at the end. -/
theorem exists_magnitude_eq {c : ℤ} {s j m : ℕ} (h : (c : ℚ) / 10 ^ s = d.coeff / 10 ^ m)
    (hs : s ≤ 28) (hm : m = 28 + j) : ∃ q, d.magnitude = q * 10 ^ j := by
  obtain ⟨e, he⟩ := Nat.exists_eq_add_of_le hs
  have hnat : c.natAbs * 10 ^ m = d.magnitude * 10 ^ s := by
    rw [natAbs_mul_eq_of_div_eq h, natAbs_coeff]
  refine ⟨c.natAbs * 10 ^ e, ?_⟩
  refine Nat.eq_of_mul_eq_mul_right (Nat.pow_pos (n := s) (by decide : 0 < 10)) ?_
  rw [← hnat, hm, he]
  ring

/-- **What is divided loses no digits if a decimal comes out.** -/
theorem scaleDown?_eq_some (h : d.scaleDown? k = some d') :
    k ≤ 28 ∧ k ≤ d'.scale ∧
      (Representable (d.value / 10 ^ k) → d'.value = d.value / 10 ^ k) := by
  have hquot : d.value / 10 ^ k = d.coeff / 10 ^ (d.scale + k) := by
    rw [value, div_div, ← pow_add]
  rw [scaleDown?] at h
  split at h
  · exact absurd h (by simp)
  · rename_i hk
    split at h
    · obtain rfl := Option.some_inj.mp h
      exact ⟨Nat.le_of_not_lt hk, Nat.le_add_left k d.scale, fun _ => hquot.symm⟩
    · rename_i hplaces
      obtain rfl := Option.some_inj.mp h
      refine ⟨Nat.le_of_not_lt hk, Nat.le_of_not_lt hk, ?_⟩
      rintro ⟨c, s, -, hs, hcs⟩
      obtain ⟨j, hj⟩ : ∃ j, d.scale + k = 28 + j := Nat.exists_eq_add_of_le (by omega)
      obtain ⟨q, hq⟩ := exists_magnitude_eq (hcs.trans hquot) hs hj
      have hdrop : dropDigits d.magnitude (d.scale + k - 28) = q := by
        rw [hj, Nat.add_sub_cancel_left, hq, dropDigits_mul]
      rw [hquot, value, coeff_eq, coeff_eq]
      show (if d.negative then (-1 : ℚ) else 1) *
        (dropDigits d.magnitude (d.scale + k - 28) : ℕ) / 10 ^ 28 = _
      rw [hdrop, hj, pow_add, hq, Nat.cast_mul, Nat.cast_pow, Nat.cast_ofNat, ← mul_assoc,
        mul_div_mul_right _ _ (ten_pow_pos j).ne']

end

/-! ### Numerals of both forms -/

/-- The base of the numeral or its number is no decimal, though not too large for
one. -/
def Numeral.FallsBetween (n : Numeral) : Prop := Between n.base ∨ Between n.value

@[simp] theorem Numeral.value_plain (x : ℚ) : Numeral.value ⟨x, 0⟩ = x := by
  rw [value, zpow_zero, mul_one]

@[simp] theorem Numeral.value_up (x : ℚ) (k : ℕ) : Numeral.value ⟨x, k⟩ = x * 10 ^ k := by
  rw [value, zpow_natCast]

@[simp] theorem Numeral.value_down (x : ℚ) (k : ℕ) : Numeral.value ⟨x, -k⟩ = x / 10 ^ k := by
  rw [value, zpow_neg, zpow_natCast, div_eq_mul_inv]

section

variable {n : Numeral} {r : Option Decimal} {d : Decimal}

theorem Reading.natAbs_power_le (h : Reading n r) (hr : r = some d) : n.power.natAbs ≤ 28 := by
  cases h with
  | plain => exact Nat.zero_le 28
  | up k _ =>
    obtain ⟨d₀, -, hd⟩ := Option.bind_eq_some_iff.mp hr
    simpa using (scaleUp?_eq_some hd).1
  | down k _ =>
    obtain ⟨d₀, -, hd⟩ := Option.bind_eq_some_iff.mp hr
    simpa using (scaleDown?_eq_some hd).1

/-- If the number of a numeral comes out, then no digit of its base was rounded away. -/
theorem Reading.representable_base (h : Reading n r) (hr : r = some d)
    (hvalue : d.value = n.value) : Representable n.base := by
  cases h with
  | @plain cs x _ =>
    rw [Numeral.value_plain] at hvalue
    exact hvalue ▸ representable_value d
  | @up cs x k _ =>
    obtain ⟨d₀, -, hd⟩ := Option.bind_eq_some_iff.mp hr
    rw [(scaleUp?_eq_some hd).2, Numeral.value_up] at hvalue
    exact mul_right_cancel₀ (ten_pow_pos k).ne' hvalue ▸ representable_value d₀
  | @down cs x k _ =>
    -- the result has enough places to move the point back
    obtain ⟨d₀, -, hd⟩ := Option.bind_eq_some_iff.mp hr
    obtain ⟨-, hk, -⟩ := scaleDown?_eq_some hd
    obtain ⟨e, he⟩ := Nat.exists_eq_add_of_le hk
    have hplaces := d.scale_le
    rw [Numeral.value_down, eq_div_iff (ten_pow_pos k).ne'] at hvalue
    refine ⟨d.coeff, e, natAbs_coeff d ▸ d.magnitude_lt, by omega, ?_⟩
    rw [← hvalue, value, he, pow_add, div_mul_eq_div_div_swap,
      div_mul_cancel₀ _ (ten_pow_pos k).ne']

/-- **Numerals that fall between two decimals are the ones that are rounded.** -/
theorem Reading.value_eq_iff (h : Reading n r) (hr : r = some d) :
    d.value = n.value ↔ ¬ n.FallsBetween := by
  constructor
  · rintro hvalue (⟨-, hbase⟩ | ⟨-, hno⟩)
    · exact hbase (h.representable_base hr hvalue)
    · exact hno (hvalue ▸ representable_value d)
  · intro hbetween
    obtain ⟨hbase, hvalue⟩ := not_or.mp hbetween
    cases h with
    | @plain cs x hx =>
      rw [Numeral.value_plain]
      exact value_of_ofPlain? hx hr hbase
    | @up cs x k hx =>
      obtain ⟨d₀, hd₀, hd⟩ := Option.bind_eq_some_iff.mp hr
      rw [Numeral.value_up, (scaleUp?_eq_some hd).2, value_of_ofPlain? hx hd₀ hbase]
    | @down cs x k hx =>
      obtain ⟨d₀, hd₀, hd⟩ := Option.bind_eq_some_iff.mp hr
      have hquot : d₀.value / 10 ^ k = x / 10 ^ k := by rw [value_of_ofPlain? hx hd₀ hbase]
      -- a quotient is not larger than the base, so that it is a decimal
      have hlt : |x / 10 ^ k| < bound := by
        rw [abs_div, abs_of_pos (ten_pow_pos k)]
        exact (div_le_self (abs_nonneg x) (one_le_pow₀ (by norm_num))).trans_lt
          (abs_lt_of_ofPlain? hx hd₀)
      have hfits : Representable (x / 10 ^ k) := by
        by_contra hno
        exact hvalue (by rw [Numeral.value_down]; exact ⟨hlt, hno⟩)
      rw [Numeral.value_down, (scaleDown?_eq_some hd).2.2 (hquot ▸ hfits), hquot]

/-- A numeral is accepted if base and number are decimals and its power is small. -/
theorem Reading.exists_eq_some (h : Reading n r) (hbase : Representable n.base)
    (hvalue : Representable n.value) (hpower : n.power.natAbs ≤ 28) : ∃ d, r = some d := by
  cases h with
  | @plain cs x hx =>
    obtain ⟨d, hd, -⟩ := ofPlain?_exact hx hbase
    exact ⟨d, hd⟩
  | @up cs x k hx =>
    obtain ⟨d₀, hd₀, hd₀x⟩ := ofPlain?_exact hx hbase
    rw [Numeral.value_up, ← hd₀x] at hvalue
    obtain ⟨d, hd⟩ := exists_scaleUp? (by simpa using hpower) hvalue
    exact ⟨d, Option.bind_eq_some_iff.mpr ⟨d₀, hd₀, hd⟩⟩
  | @down cs x k hx =>
    obtain ⟨d₀, hd₀, -⟩ := ofPlain?_exact hx hbase
    obtain ⟨d, hd⟩ := exists_scaleDown? d₀ (k := k) (by simpa using hpower)
    exact ⟨d, Option.bind_eq_some_iff.mpr ⟨d₀, hd₀, hd⟩⟩

end

/-! ### Texts of fields -/

theorem parse_eq_ok_iff {field s : String} {d : Decimal} :
    parse field s = .ok d ↔ ofNumeral? (Text.trim s.toList) = some d := by
  rw [parse, ofText?]
  cases ofNumeral? (Text.trim s.toList) <;> simp

theorem parse_eq_error {field s : String} {e : DecodeError} (h : parse field s = .error e) :
    e = .invalidDecimal field s := by
  rw [parse] at h
  cases hs : ofText? s with
  | some d =>
    rw [hs] at h
    exact absurd h (by simp)
  | none =>
    rw [hs] at h
    exact (Except.error.inj h).symm

/-- A text that does not fall between two decimals is not read as another number. -/
theorem value_of_parse {field s : String} {d : Decimal} {n : Numeral} (h : parse field s = .ok d)
    (hn : Denotes (Text.trim s.toList) n) (hbetween : ¬ n.FallsBetween) : d.value = n.value :=
  (hn.reading.value_eq_iff (parse_eq_ok_iff.mp h)).mpr hbetween

/-- **Exact or refused.** What is read is a numeral, and it is read as the number
that it denotes unless it falls between two decimals; what is no decimal is
refused, with the same exception. The texts that are read as their number are
those with base and number a decimal and a power of 28 at most. So, with this one
exception, two texts name one price only if they denote one number, and what is
above zero is not read as zero. -/
theorem parse_exact_or_refused (field s : String) :
    (∀ e, parse field s = .error e → e = .invalidDecimal field s) ∧
    (∀ d, parse field s = .ok d → ∃! n, Denotes (Text.trim s.toList) n) ∧
    ∀ n, Denotes (Text.trim s.toList) n →
      (∀ d, parse field s = .ok d → (d.value = n.value ↔ ¬ n.FallsBetween)) ∧
      (¬ n.FallsBetween → ¬ Representable n.value →
        parse field s = .error (.invalidDecimal field s)) ∧
      ((∃ d, parse field s = .ok d ∧ d.value = n.value) ↔
        Representable n.base ∧ Representable n.value ∧ n.power.natAbs ≤ 28) ∧
      ∀ d, parse field s = .ok d → ¬ n.FallsBetween →
        (0 < n.value → 0 < d.value) ∧
        ∀ field' s' d' n', parse field' s' = .ok d' → Denotes (Text.trim s'.toList) n' →
          ¬ n'.FallsBetween → (d ≈ d' ↔ n.value = n'.value) := by
  refine ⟨fun e he => parse_eq_error he, fun d hd => ?_, fun n hn => ⟨fun d hd => ?_, ?_, ?_, ?_⟩⟩
  · obtain ⟨n, hn⟩ := exists_denotes (parse_eq_ok_iff.mp hd)
    exact ⟨n, hn, fun m hm => hm.unique hn⟩
  · exact hn.reading.value_eq_iff (parse_eq_ok_iff.mp hd)
  · intro hbetween hno
    cases hs : parse field s with
    | error e => rw [parse_eq_error hs]
    | ok d => exact absurd (value_of_parse hs hn hbetween ▸ representable_value d) hno
  · constructor
    · rintro ⟨d, hd, hvalue⟩
      have hread := parse_eq_ok_iff.mp hd
      exact ⟨hn.reading.representable_base hread hvalue, hvalue ▸ representable_value d,
        hn.reading.natAbs_power_le hread⟩
    · rintro ⟨hbase, hvalue, hpower⟩
      obtain ⟨d, hd⟩ := hn.reading.exists_eq_some hbase hvalue hpower
      have hbetween : ¬ n.FallsBetween := not_or.mpr ⟨fun h => h.2 hbase, fun h => h.2 hvalue⟩
      have hd : parse field s = .ok d := parse_eq_ok_iff.mpr hd
      exact ⟨d, hd, value_of_parse hd hn hbetween⟩
  · intro d hd hbetween
    have hvalue := value_of_parse hd hn hbetween
    refine ⟨fun hpos => hvalue ▸ hpos, fun field' s' d' n' hd' hn' hbetween' => ?_⟩
    rw [equiv_iff_value, hvalue, value_of_parse hd' hn' hbetween']

/-- A price without a power of ten. -/
def plainPrice : String := "12.50"

/-- The same price with a power of ten. -/
def scaledPrice : String := "1.25e1"

/-- A price that is too large for a coefficient. -/
def hugePrice : String := "100000000000000000000000000000"

theorem parse_exact_or_refused_spelled :
    (∃ d d', parse "p" plainPrice = .ok d ∧ parse "p" scaledPrice = .ok d' ∧ d ≈ d' ∧
      0 < d.value) ∧
    parse "p" hugePrice = .error (.invalidDecimal "p" hugePrice) := by
  constructor
  · have hplain : Denotes (Text.trim plainPrice.toList) ⟨25 / 2, 0⟩ := by
      have hchars : Text.trim plainPrice.toList = ['1', '2', '.', '5', '0'] := by decide +kernel
      have hvalue : magnitudeOf ['1', '2', '.', '5', '0'] = 25 / 2 := by decide +kernel
      rw [hchars, ← hvalue]
      exact .plain (.unsigned (by decide))
    have hscaled : Denotes (Text.trim scaledPrice.toList) ⟨5 / 4, 1⟩ := by
      have hchars : Text.trim scaledPrice.toList = ['1', '.', '2', '5'] ++ 'e' :: ['1'] := by
        decide +kernel
      have hvalue : magnitudeOf ['1', '.', '2', '5'] = 5 / 4 := by decide +kernel
      have hpower : Count ['1'] 1 := .unsigned ⟨by simp, List.forall_mem_singleton.mpr rfl⟩
      rw [hchars, ← hvalue]
      exact .scaled (.unsigned (by decide)) (Or.inl rfl)
        (.up hpower)
    have hfits : Representable (25 / 2) := ⟨125, 1, by decide, by decide, by norm_num⟩
    have hfits' : Representable (5 / 4) := ⟨125, 2, by decide, by decide, by norm_num⟩
    have hsame : Numeral.value ⟨5 / 4, 1⟩ = 25 / 2 := by
      rw [Numeral.value]
      norm_num
    have hbetween : ¬ Numeral.FallsBetween ⟨25 / 2, 0⟩ :=
      not_or.mpr ⟨fun h => h.2 hfits, fun h => h.2 (by rwa [Numeral.value_plain])⟩
    have hbetween' : ¬ Numeral.FallsBetween ⟨5 / 4, 1⟩ :=
      not_or.mpr ⟨fun h => h.2 hfits', fun h => h.2 (by rwa [hsame])⟩
    obtain ⟨-, -, hread⟩ := parse_exact_or_refused "p" plainPrice
    obtain ⟨-, -, hread'⟩ := parse_exact_or_refused "p" scaledPrice
    obtain ⟨-, -, hexact, hnames⟩ := hread _ hplain
    obtain ⟨-, -, hexact', -⟩ := hread' _ hscaled
    obtain ⟨d, hd, -⟩ := hexact.mpr ⟨hfits, by rwa [Numeral.value_plain], by decide⟩
    obtain ⟨d', hd', -⟩ := hexact'.mpr ⟨hfits', by rwa [hsame], by decide⟩
    obtain ⟨hpositive, hequiv⟩ := hnames d hd hbetween
    refine ⟨d, d', hd, hd', ?_, hpositive (by norm_num)⟩
    exact (hequiv "p" scaledPrice d' _ hd' hscaled hbetween').mpr (by rw [hsame]; norm_num)
  · have hhuge : Denotes (Text.trim hugePrice.toList) ⟨10 ^ 29, 0⟩ := by
      have hchars : Text.trim hugePrice.toList = '1' :: List.replicate 29 '0' := by decide +kernel
      have hvalue : magnitudeOf ('1' :: List.replicate 29 '0') = 10 ^ 29 := by decide +kernel
      rw [hchars, ← hvalue]
      exact .plain (.unsigned (by decide))
    have hlarge : ¬ |(10 : ℚ) ^ 29| < bound := by
      rw [bound]
      norm_num
    obtain ⟨-, -, hread⟩ := parse_exact_or_refused "p" hugePrice
    obtain ⟨-, hrefused, -⟩ := hread _ hhuge
    refine hrefused (not_or.mpr ⟨fun h => hlarge h.1, fun h => hlarge ?_⟩) fun h => hlarge ?_
    · simpa using h.1
    · simpa using h.abs_lt

/-- A size in the 29th place behind the point. -/
def tinySize : String := "0.00000000000000000000000000001"

/-- **A size above zero is read as zero.** -/
theorem parse_rounds_to_zero : ∃ d n, parse "size" tinySize = .ok d ∧
    Denotes (Text.trim tinySize.toList) n ∧ 0 < n.value ∧ ¬ Representable n.value ∧
    d.isZero = true ∧ ¬ d.value = n.value := by
  have hchars : Text.trim tinySize.toList = '0' :: '.' :: (List.replicate 28 '0' ++ ['1']) := by
    decide +kernel
  have hparse : ∃ d, parse "size" tinySize = .ok d ∧ d.isZero = true := by
    rw [parse, ofText?, hchars]
    exact ⟨_, rfl, rfl⟩
  have hdenotes : Denotes (Text.trim tinySize.toList) ⟨1 / 10 ^ 29, 0⟩ := by
    have hvalue : magnitudeOf ('0' :: '.' :: (List.replicate 28 '0' ++ ['1'])) = 1 / 10 ^ 29 := by
      decide +kernel
    rw [hchars, ← hvalue]
    exact .plain (.unsigned (by decide))
  have hno : ¬ Representable (1 / 10 ^ 29) := by
    rintro ⟨c, s, -, hs, h⟩
    have hnat : c.natAbs * 10 ^ 29 = 1 * 10 ^ s :=
      natAbs_mul_eq_of_div_eq (b := 1) (by rw [h, Int.cast_one])
    have hdvd : 10 ^ 29 ∣ 10 ^ s := Dvd.intro_left c.natAbs (by rw [hnat, Nat.one_mul])
    have hle : 29 ≤ s := (Nat.pow_dvd_pow_iff_le_right (by decide : 1 < 10)).mp hdvd
    omega
  obtain ⟨d, hd, hzero⟩ := hparse
  refine ⟨d, _, hd, hdenotes, ?_, ?_, hzero, ?_⟩
  · norm_num
  · simpa using hno
  · rw [Numeral.value_plain]
    intro h
    exact hno (h ▸ representable_value d)

end BookSync.Decimal
