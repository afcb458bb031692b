/-
The sign of what is read.

A decimal keeps its sign apart from its digits, and the sign of a zero may be a minus. Of
the numerals that denote a number below zero and are rounded to zero, some keep their
minus and some lose it:

* `negative_iff`: a decimal has a minus if it is below zero, or such a zero;
* `not_isMinusZero_of_ofPlain?`: a plain numeral is never read as one;
* `isMinusZero_iff_vanishes`: a scaled numeral is, exactly if its base is below zero and
  less than half a unit of the last place is left of it.
-/
import BookSync.Proofs.Decimal.Exact

namespace BookSync.Decimal

/-! ### Absolute values -/

theorem value_abs (d : Decimal) : d.abs.value = d.magnitude / 10 ^ d.scale := rfl

theorem value_abs_nonneg (d : Decimal) : 0 ≤ d.abs.value := by
  rw [value_abs]
  exact div_nonneg (Nat.cast_nonneg _) (ten_pow_pos _).le

/-! ### Zeros with a minus -/

/-- A zero with a minus. -/
def IsMinusZero (d : Decimal) : Prop := d.negative = true ∧ d.value = 0

theorem negative_iff (d : Decimal) : d.negative = true ↔ d.value < 0 ∨ d.IsMinusZero := by
  have hnonneg := d.value_abs_nonneg
  have hvalue := value_eq_sign d
  rw [← value_abs] at hvalue
  rw [IsMinusZero]
  cases hneg : d.negative with
  | false =>
    rw [hneg, if_neg Bool.false_ne_true, one_mul] at hvalue
    simp [hvalue, hnonneg]
  | true =>
    rw [hneg, if_pos rfl, neg_one_mul] at hvalue
    have hle : d.value ≤ 0 := by linarith
    simpa using hle.lt_or_eq

section

variable {c : ℤ} {s k : ℕ} {cs : List Char} {d d' : Decimal}

/-- A coefficient of zero gets no minus. -/
theorem not_isMinusZero_of_ofCoeff? (h : ofCoeff? c s = some d) : ¬ d.IsMinusZero := by
  rintro ⟨hnegative, hzero⟩
  rw [(ofCoeff?_eq_some_iff.mp h).1, decide_eq_true_iff] at hnegative
  have hlt : (c : ℚ) / 10 ^ s < 0 :=
    div_neg_of_neg_of_pos (by exact_mod_cast hnegative) (ten_pow_pos s)
  rw [← value_of_ofCoeff? h] at hlt
  exact hlt.ne hzero

theorem not_isMinusZero_of_ofPlain? (h : ofPlain? cs = some d) : ¬ d.IsMinusZero := by
  obtain ⟨⟨whole, fraction⟩, -, h⟩ := Option.bind_eq_some_iff.mp h
  dsimp only [ofDigits?] at h
  split at h
  · obtain ⟨⟨m, scale⟩, -, h⟩ := Option.bind_eq_some_iff.mp h
    exact not_isMinusZero_of_ofCoeff? h
  · simp at h

theorem not_isMinusZero_of_scaleUp? (h : d.scaleUp? k = some d') : ¬ d'.IsMinusZero := by
  rw [scaleUp?] at h
  split at h
  · exact not_isMinusZero_of_ofCoeff? h
  · split at h
    · simp at h
    · exact not_isMinusZero_of_ofCoeff? h

/-! ### Points that move to the left -/

theorem dropDigits_eq_zero_iff {n : ℕ} : dropDigits n k = 0 ↔ 2 * n < 10 ^ k := by
  have hpow : 0 < 10 ^ k := Nat.pow_pos (by decide)
  show (2 * n + 10 ^ k) / (2 * 10 ^ k) = 0 ↔ _
  rw [Nat.div_eq_zero_iff]
  omega

/-- Of a number whose point is moved nothing is left if it is less than half a unit of the last
place. -/
theorem magnitude_scaleDown?_eq_zero_iff (hneg : d.value < 0) (h : d.scaleDown? k = some d') :
    d'.magnitude = 0 ↔ -(1 / 2) < d.value / 10 ^ k * 10 ^ 28 := by
  have hvalue := value_eq_sign d
  rw [(negative_iff d).mpr (Or.inl hneg), if_pos rfl, neg_one_mul] at hvalue
  have hunits : d.value / 10 ^ k * 10 ^ 28 =
      -((d.magnitude : ℚ) * 10 ^ 28 / 10 ^ (d.scale + k)) := by
    rw [hvalue, pow_add]
    ring
  rw [hunits, neg_lt_neg_iff]
  rw [scaleDown?] at h
  split at h
  · simp at h
  · split at h
    · rename_i hplaces
      obtain rfl := Option.some_inj.mp h
      obtain ⟨e, he⟩ := Nat.exists_eq_add_of_le hplaces
      -- all digits are kept
      have hpos : 0 < d.magnitude := Nat.pos_of_ne_zero (mt value_eq_zero_iff.mpr hneg.ne)
      have hle : (1 : ℚ) ≤ d.magnitude * 10 ^ e := by
        exact_mod_cast Nat.mul_pos hpos (Nat.pow_pos (by decide))
      rw [he, pow_add, ← mul_assoc, mul_right_comm, mul_div_cancel_right₀ _ (ten_pow_pos _).ne']
      exact iff_of_false hpos.ne' (by linarith)
    · rename_i hplaces
      obtain rfl := Option.some_inj.mp h
      obtain ⟨j, hj⟩ := Nat.exists_eq_add_of_le (Nat.le_of_not_le hplaces)
      show dropDigits d.magnitude (d.scale + k - 28) = 0 ↔ _
      rw [hj, Nat.add_sub_cancel_left, dropDigits_eq_zero_iff, pow_add, mul_comm (10 ^ 28 : ℚ),
        mul_div_mul_right _ _ (ten_pow_pos 28).ne', div_lt_div_iff₀ (ten_pow_pos j) (by norm_num)]
      constructor
      · intro hlt
        have hcast : 2 * (d.magnitude : ℚ) < 10 ^ j := by exact_mod_cast hlt
        linarith
      · intro hlt
        have hcast : 2 * (d.magnitude : ℚ) < 10 ^ j := by linarith
        exact_mod_cast hcast

theorem isMinusZero_scaleDown?_iff (hd : ¬ d.IsMinusZero) (h : d.scaleDown? k = some d') :
    d'.IsMinusZero ↔ d.value < 0 ∧ -(1 / 2) < d.value / 10 ^ k * 10 ^ 28 := by
  have hsign : d'.negative = d.negative := by
    rw [scaleDown?] at h
    split at h
    · simp at h
    · split at h
      · exact Option.some_inj.mp h ▸ rfl
      · exact Option.some_inj.mp h ▸ rfl
  rw [IsMinusZero, hsign, negative_iff, or_iff_left hd, value_eq_zero_iff]
  exact and_congr_right fun hneg => magnitude_scaleDown?_eq_zero_iff hneg h

end

/-! ### Numerals -/

/-- A scaled numeral below zero of which too little is left for 28 places. -/
inductive Vanishes : List Char → Prop
  | intro {base power : List Char} {mark : Char} {k : ℕ} {d : Decimal}
      (hbase : ofPlain? base = some d) (hmark : IsMark mark) (hpower : Count power k)
      (hk : k ≤ 28) (hneg : d.value < 0) (hsmall : -(1 / 2) < d.value / 10 ^ k * 10 ^ 28) :
      Vanishes (base ++ mark :: '-' :: power)

/-- **Which numerals are read as a zero with a minus.** -/
theorem isMinusZero_iff_vanishes {cs : List Char} {d : Decimal} (h : ofNumeral? cs = some d) :
    d.IsMinusZero ↔ Vanishes cs := by
  constructor
  · intro hzero
    obtain ⟨n, hn⟩ := exists_denotes h
    cases hn with
    | plain hplain =>
      rw [ofNumeral?, ofScaled?_eq_none hplain.not_isMark, Option.or_none] at h
      exact absurd hzero (not_isMinusZero_of_ofPlain? h)
    | scaled hbase hmark hpower =>
      rw [ofNumeral?_scaled hmark] at h
      cases hpower with
      | up hcount =>
        rw [ofScaled?_up hbase.not_isMark hmark hcount] at h
        obtain ⟨b, -, h⟩ := Option.bind_eq_some_iff.mp h
        exact absurd hzero (not_isMinusZero_of_scaleUp? h)
      | down hcount =>
        rw [ofScaled?_down hbase.not_isMark hmark hcount] at h
        obtain ⟨b, hb, h⟩ := Option.bind_eq_some_iff.mp h
        have hsigned := not_isMinusZero_of_ofPlain? hb
        obtain ⟨hneg, hsmall⟩ := (isMinusZero_scaleDown?_iff hsigned h).mp hzero
        exact .intro hb hmark hcount (scaleDown?_eq_some h).1 hneg hsmall
  · rintro ⟨hbase, hmark, hcount, -, hneg, hsmall⟩
    obtain ⟨x, hx⟩ := exists_plain hbase
    rw [ofNumeral?_scaled hmark, ofScaled?_down hx.not_isMark hmark hcount, hbase,
      Option.bind_some] at h
    exact (isMinusZero_scaleDown?_iff (not_isMinusZero_of_ofPlain? hbase) h).mpr ⟨hneg, hsmall⟩

end BookSync.Decimal
