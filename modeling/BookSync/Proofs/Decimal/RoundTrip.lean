/-
Decimals that are written and read again.

The text of a decimal has all digits of its coefficient, and no more places than
decimals have. Reading it takes every digit in and rounds none away, so that the
decimal comes back with its scale:

* `takeFraction_all`: digits for which there is room are all taken in;
* `ofPlain?_eq_ofCoeff?`: a plain numeral with at most 28 places and 96 bits is read
  as its coefficient and its places;
* `row_body`: the text of a decimal is such a numeral, with the coefficient and the
  scale of the decimal.

`parse_returns_decimal` is the round trip, with blanks around the text, and
the same for a coefficient with a power of ten behind it.
-/
import BookSync.Proofs.Decimal.Digits
import BookSync.Proofs.Decimal.Exact
import BookSync.Proofs.Text.Parts

namespace BookSync.Decimal

/-! ### Taking in all digits -/

/-- While there is room each digit gets its place. -/
theorem takeFraction_all {n scale : ℕ} (ps : List Place)
    (hlt : (ps.map (·.digit)).foldl push n < bound) (hscale : scale + ps.length ≤ 28) :
    takeFraction n scale ps = some ((ps.map (·.digit)).foldl push n, scale + ps.length) := by
  induction ps generalizing n scale with
  | nil => rfl
  | cons p ps ih =>
    rw [List.map_cons, List.foldl_cons] at hlt ⊢
    rw [List.length_cons] at hscale ⊢
    have hroom : scale < 28 ∧ push n p.digit < bound :=
      ⟨by omega, (le_foldl_push _ _).trans_lt hlt⟩
    rw [takeFraction, if_pos hroom, ih hlt (by omega), Nat.add_right_comm, Nat.add_assoc]

/-- **A numeral that fits is read digit by digit.** -/
theorem ofPlain?_eq_ofCoeff? (cs : List Char) (h : Unsigned (splitSign cs).2)
    (hlt : numberOf (splitSign cs).2 < bound) (hplaces : placesOf (splitSign cs).2 ≤ 28) :
    ofPlain? cs = ofCoeff? (if (splitSign cs).1 then -(numberOf (splitSign cs).2 : ℤ)
      else numberOf (splitSign cs).2) (placesOf (splitSign cs).2) := by
  obtain ⟨⟨whole, fraction⟩, hscan⟩ :=
    Option.isSome_iff_exists.mp ((scan_start_isSome_iff _).mpr h)
  obtain ⟨hall, hlast⟩ := scan_eq_some hscan
  have hnumber : (fraction.map (·.digit)).foldl push (whole.foldl push 0) =
      numberOf (splitSign cs).2 := by
    rw [← List.foldl_append, hall, foldl_push_zero, numberOf]
  have hlength : fraction.length = placesOf (splitSign cs).2 := by
    rw [← List.length_map (f := (·.digit)), hlast]
    rfl
  have hwhole : whole.foldl push 0 < bound := by
    refine (le_foldl_push _ (fraction.map (·.digit))).trans_lt ?_
    rwa [hnumber]
  have htake := takeFraction_all fraction (by rwa [hnumber])
    (by rw [Nat.zero_add, hlength]; exact hplaces)
  rw [hnumber, hlength, Nat.zero_add] at htake
  rw [ofPlain?_eq hscan, ofDigits?]
  dsimp only
  rw [if_pos hwhole, htake]
  rfl

theorem ofCoeff?_eq_some {d : Decimal} (hzero : d.magnitude = 0 → d.negative = false) :
    ofCoeff? (if d.negative then -(d.magnitude : ℤ) else d.magnitude) d.scale = some d := by
  rw [ofCoeff?_eq_some_iff]
  cases hn : d.negative with
  | true =>
    have hpos : d.magnitude ≠ 0 := fun h => by simp [hn] at hzero; exact hzero h
    simp
    omega
  | false => simp

/-! ### The text of a decimal -/

/-- The digits of a decimal, with its point among them. -/
def body (d : Decimal) : List Char :=
  let ds := digits d.magnitude (d.scale + 1)
  ds.take (ds.length - d.scale) ++
    if d.scale = 0 then [] else '.' :: ds.drop (ds.length - d.scale)

theorem toChars_eq (d : Decimal) : d.toChars = (if d.negative then ['-'] else []) ++ d.body := by
  rw [toChars, body, List.append_assoc]

/-- The text of a decimal has all its digits and all its places. -/
theorem row_body (d : Decimal) : Row d.body d.magnitude d.scale := by
  have hdigits := digits_digits d.magnitude (d.scale + 1)
  have hnumber := numberOf_digits d.magnitude (d.scale + 1)
  have hlength := le_length_digits d.magnitude (d.scale + 1)
  rw [body]
  generalize digits d.magnitude (d.scale + 1) = ds at hdigits hnumber hlength
  by_cases hscale : d.scale = 0
  · have hrow := Row.whole hdigits
    rw [hnumber] at hrow
    rw [hscale, Nat.sub_zero, if_pos rfl, List.take_length, List.append_nil]
    exact hrow
  · rw [if_neg hscale, ← hnumber]
    exact row_cut hdigits hlength

theorem splitSign_toChars (d : Decimal) : splitSign d.toChars = (d.negative, d.body) := by
  rw [toChars_eq]
  cases d.negative with
  | true => rfl
  | false => exact splitSign_of_unsigned d.row_body.unsigned

/-- **A decimal is read from its text,** with all its places. -/
theorem ofNumeral?_toChars {d : Decimal} (hzero : d.magnitude = 0 → d.negative = false) :
    ofNumeral? d.toChars = some d := by
  have hrow := d.row_body
  have hplain : ofPlain? d.toChars = some d := by
    have hread := ofPlain?_eq_ofCoeff? d.toChars
    rw [splitSign_toChars, hrow.numberOf_eq, hrow.placesOf_eq] at hread
    rw [hread hrow.unsigned d.magnitude_lt d.scale_le, ofCoeff?_eq_some hzero]
  rw [ofNumeral?, hplain]
  rfl

/-- The text of a decimal denotes its number. -/
theorem plain_toChars (d : Decimal) : Plain d.toChars d.value := by
  have hrow := d.row_body
  refine plain_iff.mpr ⟨?_, ?_⟩
  · rw [splitSign_toChars]
    exact hrow.unsigned
  · rw [splitSign_toChars, hrow.magnitudeOf_eq, value, coeff_eq]
    cases d.negative with
    | true => simp [neg_div]
    | false => simp

/-! ### Blanks -/

theorem isBlank_of_isSome {c : Char} (h : (digit? c).isSome = true) : Text.isBlank c = false := by
  have hdigit := toNat_of_isSome h
  exact Text.isBlank_eq_false (by omega)

theorem Plain.isBlank_eq_false {cs : List Char} {x : ℚ} (h : Plain cs x) :
    ∀ c ∈ cs, Text.isBlank c = false := by
  intro c hc
  rcases h.chars c hc with hdigit | rfl | rfl | rfl | rfl
  · exact isBlank_of_isSome hdigit
  all_goals exact Text.isBlank_eq_false (by decide)

theorem Count.isBlank_eq_false {cs : List Char} {k : ℕ} (h : Count cs k) :
    ∀ c ∈ cs, Text.isBlank c = false := by
  cases h with
  | unsigned h => exact fun c hc => isBlank_of_isSome (h.chars c hc)
  | plus h =>
    refine List.forall_mem_cons.mpr ⟨Text.isBlank_eq_false (by decide), ?_⟩
    exact fun c hc => isBlank_of_isSome (h.chars c hc)

/-- There are no blanks in a numeral. -/
theorem Denotes.isBlank_eq_false {cs : List Char} {n : Numeral} (h : Denotes cs n) :
    ∀ c ∈ cs, Text.isBlank c = false := by
  cases h with
  | plain h => exact h.isBlank_eq_false
  | scaled hbase hmark hpower =>
    refine List.forall_mem_append.mpr ⟨hbase.isBlank_eq_false, List.forall_mem_cons.mpr ⟨?_, ?_⟩⟩
    · rcases hmark with rfl | rfl
      all_goals exact Text.isBlank_eq_false (by decide)
    · cases hpower with
      | up h => exact h.isBlank_eq_false
      | down h =>
        exact List.forall_mem_cons.mpr ⟨Text.isBlank_eq_false (by decide), h.isBlank_eq_false⟩

/-- The blanks around a numeral do not matter. -/
theorem parse_padded {field before s after : String} {n : Numeral} (h : Denotes s.toList n)
    (hbefore : ∀ c ∈ before.toList, Text.isBlank c = true)
    (hafter : ∀ c ∈ after.toList, Text.isBlank c = true) {d : Decimal} :
    parse field (before ++ s ++ after) = .ok d ↔ ofNumeral? s.toList = some d := by
  rw [parse_eq_ok_iff, String.toList_append, String.toList_append,
    Text.trim_padded hbefore h.isBlank_eq_false hafter]

/-! ### A coefficient with a power of ten -/

theorem toList_toString (m : ℤ) :
    (toString m).toList = (if m < 0 then ['-'] else []) ++ Nat.toDigits 10 m.natAbs := by
  rw [Int.toString_eq_repr]
  cases m with
  | ofNat n => simp [Int.repr]
  | negSucc n => simp [Int.repr, Int.negSucc_lt_zero]

section

variable {m : ℤ} {k : ℕ} {d : Decimal}

theorem splitSign_toString (m : ℤ) :
    splitSign (toString m).toList = (decide (m < 0), Nat.toDigits 10 m.natAbs) := by
  rw [toList_toString]
  by_cases hm : m < 0
  · rw [if_pos hm, decide_eq_true hm]
    rfl
  · rw [if_neg hm, decide_eq_false hm]
    exact splitSign_of_unsigned (Row.whole (digits_toDigits _)).unsigned

/-- The digits of an integer, with its sign, are a plain numeral. -/
theorem plain_toString (m : ℤ) : Plain (toString m).toList m := by
  have hrow := Row.whole (digits_toDigits m.natAbs)
  refine plain_iff.mpr ⟨?_, ?_⟩
  · rw [splitSign_toString]
    exact hrow.unsigned
  · rw [splitSign_toString, hrow.magnitudeOf_eq, numberOf_toDigits, pow_zero, div_one]
    by_cases hm : m < 0
    · simp [hm, abs_of_neg]
    · simp [hm, abs_of_nonneg (not_lt.mp hm)]

theorem ofPlain?_toString (hm : m.natAbs < bound) :
    ofPlain? (toString m).toList = ofCoeff? m 0 := by
  have hrow := Row.whole (digits_toDigits m.natAbs)
  have hread := ofPlain?_eq_ofCoeff? (toString m).toList
  rw [splitSign_toString, hrow.numberOf_eq, hrow.placesOf_eq, numberOf_toDigits] at hread
  rw [hread hrow.unsigned hm (Nat.zero_le 28)]
  congr 1
  by_cases hneg : m < 0
  · rw [if_pos (decide_eq_true hneg)]
    omega
  · rw [if_neg (by simpa using hneg)]
    omega

/-- An integer that is divided has as many places as there were zeros. -/
theorem scaleDown?_eq (hd : ofCoeff? m 0 = some d) (hk : k ≤ 28) :
    d.scaleDown? k = ofCoeff? m k := by
  obtain ⟨hnegative, hmagnitude, hscale⟩ := ofCoeff?_eq_some_iff.mp hd
  have hplaces : d.scale + k ≤ 28 := by omega
  rw [scaleDown?, if_neg (Nat.not_lt.mpr hk), dif_pos hplaces, eq_comm, ofCoeff?_eq_some_iff]
  exact ⟨hnegative, hmagnitude, by show d.scale + k = k; omega⟩

theorem denotes_scientific (m : ℤ) (k : ℕ) :
    Denotes ((toString m).toList ++ 'e' :: '-' :: Nat.toDigits 10 k) ⟨m, -k⟩ := by
  have hcount := Count.unsigned (digits_toDigits k)
  rw [numberOf_toDigits] at hcount
  exact .scaled (plain_toString m) (Or.inl rfl) (.down hcount)

/-- **A coefficient with a power of ten below one** is read as the decimal of this
coefficient and this scale. -/
theorem ofNumeral?_scientific (hm : m.natAbs < bound) (hk : k ≤ 28) :
    ofNumeral? ((toString m).toList ++ 'e' :: '-' :: Nat.toDigits 10 k) = ofCoeff? m k := by
  have hcount : Count (Nat.toDigits 10 k) k := by
    have hunsigned := Count.unsigned (digits_toDigits k)
    rwa [numberOf_toDigits] at hunsigned
  obtain ⟨d, hd, -⟩ := exists_ofCoeff? hm (Nat.zero_le 28)
  have hmark : IsMark 'e' := Or.inl rfl
  rw [ofNumeral?_scaled hmark, ofScaled?_down (plain_toString m).not_isMark hmark hcount,
    ofPlain?_toString hm, hd, Option.bind_some, scaleDown?_eq hd hk]

end

/-! ### Texts of fields -/

/-- **What is written is read again.** The text of a decimal, with blanks around it,
is read as this decimal with its scale, unless it is a zero with a minus. A
coefficient with `e-` and a scale behind it is read as the decimal of the two, and so
is the text of this decimal; any other plain text of this number is read as the same
number. -/
theorem parse_returns_decimal (field before after : String)
    (hbefore : ∀ c ∈ before.toList, Text.isBlank c = true)
    (hafter : ∀ c ∈ after.toList, Text.isBlank c = true) :
    (∀ d : Decimal, (d.magnitude = 0 → d.negative = false) →
      parse field (before ++ toString d ++ after) = .ok d) ∧
    ∀ (m : ℤ) (k : ℕ), m.natAbs < bound → k ≤ 28 →
      ∃ d : Decimal, d.coeff = m ∧ d.scale = k ∧
        parse field (before ++ (toString m ++ "e-" ++ toString k) ++ after) = .ok d ∧
        parse field (before ++ toString d ++ after) = .ok d ∧
        ∀ plain : String, Plain (Text.trim plain.toList) (m / 10 ^ k) →
          ∃ d', parse field plain = .ok d' ∧ d' ≈ d := by
  have hround : ∀ d : Decimal, (d.magnitude = 0 → d.negative = false) →
      parse field (before ++ toString d ++ after) = .ok d := by
    intro d hzero
    have hchars : (toString d).toList = d.toChars := String.toList_ofList
    have hdenotes : Denotes (toString d).toList ⟨d.value, 0⟩ := .plain (hchars ▸ d.plain_toChars)
    rw [parse_padded hdenotes hbefore hafter, hchars]
    exact ofNumeral?_toChars hzero
  refine ⟨hround, fun m k hm hk => ?_⟩
  obtain ⟨d, hd, hvalue⟩ := exists_ofCoeff? hm hk
  obtain ⟨hnegative, hmagnitude, hscale⟩ := ofCoeff?_eq_some_iff.mp hd
  refine ⟨d, coeff_of_ofCoeff? hd, hscale, ?_, hround d fun hzero => ?_, fun plain hplain => ?_⟩
  · have hchars : (toString m ++ "e-" ++ toString k).toList =
        (toString m).toList ++ 'e' :: '-' :: Nat.toDigits 10 k := by
      simp
    rw [parse_padded (hchars ▸ denotes_scientific m k) hbefore hafter, hchars,
      ofNumeral?_scientific hm hk, hd]
  · have hm0 : m = 0 := Int.natAbs_eq_zero.mp (hmagnitude ▸ hzero)
    simp [hnegative, hm0]
  · obtain ⟨d', hd', hvalue'⟩ := ofPlain?_exact hplain ⟨m, k, hm, hk, rfl⟩
    refine ⟨d', ?_, equiv_iff_value.mpr (by rw [hvalue', hvalue])⟩
    rw [parse_eq_ok_iff, ofNumeral?, hd']
    rfl

/-- The decimal with the most digits and the most places, below zero. -/
def widest : Decimal := ofCoeff (-(bound - 1 : ℕ)) 28

/-- Nothing is lost where there is no room left. -/
theorem parse_returns_decimal_widest :
    (∀ c ∈ " \t".toList, Text.isBlank c = true) ∧
      parse "p" (" \t" ++ toString widest ++ "\n") = .ok widest ∧
      ∃ d : Decimal, d.coeff = -(bound - 1 : ℕ) ∧ d.scale = 28 ∧
        parse "p" (" \t" ++ (toString (-(bound - 1 : ℕ) : ℤ) ++ "e-" ++ toString 28) ++ "\n") =
          .ok d := by
  have hfront : ∀ c ∈ " \t".toList, Text.isBlank c = true := by
    show ∀ c ∈ [' ', '\t'], Text.isBlank c = true
    exact List.forall_mem_cons.mpr
      ⟨by decide +kernel, List.forall_mem_singleton.mpr (by decide +kernel)⟩
  have hback : ∀ c ∈ "\n".toList, Text.isBlank c = true := by
    show ∀ c ∈ ['\n'], Text.isBlank c = true
    exact List.forall_mem_singleton.mpr (by decide +kernel)
  obtain ⟨hround, hscientific⟩ := parse_returns_decimal "p" " \t" "\n" hfront hback
  have hcoeff : (-(bound - 1 : ℕ) : ℤ).natAbs < bound := by
    rw [Int.natAbs_neg, Int.natAbs_natCast]
    decide
  obtain ⟨d, hd, hscale, hread, -⟩ := hscientific _ 28 hcoeff (Nat.le_refl 28)
  exact ⟨hfront, hround widest fun h => absurd h (by decide), d, hd, hscale, hread⟩

end BookSync.Decimal
