/-
Number literals of JSON.

A literal has a whole part without leading zeros, and may have a sign, a fraction and an
exponent. It is a number twice over: for a reader of JSON, who takes it apart, and for a
reader of decimals, who takes it for a numeral.

* `Literal`: the literals, by the grammar of JSON, and their text;
* `scan_unsigned`, `exists_literal_of_scan`: a literal is taken off the front of a text,
  all of it, and nothing but a literal is;
* `Literal.denotes`: its text is a numeral, with the number that its digits, its point
  and its exponent make.
-/
import BookSync.Json.Number
import BookSync.Proofs.Decimal.Digits
import BookSync.Proofs.Results

namespace BookSync.Json

open Decimal (digit? push IsMark Digits Row numberOf)

/-! ### The grammar -/

/-- One digit or more. -/
structure DigitRow (ds : List ℕ) : Prop where
  ne_nil : ds ≠ []
  lt : ∀ d ∈ ds, d < 10

/-- What stands between the letter of an exponent and its digits. -/
inductive ExponentSign
  | absent
  | plus
  | minus
  deriving DecidableEq

/-- The text of the sign. -/
def ExponentSign.chars : ExponentSign → List Char
  | absent => []
  | plus => ['+']
  | minus => ['-']

/-- An exponent. -/
structure Exponent where
  /-- The letter is a capital one. -/
  capital : Bool
  sign : ExponentSign
  digits : List ℕ
  row : DigitRow digits

/-- A number literal. -/
structure Literal where
  negative : Bool
  whole : List ℕ
  /-- The digits behind the point; no digits if there is no point. -/
  fraction : List ℕ
  exponent : Option Exponent
  row : DigitRow whole
  /-- A leading zero stands alone. -/
  leading : ∀ ds, whole = 0 :: ds → ds = []
  fraction_lt : ∀ d ∈ fraction, d < 10

/-- The text of digits. -/
def digitChars (ds : List ℕ) : List Char := ds.map Nat.digitChar

namespace Exponent

/-- The letter in front of an exponent. -/
def mark (e : Exponent) : Char := if e.capital then 'E' else 'e'

/-- The text of an exponent, behind its letter. -/
def body (e : Exponent) : List Char := e.sign.chars ++ digitChars e.digits

/-- The power of ten. -/
def power (e : Exponent) : ℤ :=
  if e.sign = .minus then -(e.digits.foldl push 0 : ℕ) else (e.digits.foldl push 0 : ℕ)

/-- An exponent taken apart. -/
def parts (e : Exponent) : Bool × List ℕ := (e.sign = .minus, e.digits)

end Exponent

namespace Literal

variable (l : Literal)

/-- The text of the fraction, with its point. -/
def fractionChars : List Char := if l.fraction = [] then [] else '.' :: digitChars l.fraction

/-- The text of the exponent, with its letter. -/
def exponentChars : List Char :=
  match l.exponent with
  | none => []
  | some e => e.mark :: e.body

/-- Whole digits and fraction. -/
def base : List Char := digitChars l.whole ++ l.fractionChars

/-- The text of a literal without its sign. -/
def unsigned : List Char := l.base ++ l.exponentChars

/-- The text of a literal. -/
def chars : List Char := (if l.negative then ['-'] else []) ++ l.unsigned

/-- The literal taken apart. -/
def parts : Numeral := ⟨l.negative, l.whole, l.fraction, l.exponent.map Exponent.parts⟩

/-- All its digits, as one number. -/
def significand : ℕ := (l.whole ++ l.fraction).foldl push 0

/-- Its exponent, zero if there is none. -/
def power : ℤ := (l.exponent.map Exponent.power).getD 0

/-- The number that a literal is written for. -/
def number : Decimal.Numeral where
  base := (if l.negative then -1 else 1) * l.significand / 10 ^ l.fraction.length
  power := l.power

end Literal

/-! ### Taking a literal off a text -/

/-- No digit stands in front. -/
def NoDigit (rest : List Char) : Prop := ∀ c, rest.head? = some c → digit? c = none

/-- Nothing stands in front that a literal could go on with. -/
def Ends (rest : List Char) : Prop :=
  ∀ c, rest.head? = some c → digit? c = none ∧ c ≠ '.' ∧ ¬ IsMark c

theorem Ends.noDigit {rest : List Char} (h : Ends rest) : NoDigit rest := fun c hc => (h c hc).1

theorem noDigit_cons {c : Char} {rest : List Char} (h : digit? c = none) : NoDigit (c :: rest) := by
  intro d hd
  obtain rfl := Option.some_inj.mp hd
  exact h

section

variable {ds : List ℕ} {rest : List Char}

theorem takeDigits_of_noDigit (h : NoDigit rest) : takeDigits rest = ([], rest) := by
  cases rest with
  | nil => rfl
  | cons c cs => rw [takeDigits, h c rfl]

theorem takeDigits_append (hds : ∀ d ∈ ds, d < 10) (h : NoDigit rest) :
    takeDigits (digitChars ds ++ rest) = (ds, rest) := by
  induction ds with
  | nil => exact takeDigits_of_noDigit h
  | cons d ds ih =>
    obtain ⟨hd, hds⟩ := List.forall_mem_cons.mp hds
    have hcons : digitChars (d :: ds) ++ rest = Nat.digitChar d :: (digitChars ds ++ rest) := rfl
    rw [hcons, takeDigits, Decimal.digit?_digitChar hd]
    dsimp only
    rw [ih hds]

theorem scanExponent_of_ends (h : Ends rest) : Numeral.scanExponent rest = .ok (none, rest) := by
  cases rest with
  | nil => rfl
  | cons c cs =>
    obtain ⟨-, -, hmark⟩ := h c rfl
    rw [Numeral.scanExponent.eq_def]
    exact if_neg hmark

/-- No sign stands in front. -/
def NoSign (rest : List Char) : Prop := ∀ c, rest.head? = some c → c ≠ '+' ∧ c ≠ '-'

theorem exists_sign (cs : List Char) :
    ∃ (sign : ExponentSign) (body : List Char), cs = sign.chars ++ body ∧
      (sign = .absent → NoSign body) := by
  cases cs with
  | nil => exact ⟨.absent, [], rfl, fun _ c hc => absurd hc (by simp)⟩
  | cons c cs =>
    by_cases hplus : c = '+'
    · subst hplus
      exact ⟨.plus, cs, rfl, fun h => absurd h (by decide)⟩
    by_cases hminus : c = '-'
    · subst hminus
      exact ⟨.minus, cs, rfl, fun h => absurd h (by decide)⟩
    refine ⟨.absent, c :: cs, rfl, fun _ d hd => ?_⟩
    obtain rfl := Option.some_inj.mp hd
    exact ⟨hplus, hminus⟩

/-- Behind its letter and its sign an exponent has a digit. -/
theorem scanExponent_mark {c : Char} {sign : ExponentSign} {body : List Char} (hmark : IsMark c)
    (hsign : sign = .absent → NoSign body) (h : takeDigits body = (ds, rest)) :
    Numeral.scanExponent (c :: (sign.chars ++ body)) =
      if ds = [] then .error (Numeral.brokenAt rest)
      else .ok (some (decide (sign = .minus), ds), rest) := by
  have hletter : c = 'e' ∨ c = 'E' := hmark
  cases sign with
  | absent =>
    have hfront := hsign rfl
    have htext : ExponentSign.absent.chars ++ body = body := rfl
    rw [htext, Numeral.scanExponent, if_pos hletter, h]
    · cases ds <;> rfl
    · rintro tail rfl
      exact (hfront '+' rfl).1 rfl
    · rintro tail rfl
      exact (hfront '-' rfl).2 rfl
  | plus =>
    have htext : ExponentSign.plus.chars ++ body = '+' :: body := rfl
    rw [htext, Numeral.scanExponent, if_pos hletter, h]
    cases ds <;> rfl
  | minus =>
    have htext : ExponentSign.minus.chars ++ body = '-' :: body := rfl
    rw [htext, Numeral.scanExponent, if_pos hletter, h]
    cases ds <;> rfl

theorem Exponent.isMark_mark (e : Exponent) : IsMark e.mark := by
  rw [Exponent.mark]
  cases e.capital
  · exact Or.inl rfl
  · exact Or.inr rfl

theorem scanExponent_append (e : Exponent) (h : NoDigit rest) :
    Numeral.scanExponent (e.mark :: e.body ++ rest) = .ok (some e.parts, rest) := by
  have htake := takeDigits_append e.row.lt h
  have htext : e.mark :: e.body ++ rest =
      e.mark :: (e.sign.chars ++ (digitChars e.digits ++ rest)) := by
    rw [Exponent.body, List.cons_append, List.append_assoc]
  have hfront : NoSign (digitChars e.digits ++ rest) := by
    obtain ⟨d, ds, hds⟩ := List.exists_cons_of_ne_nil e.row.ne_nil
    have hdigit : digit? (Nat.digitChar d) = some d :=
      Decimal.digit?_digitChar (e.row.lt d (hds ▸ List.mem_cons_self))
    intro c hc
    rw [hds] at hc
    obtain rfl := Option.some_inj.mp hc
    exact ⟨Decimal.ne_of_digit?_eq_some hdigit rfl, Decimal.ne_of_digit?_eq_some hdigit rfl⟩
  rw [htext, scanExponent_mark e.isMark_mark (fun _ => hfront) htake, if_neg e.row.ne_nil]
  rfl

theorem scanFraction_append (hds : ∀ d ∈ ds, d < 10) (h : NoDigit rest)
    (hpoint : ∀ tail, rest ≠ '.' :: tail) :
    Numeral.scanFraction ((if ds = [] then [] else '.' :: digitChars ds) ++ rest) =
      .ok (ds, rest) := by
  cases ds with
  | nil =>
    -- without digits there is no point either
    rw [if_pos rfl, List.nil_append, Numeral.scanFraction]
    exact hpoint
  | cons d ds =>
    rw [if_neg (List.cons_ne_nil d ds), List.cons_append, Numeral.scanFraction,
      takeDigits_append hds h]

theorem scanWhole_append (hds : DigitRow ds) (hleading : ∀ tail, ds = 0 :: tail → tail = [])
    (h : NoDigit rest) : Numeral.scanWhole (digitChars ds ++ rest) = .ok (ds, rest) := by
  rw [Numeral.scanWhole, takeDigits_append hds.lt h]
  split
  · rename_i hpair
    exact absurd (Prod.mk.inj hpair).1 hds.ne_nil
  · -- a zero with digits behind it
    rename_i hpair
    have htail := hleading _ (Prod.mk.inj hpair).1
    simp at htail
  · rename_i hpair
    obtain ⟨rfl, rfl⟩ := Prod.mk.inj hpair
    rfl

end

theorem digit?_mark (e : Exponent) : digit? e.mark = none ∧ e.mark ≠ '.' := by
  rw [Exponent.mark]
  cases e.capital
  · exact ⟨rfl, by decide⟩
  · exact ⟨rfl, by decide⟩

section

variable (l : Literal) {rest : List Char}

/-- An exponent, or what follows the literal, goes on with neither digits nor a point. -/
theorem noDigit_exponentChars (h : Ends rest) :
    NoDigit (l.exponentChars ++ rest) ∧ ∀ tail, l.exponentChars ++ rest ≠ '.' :: tail := by
  rw [Literal.exponentChars]
  cases l.exponent with
  | none =>
    refine ⟨h.noDigit, fun tail htail => ?_⟩
    rw [List.nil_append] at htail
    obtain ⟨-, hpoint, -⟩ := h '.' (by rw [htail]; rfl)
    exact hpoint rfl
  | some e =>
    obtain ⟨hdigit, hpoint⟩ := digit?_mark e
    exact ⟨noDigit_cons hdigit, fun tail htail => hpoint (List.cons.inj htail).1⟩

theorem noDigit_fractionChars (h : NoDigit rest) : NoDigit (l.fractionChars ++ rest) := by
  rw [Literal.fractionChars]
  split
  · exact h
  · exact noDigit_cons rfl

/-- **A literal is taken apart,** and nothing that follows it. -/
theorem scan_unsigned (h : Ends rest) :
    Numeral.scan l.negative (l.unsigned ++ rest) = .ok (l.parts, rest) := by
  obtain ⟨hdigit, hpoint⟩ := noDigit_exponentChars l h
  have hwhole := scanWhole_append l.row l.leading (noDigit_fractionChars l hdigit)
  have hfraction : Numeral.scanFraction (l.fractionChars ++ (l.exponentChars ++ rest)) =
      .ok (l.fraction, l.exponentChars ++ rest) :=
    scanFraction_append l.fraction_lt hdigit hpoint
  have hexponent : Numeral.scanExponent (l.exponentChars ++ rest) =
      .ok (l.exponent.map Exponent.parts, rest) := by
    rw [Literal.exponentChars]
    cases l.exponent with
    | none => exact scanExponent_of_ends h
    | some e => exact scanExponent_append e h.noDigit
  have htext : l.unsigned ++ rest =
      digitChars l.whole ++ (l.fractionChars ++ (l.exponentChars ++ rest)) := by
    simp [Literal.unsigned, Literal.base]
  rw [htext, Numeral.scan, hwhole, ok_bind]
  dsimp only
  rw [hfraction, ok_bind]
  dsimp only
  rw [hexponent]
  rfl

end

/-! ### Nothing but literals -/

theorem digitChar_of_digit? {c : Char} {d : ℕ} (h : digit? c = some d) : Nat.digitChar d = c := by
  have hsome : (digit? c).isSome = true := by rw [h]; rfl
  have hrange := Decimal.toNat_of_isSome hsome
  have hnat : c.toNat = d + 48 := by
    have hd := Option.some_inj.mp (h.symm.trans (Decimal.digit?_eq_of_isSome hsome))
    have hzero : '0'.toNat = 48 := rfl
    omega
  have hlt := Decimal.digit?_lt h
  refine Char.toNat_inj.mp ?_
  rw [Nat.toNat_digitChar_of_lt_ten hlt, hnat, Nat.add_comm]

section

variable {cs rest : List Char} {ds : List ℕ}

theorem takeDigits_eq (h : takeDigits cs = (ds, rest)) :
    cs = digitChars ds ++ rest ∧ ∀ d ∈ ds, d < 10 := by
  induction cs generalizing ds rest with
  | nil =>
    obtain ⟨rfl, rfl⟩ := Prod.mk.inj h
    exact ⟨rfl, by simp⟩
  | cons c cs ih =>
    rw [takeDigits] at h
    cases hc : digit? c with
    | none =>
      rw [hc] at h
      obtain ⟨rfl, rfl⟩ := Prod.mk.inj h
      exact ⟨rfl, by simp⟩
    | some d =>
      rw [hc] at h
      obtain ⟨rfl, rfl⟩ := Prod.mk.inj h
      obtain ⟨htext, hlt⟩ := ih rfl
      refine ⟨?_, List.forall_mem_cons.mpr ⟨Decimal.digit?_lt hc, hlt⟩⟩
      rw [digitChars, List.map_cons, digitChar_of_digit? hc, List.cons_append]
      exact congrArg _ htext

theorem exists_mark {c : Char} (h : IsMark c) :
    ∃ capital : Bool, (if capital then 'E' else 'e') = c := by
  rcases h with rfl | rfl
  · exact ⟨false, rfl⟩
  · exact ⟨true, rfl⟩

theorem scanExponent_eq {parts : Option (Bool × List ℕ)}
    (h : Numeral.scanExponent cs = .ok (parts, rest)) :
    ∃ e : Option Exponent, e.map Exponent.parts = parts ∧
      cs = e.elim [] (fun e => e.mark :: e.body) ++ rest := by
  have hnone : Numeral.scanExponent cs = .ok (none, cs) →
      ∃ e : Option Exponent, e.map Exponent.parts = parts ∧
        cs = e.elim [] (fun e => e.mark :: e.body) ++ rest := by
    intro hscan
    obtain ⟨rfl, rfl⟩ := Prod.mk.inj (Except.ok.inj (hscan.symm.trans h))
    exact ⟨none, rfl, rfl⟩
  -- only behind a letter there can be an exponent, and then there has to be one
  cases cs with
  | nil => exact hnone rfl
  | cons c cs =>
    by_cases hmark : IsMark c
    · obtain ⟨sign, body, rfl, hsign⟩ := exists_sign cs
      cases htake : takeDigits body with
      | mk ds tail =>
        rw [scanExponent_mark hmark hsign htake] at h
        split at h
        · simp at h
        · rename_i hds
          obtain ⟨rfl, rfl⟩ := Prod.mk.inj (Except.ok.inj h)
          obtain ⟨rfl, hlt⟩ := takeDigits_eq htake
          obtain ⟨capital, hcapital⟩ := exists_mark hmark
          refine ⟨some ⟨capital, sign, ds, hds, hlt⟩, rfl, ?_⟩
          simp [Exponent.mark, hcapital, Exponent.body]
    · refine hnone ?_
      rw [Numeral.scanExponent.eq_def]
      exact if_neg hmark

theorem scanFraction_eq (h : Numeral.scanFraction cs = .ok (ds, rest)) :
    cs = (if ds = [] then [] else '.' :: digitChars ds) ++ rest ∧ ∀ d ∈ ds, d < 10 := by
  rw [Numeral.scanFraction.eq_def] at h
  split at h
  · rename_i tail
    cases htake : takeDigits tail with
    | mk ds' rest' =>
      rw [htake] at h
      obtain ⟨rfl, hlt⟩ := takeDigits_eq htake
      cases ds' with
      | nil => simp at h
      | cons d ds' =>
        obtain ⟨rfl, rfl⟩ := Prod.mk.inj (Except.ok.inj h)
        exact ⟨rfl, hlt⟩
  · obtain ⟨rfl, rfl⟩ := Prod.mk.inj (Except.ok.inj h)
    exact ⟨rfl, by simp⟩

theorem scanWhole_eq (h : Numeral.scanWhole cs = .ok (ds, rest)) :
    cs = digitChars ds ++ rest ∧ DigitRow ds ∧ ∀ tail, ds = 0 :: tail → tail = [] := by
  rw [Numeral.scanWhole] at h
  split at h
  · simp at h
  · simp at h
  · rename_i hnil hzero htake
    obtain ⟨rfl, rfl⟩ := Prod.mk.inj (Except.ok.inj h)
    obtain ⟨htext, hlt⟩ := takeDigits_eq htake
    refine ⟨htext, ⟨hnil, hlt⟩, fun tail hds => ?_⟩
    cases tail with
    | nil => rfl
    | cons d tail => exact (hzero d tail hds).elim

/-- **Nothing but literals is taken for a number.** -/
theorem exists_literal_of_scan {negative : Bool} {n : Numeral}
    (h : Numeral.scan negative cs = .ok (n, rest)) :
    ∃ l : Literal, l.negative = negative ∧ cs = l.unsigned ++ rest ∧ l.parts = n := by
  rw [Numeral.scan] at h
  obtain ⟨⟨whole, cs'⟩, hwhole, h⟩ := bind_eq_ok h
  obtain ⟨⟨fraction, cs''⟩, hfraction, h⟩ := bind_eq_ok h
  obtain ⟨⟨parts, tail⟩, hexponent, h⟩ := bind_eq_ok h
  obtain ⟨rfl, rfl⟩ := Prod.mk.inj (Except.ok.inj h)
  obtain ⟨rfl, hrow, hleading⟩ := scanWhole_eq hwhole
  obtain ⟨rfl, hlt⟩ := scanFraction_eq hfraction
  obtain ⟨e, rfl, rfl⟩ := scanExponent_eq hexponent
  refine ⟨⟨negative, whole, fraction, e, hrow, hleading, hlt⟩, rfl, ?_, rfl⟩
  cases e <;> simp [Literal.unsigned, Literal.base, Literal.fractionChars, Literal.exponentChars]

end

/-! ### The numeral -/

section

variable {ds : List ℕ}

theorem isSome_of_mem_digitChars (h : ∀ d ∈ ds, d < 10) :
    ∀ c ∈ digitChars ds, (digit? c).isSome := by
  intro c hc
  obtain ⟨d, hd, rfl⟩ := List.mem_map.mp hc
  rw [Decimal.digit?_digitChar (h d hd)]
  rfl

theorem digits_digitChars (h : DigitRow ds) : Digits (digitChars ds) :=
  ⟨fun hnil => h.ne_nil (List.map_eq_nil_iff.mp hnil), isSome_of_mem_digitChars h.lt⟩

theorem numberOf_digitChars (h : ∀ d ∈ ds, d < 10) :
    numberOf (digitChars ds) = ds.foldl push 0 := by
  rw [numberOf, digitChars, Decimal.digitsOf_map_digitChar h, Decimal.foldl_push_zero]

end

theorem Exponent.power_body (e : Exponent) : Decimal.Power e.body e.power := by
  have hcount := Decimal.Count.unsigned (digits_digitChars e.row)
  have hcount' := Decimal.Count.plus (digits_digitChars e.row)
  rw [numberOf_digitChars e.row.lt] at hcount hcount'
  rw [Exponent.body, Exponent.power]
  cases e.sign with
  | absent => exact .up hcount
  | plus => exact .up hcount'
  | minus => exact .down hcount

namespace Literal

variable (l : Literal)

/-- The digits of a literal, with its point among them. -/
theorem row_base : Row l.base l.significand l.fraction.length := by
  have hwhole := digits_digitChars l.row
  rw [base, fractionChars, significand]
  by_cases hfraction : l.fraction = []
  · have hrow := Row.whole hwhole
    rw [numberOf_digitChars l.row.lt] at hrow
    rw [if_pos hfraction, hfraction, List.append_nil, List.append_nil]
    exact hrow
  · have hall : ∀ d ∈ l.whole ++ l.fraction, d < 10 :=
      List.forall_mem_append.mpr ⟨l.row.lt, l.fraction_lt⟩
    have hrow := Row.pointed hwhole (isSome_of_mem_digitChars l.fraction_lt)
    have hjoin : digitChars l.whole ++ digitChars l.fraction = digitChars (l.whole ++ l.fraction) :=
      List.map_append.symm
    have hlength : (digitChars l.fraction).length = l.fraction.length := List.length_map _
    rw [hjoin, numberOf_digitChars hall, hlength] at hrow
    rw [if_neg hfraction]
    exact hrow

theorem plain_base :
    Decimal.Plain ((if l.negative then ['-'] else []) ++ l.base) l.number.base := by
  have hrow := l.row_base
  have hbase : l.number.base =
      if l.negative then -Decimal.magnitudeOf l.base else Decimal.magnitudeOf l.base := by
    rw [hrow.magnitudeOf_eq, number]
    cases l.negative <;> simp [neg_div]
  rw [hbase]
  cases l.negative with
  | true => exact .minus hrow.unsigned
  | false => exact .unsigned hrow.unsigned

/-- **The text of a literal is a numeral,** with the number of the literal. -/
theorem denotes : Decimal.Denotes l.chars l.number := by
  have hplain := l.plain_base
  have htext : l.chars = ((if l.negative then ['-'] else []) ++ l.base) ++ l.exponentChars := by
    rw [chars, unsigned, List.append_assoc]
  have hnumber : l.number = ⟨l.number.base, l.power⟩ := rfl
  rw [htext, hnumber, exponentChars, power]
  cases l.exponent with
  | none =>
    rw [List.append_nil]
    exact .plain hplain
  | some e =>
    exact .scaled hplain e.isMark_mark e.power_body

/-- Besides digits, a literal has only these characters. -/
theorem mem_chars {c : Char} (h : c ∈ l.chars) :
    (digit? c).isSome ∨ c ∈ ['-', '+', '.', 'e', 'E'] := by
  rw [chars, unsigned, List.mem_append, List.mem_append] at h
  rcases h with hsign | hbase | hexponent
  · cases hneg : l.negative with
    | true =>
      rw [hneg] at hsign
      obtain rfl := List.mem_singleton.mp hsign
      exact Or.inr (by decide)
    | false => simp [hneg] at hsign
  · rcases l.row_base.chars c hbase with hdigit | rfl
    · exact Or.inl hdigit
    · exact Or.inr (by decide)
  · rw [exponentChars] at hexponent
    cases he : l.exponent with
    | none => simp [he] at hexponent
    | some e =>
      rw [he] at hexponent
      rcases List.mem_cons.mp hexponent with rfl | hbody
      · rw [Exponent.mark]
        cases e.capital <;> exact Or.inr (by decide)
      · rcases List.mem_append.mp hbody with hsign | hdigits
        · cases hs : e.sign <;> simp_all [ExponentSign.chars]
        · exact Or.inl (isSome_of_mem_digitChars e.row.lt c hdigits)

theorem not_underscore : '_' ∉ l.chars := by
  intro hmem
  rcases l.mem_chars hmem with hdigit | hother
  · exact absurd hdigit (by decide)
  · exact absurd hother (by decide)

end Literal

end BookSync.Json
