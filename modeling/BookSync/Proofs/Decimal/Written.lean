/-
Numerals, and the numbers that they denote.

What a numeral looks like and which number it stands for is told here without a
word on how it is read: a digit counts by its place, an underscore not at all, and the
point and the power of ten move the places.

* `Unsigned`, `Plain`, `Denotes`: the grammar, each form with its number;
* `scan_isSome_iff`, `scan_eq_some`: the scan accepts the unsigned numerals and
  finds all their digits, those behind the point apart from the others;
* `count?_eq_some_iff`: a power is read as the number that it denotes;
* `Denotes.reading`, `exists_denotes`: a numeral is read by its form, and nothing else
  is accepted.

Whether a number that is read is the one that is denoted is not settled here: digits
may have been rounded away.
-/
import BookSync.Decimal.Numeral
import Mathlib.Algebra.Order.Field.Basic
import Mathlib.Data.List.TakeDrop
import Mathlib.Data.Nat.Digits.Defs
import Mathlib.Data.Rat.Cast.Order

namespace BookSync.Decimal

/-! ### Numerals -/

/-- The digits of a text, in order. -/
def digitsOf (cs : List Char) : List ℕ := cs.filterMap digit?

/-- The number that the digits of a text make. -/
def numberOf (cs : List Char) : ℕ := Nat.ofDigits 10 (digitsOf cs).reverse

/-- Digits with at most one point. An underscore may stand anywhere behind the
first digit. -/
structure Unsigned (cs : List Char) : Prop where
  chars : ∀ c ∈ cs, (digit? c).isSome ∨ c = '.' ∨ c = '_'
  point : cs.count '.' ≤ 1
  digit : digitsOf cs ≠ []
  underscore : '_' ∉ cs.takeWhile fun c => (digit? c).isNone

/-- The number of an unsigned numeral: that of all its digits, divided by ten for each
digit behind the point. -/
def magnitudeOf (cs : List Char) : ℚ :=
  numberOf cs / 10 ^ (digitsOf (cs.dropWhile (· ≠ '.'))).length

/-- A numeral without a power of ten, and its number. -/
inductive Plain : List Char → ℚ → Prop
  | unsigned {cs : List Char} (h : Unsigned cs) : Plain cs (magnitudeOf cs)
  | plus {cs : List Char} (h : Unsigned cs) : Plain ('+' :: cs) (magnitudeOf cs)
  | minus {cs : List Char} (h : Unsigned cs) : Plain ('-' :: cs) (-magnitudeOf cs)

/-- Digits and nothing else. -/
structure Digits (cs : List Char) : Prop where
  ne_nil : cs ≠ []
  chars : ∀ c ∈ cs, (digit? c).isSome

/-- A count, and its number. -/
inductive Count : List Char → ℕ → Prop
  | unsigned {cs : List Char} (h : Digits cs) : Count cs (numberOf cs)
  | plus {cs : List Char} (h : Digits cs) : Count ('+' :: cs) (numberOf cs)

/-- The power of ten of a numeral. -/
inductive Power : List Char → ℤ → Prop
  | up {cs : List Char} {k : ℕ} (h : Count cs k) : Power cs k
  | down {cs : List Char} {k : ℕ} (h : Count cs k) : Power ('-' :: cs) (-k)

/-- The character stands in front of a power of ten. -/
def IsMark (c : Char) : Prop := c = 'e' ∨ c = 'E'

/-- A number as it is written, with a power of ten. -/
structure Numeral where
  base : ℚ
  power : ℤ

/-- The number itself. -/
def Numeral.value (n : Numeral) : ℚ := n.base * 10 ^ n.power

/-- A text is a numeral, in one of the two forms. -/
inductive Denotes : List Char → Numeral → Prop
  | plain {cs : List Char} {x : ℚ} (h : Plain cs x) : Denotes cs ⟨x, 0⟩
  | scaled {base power : List Char} {mark : Char} {x : ℚ} {k : ℤ} (hbase : Plain base x)
      (hmark : IsMark mark) (hpower : Power power k) :
      Denotes (base ++ mark :: power) ⟨x, k⟩

/-! ### Digits -/

theorem digit?_lt {c : Char} {d : ℕ} (h : digit? c = some d) : d < 10 := by
  rw [digit?] at h
  split at h
  · rename_i hc
    obtain rfl := Option.some_inj.mp h
    have hle : c.toNat ≤ '9'.toNat := hc.2
    have h9 : '9'.toNat = 57 := rfl
    have h0 : '0'.toNat = 48 := rfl
    omega
  · exact absurd h (by simp)

theorem ne_of_digit?_eq_some {c other : Char} {d : ℕ} (h : digit? c = some d)
    (hother : digit? other = none) : c ≠ other := by
  rintro rfl
  exact absurd (h.symm.trans hother) (by simp)

theorem digitsOf_cons (c : Char) (cs : List Char) :
    digitsOf (c :: cs) = (digit? c).toList ++ digitsOf cs := by
  rw [digitsOf, List.filterMap_cons]
  cases digit? c <;> rfl

theorem lt_of_mem_digitsOf {cs : List Char} {d : ℕ} (h : d ∈ digitsOf cs) : d < 10 := by
  obtain ⟨c, -, hc⟩ := List.mem_filterMap.mp h
  exact digit?_lt hc

/-- Digits one behind the other, each behind all that are in front. -/
theorem foldl_push (n : ℕ) (ds : List ℕ) :
    ds.foldl push n = n * 10 ^ ds.length + Nat.ofDigits 10 ds.reverse := by
  induction ds generalizing n with
  | nil => simp
  | cons d ds ih =>
    rw [List.foldl_cons, ih, push, Nat.ofDigits_reverse_cons, List.length_cons]
    ring

theorem foldl_push_zero (ds : List ℕ) : ds.foldl push 0 = Nat.ofDigits 10 ds.reverse := by
  rw [foldl_push, Nat.zero_mul, Nat.zero_add]

/-! ### Scanning -/

/-- What is left to be read can be read in this state. -/
structure Readable (p : Progress) (cs : List Char) : Prop where
  chars : ∀ c ∈ cs, (digit? c).isSome ∨ c = '.' ∨ c = '_'
  point : cs.count '.' ≤ if p.pointed then 0 else 1
  digit : p.started = true ∨ digitsOf cs ≠ []
  underscore : p.started = true ∨ '_' ∉ cs.takeWhile fun c => (digit? c).isNone

theorem readable_start_iff {cs : List Char} :
    Readable ⟨false, false, false⟩ cs ↔ Unsigned cs :=
  ⟨fun ⟨hc, hp, hd, hu⟩ => ⟨hc, hp, hd.resolve_left (by simp), hu.resolve_left (by simp)⟩,
    fun ⟨hc, hp, hd, hu⟩ => ⟨hc, hp, Or.inr hd, Or.inr hu⟩⟩

theorem readable_nil_iff {p : Progress} : Readable p [] ↔ p.started = true :=
  ⟨fun h => h.digit.resolve_right (by simp [digitsOf]),
    fun h => ⟨by simp, by simp, Or.inl h, Or.inl h⟩⟩

theorem readable_digit_cons_iff {p : Progress} {c : Char} {cs : List Char} {d : ℕ}
    (hd : digit? c = some d) :
    Readable p (c :: cs) ↔ Readable ⟨true, p.pointed, false⟩ cs := by
  have hpoint : c ≠ '.' := ne_of_digit?_eq_some hd rfl
  have hdigits : digitsOf (c :: cs) ≠ [] := by simp [digitsOf_cons, hd]
  constructor
  · rintro ⟨hchars, hcount, -, -⟩
    rw [List.count_cons_of_ne hpoint] at hcount
    exact ⟨fun x hx => hchars x (List.mem_cons_of_mem c hx), hcount, Or.inl rfl, Or.inl rfl⟩
  · rintro ⟨hchars, hcount, -, -⟩
    refine ⟨List.forall_mem_cons.mpr ⟨Or.inl (by simp [hd]), hchars⟩, ?_, Or.inr hdigits, Or.inr ?_⟩
    · rw [List.count_cons_of_ne hpoint]
      exact hcount
    · simp [hd]

theorem readable_point_cons_iff {p : Progress} {cs : List Char} (hp : p.pointed = false) :
    Readable p ('.' :: cs) ↔ Readable ⟨p.started, true, false⟩ cs := by
  have hnone : digit? '.' = none := by decide
  have hdigits : digitsOf ('.' :: cs) = digitsOf cs := by rw [digitsOf_cons, hnone]; rfl
  have hfront : '_' ∉ ('.' :: cs).takeWhile (fun c => (digit? c).isNone) ↔
      '_' ∉ cs.takeWhile fun c => (digit? c).isNone := by simp [hnone]
  constructor
  · rintro ⟨hchars, hcount, hdigit, hunderscore⟩
    rw [List.count_cons_self, hp] at hcount
    refine ⟨fun x hx => hchars x (List.mem_cons_of_mem _ hx), ?_, hdigits ▸ hdigit,
      hunderscore.imp_right hfront.mp⟩
    exact Nat.le_of_succ_le_succ hcount
  · rintro ⟨hchars, hcount, hdigit, hunderscore⟩
    refine ⟨List.forall_mem_cons.mpr ⟨Or.inr (Or.inl rfl), hchars⟩, ?_, hdigits.symm ▸ hdigit,
      hunderscore.imp_right hfront.mpr⟩
    rw [List.count_cons_self, hp]
    exact Nat.succ_le_succ hcount

theorem readable_underscore_cons_iff {p : Progress} {cs : List Char} (hs : p.started = true) :
    Readable p ('_' :: cs) ↔ Readable ⟨true, p.pointed, true⟩ cs := by
  have hpoint : '_' ≠ '.' := by decide
  constructor
  · rintro ⟨hchars, hcount, -, -⟩
    rw [List.count_cons_of_ne hpoint] at hcount
    exact ⟨fun x hx => hchars x (List.mem_cons_of_mem _ hx), hcount, Or.inl rfl, Or.inl rfl⟩
  · rintro ⟨hchars, hcount, -, -⟩
    refine ⟨List.forall_mem_cons.mpr ⟨Or.inr (Or.inr rfl), hchars⟩, ?_, Or.inl hs, Or.inl hs⟩
    rw [List.count_cons_of_ne hpoint]
    exact hcount

/-- No other character can be read: a second point, or an underscore in front of
all digits. -/
theorem not_readable_cons {p : Progress} {c : Char} {cs : List Char} (hd : digit? c = none)
    (hpoint : ¬ (c = '.' ∧ p.pointed = false)) (hunderscore : ¬ (c = '_' ∧ p.started = true)) :
    ¬ Readable p (c :: cs) := by
  rintro ⟨hchars, hcount, -, hfront⟩
  rcases hchars c List.mem_cons_self with h | rfl | rfl
  · simp [hd] at h
  · have hp : p.pointed = true := by simpa using hpoint
    rw [hp, List.count_cons_self] at hcount
    exact absurd hcount (by simp)
  · rcases hfront with hs | hfront
    · exact hunderscore ⟨rfl, hs⟩
    · exact hfront (by simp [hd])

/-- **What the scan accepts.** -/
theorem scan_isSome_iff (p : Progress) (cs : List Char) :
    (scan p cs).isSome = true ↔ Readable p cs := by
  induction cs generalizing p with
  | nil =>
    rw [readable_nil_iff, scan]
    cases p.started <;> simp
  | cons c cs ih =>
    rw [scan]
    cases hd : digit? c with
    | some d => rw [readable_digit_cons_iff hd, ← ih, Option.isSome_map]
    | none =>
      dsimp only
      by_cases hpoint : c = '.' ∧ p.pointed = false
      · obtain ⟨rfl, hp⟩ := hpoint
        rw [readable_point_cons_iff hp, ← ih, if_pos ⟨rfl, by simp [hp]⟩]
      · rw [if_neg (by simpa using hpoint)]
        by_cases hunderscore : c = '_' ∧ p.started = true
        · obtain ⟨rfl, hs⟩ := hunderscore
          rw [readable_underscore_cons_iff hs, ← ih, if_pos ⟨rfl, hs⟩]
        · rw [if_neg hunderscore]
          have hnot : ¬ Readable p (c :: cs) := not_readable_cons hd hpoint hunderscore
          simp [hnot]

theorem scan_start_isSome_iff (cs : List Char) :
    (scan ⟨false, false, false⟩ cs).isSome = true ↔ Unsigned cs :=
  (scan_isSome_iff _ _).trans readable_start_iff

instance (cs : List Char) : Decidable (Unsigned cs) :=
  decidable_of_iff _ (scan_start_isSome_iff cs)

/-- Underscores may stand anywhere behind the first digit, also at the point. -/
example : Unsigned ['1', '_', '.', '_', '5', '_'] ∧ ¬ Unsigned ['.', '_', '5'] := by decide

/-- **What the scan finds.** All digits in order, the last ones being those
behind the point. -/
theorem scan_eq_some {p : Progress} {cs : List Char} {whole : List ℕ} {fraction : List Place}
    (h : scan p cs = some (whole, fraction)) :
    whole ++ fraction.map (·.digit) = digitsOf cs ∧
      fraction.map (·.digit) =
        digitsOf (if p.pointed then cs else cs.dropWhile (· ≠ '.')) := by
  induction cs generalizing p whole fraction with
  | nil =>
    rw [scan] at h
    split at h
    · obtain ⟨rfl, rfl⟩ := Prod.mk.inj (Option.some_inj.mp h)
      simp [digitsOf]
    · exact absurd h (by simp)
  | cons c cs ih =>
    rw [scan] at h
    cases hd : digit? c with
    | some d =>
      have hpoint : c ≠ '.' := ne_of_digit?_eq_some hd rfl
      rw [hd] at h
      obtain ⟨⟨whole', fraction'⟩, hscan, hpair⟩ := Option.map_eq_some_iff.mp h
      obtain ⟨hall, hlast⟩ := ih hscan
      dsimp only at hpair hlast
      cases hp : p.pointed with
      | true =>
        rw [hp, if_pos rfl] at hpair hlast
        obtain ⟨rfl, rfl⟩ := Prod.mk.inj hpair
        -- behind the point there is nothing else
        have hwhole : whole' = [] := by
          rw [hlast] at hall
          exact List.append_left_eq_self.mp hall
        rw [hwhole, if_pos rfl, digitsOf_cons, hd, List.map_cons, hlast]
        exact ⟨rfl, rfl⟩
      | false =>
        rw [hp] at hpair hlast
        obtain ⟨rfl, rfl⟩ := Prod.mk.inj hpair
        rw [digitsOf_cons, hd, ← hall]
        simp [hlast, hpoint]
    | none =>
      have hdigits : digitsOf (c :: cs) = digitsOf cs := by rw [digitsOf_cons, hd]; rfl
      rw [hd] at h
      dsimp only at h
      split at h
      · rename_i hpoint
        obtain ⟨rfl, hp⟩ := hpoint
        obtain ⟨hall, hlast⟩ := ih h
        have hp : p.pointed = false := by simpa using hp
        rw [hdigits, hall, hlast, hp]
        simp [hdigits]
      · split at h
        · rename_i hpoint hunderscore
          obtain ⟨rfl, -⟩ := hunderscore
          obtain ⟨hall, hlast⟩ := ih h
          rw [hdigits, hall, hlast]
          cases p.pointed <;> simp [hdigits]
        · exact absurd h (by simp)

/-! ### The two forms -/

/-- No other characters stand in a plain numeral. -/
theorem Plain.chars {cs : List Char} {x : ℚ} (h : Plain cs x) :
    ∀ c ∈ cs, (digit? c).isSome ∨ c = '.' ∨ c = '_' ∨ c = '+' ∨ c = '-' := by
  have hbody : ∀ body, Unsigned body →
      ∀ c ∈ body, (digit? c).isSome ∨ c = '.' ∨ c = '_' ∨ c = '+' ∨ c = '-' := by
    intro body hbody c hc
    have hchar := hbody.chars c hc
    tauto
  cases h with
  | unsigned hu => exact hbody cs hu
  | plus hu => exact List.forall_mem_cons.mpr ⟨by simp, hbody _ hu⟩
  | minus hu => exact List.forall_mem_cons.mpr ⟨by simp, hbody _ hu⟩

theorem Plain.not_isMark {cs : List Char} {x : ℚ} (h : Plain cs x) : ∀ c ∈ cs, ¬ IsMark c := by
  rintro c hc (rfl | rfl)
  · exact absurd (h.chars _ hc) (by decide)
  · exact absurd (h.chars _ hc) (by decide)

theorem splitSign_of_unsigned {cs : List Char} (h : Unsigned cs) : splitSign cs = (false, cs) := by
  cases cs with
  | nil => rfl
  | cons c cs =>
    have hchar := h.chars c List.mem_cons_self
    have hminus : c ≠ '-' := by
      rintro rfl
      exact absurd hchar (by decide)
    have hplus : c ≠ '+' := by
      rintro rfl
      exact absurd hchar (by decide)
    rw [splitSign]
    · simpa using hminus
    · simpa using hplus

theorem plain_iff {cs : List Char} {x : ℚ} :
    Plain cs x ↔ Unsigned (splitSign cs).2 ∧
      (if (splitSign cs).1 then -magnitudeOf (splitSign cs).2
        else magnitudeOf (splitSign cs).2) = x := by
  constructor
  · intro h
    cases h with
    | unsigned hu =>
      rw [splitSign_of_unsigned hu]
      exact ⟨hu, rfl⟩
    | plus hu => exact ⟨hu, rfl⟩
    | minus hu => exact ⟨hu, rfl⟩
  · rintro ⟨hu, rfl⟩
    revert hu
    rw [splitSign.eq_def]
    split
    · exact .minus
    · exact .plus
    · exact .unsigned

theorem mapM_digit?_eq_some_iff {cs : List Char} {ds : List ℕ} :
    cs.mapM digit? = some ds ↔ (∀ c ∈ cs, (digit? c).isSome) ∧ digitsOf cs = ds := by
  induction cs generalizing ds with
  | nil => simp [digitsOf]
  | cons c cs ih =>
    rw [List.mapM_cons, List.forall_mem_cons, digitsOf_cons]
    cases hd : digit? c with
    | none => simp
    | some d =>
      simp only [Option.pure_def, Option.bind_eq_bind, Option.bind_some, Option.isSome_some,
        Option.toList_some, true_and, Option.bind_eq_some_iff, Option.some.injEq, ih]
      constructor
      · rintro ⟨rest, ⟨hall, rfl⟩, rfl⟩
        exact ⟨hall, rfl⟩
      · rintro ⟨hall, rfl⟩
        exact ⟨_, ⟨hall, rfl⟩, rfl⟩

theorem ofDigits_eq_some_iff {cs : List Char} {k : ℕ} :
    (if cs.isEmpty then none else (cs.mapM digit?).map fun ds => ds.foldl push 0) = some k ↔
      Digits cs ∧ numberOf cs = k := by
  cases cs with
  | nil => simpa using fun h : Digits [] => absurd rfl h.ne_nil
  | cons c cs =>
    rw [List.isEmpty_cons, if_neg Bool.false_ne_true, Option.map_eq_some_iff]
    constructor
    · rintro ⟨ds, hds, rfl⟩
      obtain ⟨hchars, rfl⟩ := mapM_digit?_eq_some_iff.mp hds
      exact ⟨⟨by simp, hchars⟩, (foldl_push_zero _).symm⟩
    · rintro ⟨⟨-, hchars⟩, rfl⟩
      exact ⟨_, mapM_digit?_eq_some_iff.mpr ⟨hchars, rfl⟩, foldl_push_zero _⟩

/-- A count is read if it is one, as the number that it denotes. -/
theorem count?_eq_some_iff {cs : List Char} {k : ℕ} : count? cs = some k ↔ Count cs k := by
  rw [count?.eq_def]
  dsimp only
  rw [ofDigits_eq_some_iff]
  constructor
  · rintro ⟨hdigits, rfl⟩
    revert hdigits
    split
    · exact .plus
    · exact .unsigned
  · intro h
    cases h with
    | plus h => exact ⟨h, rfl⟩
    | unsigned h =>
      split
      · exact absurd (h.chars '+' List.mem_cons_self) (by decide)
      · exact ⟨h, rfl⟩

theorem Count.ne_nil {cs : List Char} {k : ℕ} (h : Count cs k) : cs ≠ [] := by
  cases h with
  | unsigned h => exact h.ne_nil
  | plus h => simp

/-- A count does not begin with a minus. -/
theorem Count.ne_minus {cs rest : List Char} {k : ℕ} (h : Count cs k) : cs ≠ '-' :: rest := by
  rintro rfl
  cases h with
  | unsigned h => exact absurd (h.chars '-' List.mem_cons_self) (by decide)

/-! ### Reading -/

/-- How a numeral is read, by its form. -/
inductive Reading : Numeral → Option Decimal → Prop
  | plain {cs : List Char} {x : ℚ} (h : Plain cs x) : Reading ⟨x, 0⟩ (ofPlain? cs)
  | up {cs : List Char} {x : ℚ} (k : ℕ) (h : Plain cs x) :
      Reading ⟨x, k⟩ ((ofPlain? cs).bind fun d => d.scaleUp? k)
  | down {cs : List Char} {x : ℚ} (k : ℕ) (h : Plain cs x) :
      Reading ⟨x, -k⟩ ((ofPlain? cs).bind fun d => d.scaleDown? k)

theorem ofPlain?_eq_none {cs : List Char} (h : ∀ x, ¬ Plain cs x) : ofPlain? cs = none := by
  have hscan : ¬ (scan ⟨false, false, false⟩ (splitSign cs).2).isSome = true := by
    rw [scan_start_isSome_iff]
    exact fun hu => h _ (plain_iff.mpr ⟨hu, rfl⟩)
  rw [ofPlain?]
  dsimp only
  rw [Option.not_isSome_iff_eq_none.mp hscan]
  rfl

theorem exists_plain {cs : List Char} {d : Decimal} (h : ofPlain? cs = some d) :
    ∃ x, Plain cs x := by
  by_contra hno
  rw [ofPlain?_eq_none fun x hx => hno ⟨x, hx⟩] at h
  exact absurd h (by simp)

/-- A numeral is cut in front of its mark. -/
theorem span_append {base : List Char} {mark : Char} (h : ∀ c ∈ base, ¬ IsMark c)
    (hmark : IsMark mark) (power : List Char) :
    (base ++ mark :: power).span (fun c => c ≠ 'e' ∧ c ≠ 'E') = (base, mark :: power) := by
  have hbase : ∀ c ∈ base, decide (c ≠ 'e' ∧ c ≠ 'E') = true := by
    intro c hc
    rw [decide_eq_true_iff, ← not_or]
    exact h c hc
  have hcut : ¬ (mark ≠ 'e' ∧ mark ≠ 'E') := by
    rw [← not_or, not_not]
    exact hmark
  rw [List.span_eq_takeWhile_dropWhile, List.takeWhile_append_of_pos hbase,
    List.dropWhile_append_of_pos hbase]
  simp [hcut]

theorem ofScaled?_eq_none {cs : List Char} (h : ∀ c ∈ cs, ¬ IsMark c) : ofScaled? cs = none := by
  have hall : ∀ c ∈ cs, decide (c ≠ 'e' ∧ c ≠ 'E') = true := by
    intro c hc
    rw [decide_eq_true_iff, ← not_or]
    exact h c hc
  have hrest : (cs ++ []).dropWhile (fun c => c ≠ 'e' ∧ c ≠ 'E') = [] :=
    List.dropWhile_append_of_pos hall
  rw [List.append_nil] at hrest
  rw [ofScaled?, List.span_eq_takeWhile_dropWhile, hrest]

section

variable {base power : List Char} {mark : Char} {k : ℕ}

theorem ofScaled?_up (h : ∀ c ∈ base, ¬ IsMark c) (hmark : IsMark mark) (hcount : Count power k) :
    ofScaled? (base ++ mark :: power) = (ofPlain? base).bind fun d => d.scaleUp? k := by
  rw [ofScaled?, span_append h hmark]
  refine congrArg (ofPlain? base).bind (funext fun d => ?_)
  have hread : (count? power).bind d.scaleUp? = d.scaleUp? k := by
    rw [count?_eq_some_iff.mpr hcount, Option.bind_some]
  split
  · rename_i hcount _
    exact absurd rfl hcount.ne_minus
  · exact hread

theorem ofScaled?_down (h : ∀ c ∈ base, ¬ IsMark c) (hmark : IsMark mark)
    (hcount : Count power k) :
    ofScaled? (base ++ mark :: '-' :: power) =
      (ofPlain? base).bind fun d => d.scaleDown? k := by
  rw [ofScaled?, span_append h hmark]
  show ((ofPlain? base).bind fun d => (count? power).bind d.scaleDown?) = _
  rw [count?_eq_some_iff.mpr hcount]
  rfl

end

/-- A mark keeps a numeral from being taken for a plain one. -/
theorem ofNumeral?_scaled {base power : List Char} {mark : Char} (hmark : IsMark mark) :
    ofNumeral? (base ++ mark :: power) = ofScaled? (base ++ mark :: power) := by
  have hplain : ofPlain? (base ++ mark :: power) = none :=
    ofPlain?_eq_none fun x hx =>
      hx.not_isMark mark (List.mem_append_right base List.mem_cons_self) hmark
  rw [ofNumeral?, hplain, Option.none_or]

/-- **A numeral is read by its form.** -/
theorem Denotes.reading {cs : List Char} {n : Numeral} (h : Denotes cs n) :
    Reading n (ofNumeral? cs) := by
  cases h with
  | plain h =>
    rw [ofNumeral?, ofScaled?_eq_none h.not_isMark, Option.or_none]
    exact .plain h
  | @scaled base power mark x k hbase hmark hpower =>
    rw [ofNumeral?_scaled hmark]
    cases hpower with
    | up hcount =>
      rw [ofScaled?_up hbase.not_isMark hmark hcount]
      exact .up _ hbase
    | down hcount =>
      rw [ofScaled?_down hbase.not_isMark hmark hcount]
      exact .down _ hbase

/-- **Nothing but numerals is read.** -/
theorem exists_denotes {cs : List Char} {d : Decimal} (h : ofNumeral? cs = some d) :
    ∃ n, Denotes cs n := by
  rcases Option.or_eq_some_iff.mp h with hplain | ⟨-, hscaled⟩
  · obtain ⟨x, hx⟩ := exists_plain hplain
    exact ⟨⟨x, 0⟩, .plain hx⟩
  · rw [ofScaled?, List.span_eq_takeWhile_dropWhile] at hscaled
    have hparts : cs.takeWhile (fun c => decide (c ≠ 'e' ∧ c ≠ 'E')) ++
        cs.dropWhile (fun c => decide (c ≠ 'e' ∧ c ≠ 'E')) = cs := List.takeWhile_append_dropWhile
    have hhead := List.head?_dropWhile_not (fun c => decide (c ≠ 'e' ∧ c ≠ 'E')) cs
    revert hscaled hparts hhead
    generalize cs.takeWhile _ = base
    generalize cs.dropWhile _ = rest
    intro hscaled hparts hhead
    cases rest with
    | nil => exact absurd hscaled (by simp)
    | cons mark power =>
      have hmark : IsMark mark := by
        have hnot := of_decide_eq_false hhead
        rwa [← not_or, not_not] at hnot
      obtain ⟨d₀, hbase, hpower⟩ := Option.bind_eq_some_iff.mp hscaled
      obtain ⟨x, hx⟩ := exists_plain hbase
      have hexists : ∃ k, Power power k := by
        revert hpower
        split
        · intro hpower
          obtain ⟨k, hk, -⟩ := Option.bind_eq_some_iff.mp hpower
          exact ⟨-k, .down (count?_eq_some_iff.mp hk)⟩
        · intro hpower
          obtain ⟨k, hk, -⟩ := Option.bind_eq_some_iff.mp hpower
          exact ⟨k, .up (count?_eq_some_iff.mp hk)⟩
      obtain ⟨k, hk⟩ := hexists
      rw [← hparts]
      exact ⟨⟨x, k⟩, .scaled hx hmark hk⟩

/-! ### One number for each text -/

theorem Plain.unique {cs : List Char} {x y : ℚ} (hx : Plain cs x) (hy : Plain cs y) : x = y :=
  (plain_iff.mp hx).2.symm.trans (plain_iff.mp hy).2

theorem Count.unique {cs : List Char} {j k : ℕ} (hj : Count cs j) (hk : Count cs k) : j = k :=
  Option.some_inj.mp ((count?_eq_some_iff.mpr hj).symm.trans (count?_eq_some_iff.mpr hk))

theorem Power.unique {cs : List Char} {j k : ℤ} (hj : Power cs j) (hk : Power cs k) : j = k := by
  cases hj with
  | up hj =>
    cases hk with
    | up hk => rw [hj.unique hk]
    | down hk => exact absurd rfl hj.ne_minus
  | down hj =>
    cases hk with
    | up hk => exact absurd rfl hk.ne_minus
    | down hk => rw [hj.unique hk]

theorem Denotes.unique {cs : List Char} {n m : Numeral} (hn : Denotes cs n) (hm : Denotes cs m) :
    n = m := by
  have hmark : ∀ {base power : List Char} {mark : Char} {x : ℚ}, IsMark mark →
      ¬ Plain (base ++ mark :: power) x := fun hmark h =>
    h.not_isMark _ (List.mem_append_right _ List.mem_cons_self) hmark
  cases hn with
  | plain hx =>
    cases hm with
    | plain hy => rw [hx.unique hy]
    | scaled _ h _ => exact absurd hx (hmark h)
  | @scaled base power mark x j hx h hj =>
    generalize htext : base ++ mark :: power = cs at hm
    cases hm with
    | plain hy => exact absurd (htext ▸ hy) (hmark h)
    | @scaled base' power' mark' y k hy h' hk =>
      -- both are cut at the same place
      have hcut := span_append hx.not_isMark h power
      rw [htext, span_append hy.not_isMark h'] at hcut
      obtain ⟨rfl, hrest⟩ := Prod.mk.inj hcut
      obtain ⟨-, rfl⟩ := List.cons.inj hrest
      rw [hx.unique hy, hj.unique hk]

end BookSync.Decimal
