/-
Levels whose fields are spelled as numbers or as texts.

A price or a size may be sent as a number of JSON or as a text with the same characters.
As a number it goes through 64 bits: an integer stays what it is, anything else
becomes a floating point number and then the decimal nearest to its shortest digits.
As a text it is read as a numeral. So the two forms agree only as far as the digits of
the number survive.

* `decoded?_bare`, `decoded?_quoted`: what the two forms of a literal are read as;
* `Level.read_eq`: a level is read as its two fields are;
* `Literal.ReadAlike`: both forms of a literal are read as the same number.

`bare_agrees_with_quoted_iff` tells for which literals a level can be spelled either way.
The others exist: `bare_differs_from_quoted` names a price that changes with its form.
-/
import BookSync.Level
import BookSync.Proofs.Decimal.RoundTrip
import BookSync.Proofs.Json.Members
import BookSync.Proofs.Json.Number

namespace BookSync

open Json (Literal Draft Number ReadsAs Fault Decoder)
open Decimal (nearest?)

/-! ### Decimals -/

/-- The number of a decoded decimal. -/
def decoded? (r : Except Fault Decimal) : Option ℚ := r.toOption.map Decimal.value

theorem trim_eq_self {cs : List Char} {n : Decimal.Numeral} (h : Decimal.Denotes cs n) :
    Text.trim cs = cs := by
  have hnone : ∀ c ∈ ([] : List Char), Text.isBlank c = true := by simp
  have htrim := Text.trim_padded hnone h.isBlank_eq_false hnone
  rwa [List.nil_append, List.append_nil] at htrim

theorem decoded?_decimalText {cs : List Char} {n : Decimal.Numeral} (h : Decimal.Denotes cs n) :
    decoded? (Decoder.decimalText (String.ofList cs)) =
      (Decimal.ofNumeral? cs).map Decimal.value := by
  rw [Decoder.decimalText, Decimal.ofText?, String.toList_ofList, trim_eq_self h]
  cases Decimal.ofNumeral? cs
  · rfl
  · rfl

/-- A literal in quotes is read as a numeral. -/
theorem decoded?_quoted (l : Literal) :
    decoded? (Decoder.decimal (.text (String.ofList l.chars))) = l.number.read? := by
  rw [Decoder.decimal, decoded?_decimalText l.denotes, l.denotes.map_value l.not_underscore]

/-- A number is read as the decimal nearest to what stands for it. -/
theorem decoded?_number (n : Number) :
    decoded? (Decoder.decimal (.number n)) = nearest? n.shown := by
  cases n with
  | integer n =>
    have hunits : |(n : ℚ)| * 10 ^ 0 = n.natAbs := by
      rw [pow_zero, mul_one, ← Int.cast_abs, Int.abs_eq_natAbs, Int.cast_natCast]
    rw [Decoder.decimal, Number.shown]
    by_cases hn : n.natAbs < Decimal.bound
    · obtain ⟨d, hd, hvalue⟩ := Decimal.exists_ofCoeff? hn (Nat.zero_le 28)
      rw [pow_zero, div_one] at hvalue
      rw [hd, Decimal.nearest?_eq_self hunits hn (Nat.zero_le 28), ← hvalue]
      rfl
    · have hnone : Decimal.ofCoeff? n 0 = none := dif_neg fun h => hn h.1
      have hlarge := Decimal.le_unitsAt hunits.ge
      rw [hnone, Decimal.nearest?_eq_none ((Nat.le_of_not_lt hn).trans hlarge)]
      rfl
  | float x =>
    have hdenotes : Decimal.Denotes x.positional ⟨x.shortValue, 0⟩ := .plain x.plain_positional
    rw [Decoder.decimal, decoded?_decimalText hdenotes, x.map_value_positional]
    rfl

/-- A literal that stands bare is read as the number that it becomes. -/
theorem decoded?_bare (l : Literal) :
    decoded? (Decoder.decimal l.draft) = l.parts.value?.bind fun n => nearest? n.shown := by
  rw [Literal.draft]
  cases l.parts.value? with
  | none => rfl
  | some n => exact decoded?_number n

/-! ### Levels -/

namespace Level

/-- The level that is read from the texts of its two fields. -/
def read (price size : List Char) : Except Fault Level :=
  Json.ofText? decoder (String.ofList (Json.pairChars ['p'] price ['s'] size))

/-- Both are refused, or both are levels with the same numbers. -/
inductive Agree : Except Fault Level → Except Fault Level → Prop
  | refused (f g : Fault) : Agree (.error f) (.error g)
  | same {a b : Level} (hprice : a.price ≈ b.price) (hsize : a.size ≈ b.size) :
      Agree (.ok a) (.ok b)

theorem assign_pair (price size : Draft) :
    (Json.Members.member (.ok "p") price (.member (.ok "s") size .closed)).assign
      fields.entries [] =
      match Decoder.check Decoder.decimal price with
      | some f => .error f
      | none =>
        match Decoder.check Decoder.decimal size with
        | some f => .error f
        | none => .ok [("s", size), ("p", price)] := rfl

/-- A level has its two fields, or the fault of the first that has one. -/
theorem decoder_pair (price size : Draft) :
    decoder (.object (.member (.ok "p") price (.member (.ok "s") size .closed))) =
      (Decoder.decimal price).bind fun p => (Decoder.decimal size).map fun s => ⟨p, s⟩ := by
  have hrecord : ∀ members, decoder (.object members) =
      members.assign fields.entries [] >>= fun done =>
        fields.build (fun field => done.lookup field) .missingField := fun _ => rfl
  have hbuild : fields.build (fun field => [("s", size), ("p", price)].lookup field)
      .missingField = ((Decoder.decimal price).map mk >>= fun g =>
        Decoder.decimal size >>= fun s => .ok (g s)) := rfl
  -- both fields are checked before the level is built, and decoded once more for it
  rw [hrecord, assign_pair, Decoder.check, Decoder.check]
  cases hp : Decoder.decimal price with
  | error f => rfl
  | ok p =>
    cases hs : Decoder.decimal size with
    | error f => rfl
    | ok s =>
      rw [ok_bind, hbuild, hp, hs]
      rfl

section

variable {price size : List Char} {d d' : Draft}

theorem read_eq (hprice : ReadsAs price d) (hsize : ReadsAs size d') :
    read price size =
      (Decoder.decimal d).bind fun p => (Decoder.decimal d').map fun s => ⟨p, s⟩ := by
  have hkey : ∀ c ∈ ['p'], Json.IsPlain c :=
    List.forall_mem_singleton.mpr ⟨by decide, by decide, by decide⟩
  have hkey' : ∀ c ∈ ['s'], Json.IsPlain c :=
    List.forall_mem_singleton.mpr ⟨by decide, by decide, by decide⟩
  have hread := decoder_pair d d'
  rw [read, Json.ofText?, String.toList_ofList, Json.ofChars_pair hkey hkey' hprice hsize]
  show (decoder (.object (.member (.ok "p") d (.member (.ok "s") d' .closed)))).bind _ = _
  rw [hread]
  cases Decoder.decimal d with
  | error f => rfl
  | ok p =>
    cases Decoder.decimal d' with
    | error f => rfl
    | ok s => rfl

end

/-! ### Two spellings -/

section

variable {r r' : Except Fault Decimal}

/-- Where one field decides, its number does. -/
theorem agree_map_iff {f : Decimal → Level}
    (hf : ∀ a b, (f a).price ≈ (f b).price ∧ (f a).size ≈ (f b).size ↔ a ≈ b) :
    Agree (r.map f) (r'.map f) ↔ decoded? r = decoded? r' := by
  cases r with
  | error e =>
    cases r' with
    | error e' => exact ⟨fun _ => rfl, fun _ => .refused e e'⟩
    | ok b => exact ⟨fun h => (nomatch h), fun h => (nomatch h)⟩
  | ok a =>
    cases r' with
    | error e' => exact ⟨fun h => (nomatch h), fun h => (nomatch h)⟩
    | ok b =>
      have hvalue : decoded? (.ok a) = decoded? (.ok b) ↔ a ≈ b :=
        Option.some_inj.trans Decimal.equiv_iff_value.symm
      rw [hvalue, ← hf]
      constructor
      · intro h
        cases h with
        | same hprice hsize => exact ⟨hprice, hsize⟩
      · intro h
        exact .same h.1 h.2

theorem agree_price_iff (other : Except Fault Decimal) :
    Agree (r.bind fun p => other.map fun s => ⟨p, s⟩) (r'.bind fun p => other.map fun s => ⟨p, s⟩) ↔
      (∃ f, other = .error f) ∨ decoded? r = decoded? r' := by
  cases other with
  | error f =>
    have hrefused : ∀ q : Except Fault Decimal, ∃ e,
        (q.bind fun p => (.error f : Except Fault Decimal).map fun s => (⟨p, s⟩ : Level)) =
          .error e := by
      intro q
      cases q with
      | error e => exact ⟨e, rfl⟩
      | ok p => exact ⟨f, rfl⟩
    obtain ⟨e, he⟩ := hrefused r
    obtain ⟨e', he'⟩ := hrefused r'
    rw [he, he']
    exact ⟨fun _ => Or.inl ⟨f, rfl⟩, fun _ => .refused e e'⟩
  | ok s =>
    have hmap : ∀ q : Except Fault Decimal,
        (q.bind fun p => (.ok s : Except Fault Decimal).map fun s => (⟨p, s⟩ : Level)) =
          q.map fun p => ⟨p, s⟩ := by
      intro q
      cases q <;> rfl
    rw [hmap, hmap, or_iff_right (by simp)]
    exact agree_map_iff fun a b => and_iff_left (Decimal.equiv_refl s)

theorem agree_size_iff (other : Except Fault Decimal) :
    Agree (other.bind fun p => r.map fun s => ⟨p, s⟩) (other.bind fun p => r'.map fun s => ⟨p, s⟩) ↔
      (∃ f, other = .error f) ∨ decoded? r = decoded? r' := by
  cases other with
  | error f => exact ⟨fun _ => Or.inl ⟨f, rfl⟩, fun _ => .refused f f⟩
  | ok p =>
    rw [or_iff_right (by simp)]
    exact agree_map_iff fun a b => and_iff_right (Decimal.equiv_refl p)

end

end Level

/-- Both forms of a literal are read as the same number, or both are refused. -/
def Json.Literal.ReadAlike (l : Literal) : Prop :=
  (l.parts.value?.bind fun n => nearest? n.shown) = l.number.read?

theorem readAlike_iff (l : Literal) :
    decoded? (Decoder.decimal l.draft) =
      decoded? (Decoder.decimal (.text (String.ofList l.chars))) ↔ l.ReadAlike := by
  rw [decoded?_bare, decoded?_quoted, Literal.ReadAlike]

/-- What survives is read alike. An exponent has to be small, and the digits in front of it
not too many. -/
theorem readAlike_of_survives {l : Literal} (h : l.Survives)
    (hform : l.exponent = none ∨
      Decimal.Representable l.number.base ∧ l.number.power.natAbs ≤ 28) : l.ReadAlike := by
  obtain ⟨n, hn, hshown⟩ := h
  rw [Literal.ReadAlike, hn, Option.bind_some, hshown]
  rcases hform with hplain | ⟨hbase, hpower⟩
  · have hnumber : l.number = ⟨l.number.base, 0⟩ := by
      rw [Literal.number, Literal.power, hplain]
      rfl
    rw [hnumber, Decimal.Numeral.read?_plain, Decimal.Numeral.value_plain]
  · rw [Decimal.Numeral.read?_eq_nearest? hbase hpower]

/-- Where nothing is rounded any more, nothing else is read alike. -/
theorem survives_of_readAlike {l : Literal} {n : Number} (h : l.ReadAlike)
    (hn : l.parts.value? = some n) (hshown : Decimal.Representable n.shown)
    (hbase : Decimal.Representable l.number.base) (hvalue : Decimal.Representable l.number.value)
    (hpower : l.number.power.natAbs ≤ 28) : l.Survives := by
  rw [Literal.ReadAlike, hn, Option.bind_some, hshown.nearest?,
    Decimal.Numeral.read?_eq_nearest? hbase hpower, hvalue.nearest?] at h
  exact ⟨n, hn, Option.some_inj.mp h⟩

theorem representable_base_of_isShort {l : Literal} (h : l.IsShort) :
    Decimal.Representable l.number.base := by
  have hlt : l.significand < Decimal.bound := h.significand.trans (by decide)
  refine ⟨(if l.negative then -1 else 1) * l.significand, l.fraction.length, ?_, h.places, ?_⟩
  · cases l.negative <;> simpa using hlt
  · rw [Literal.number]
    push_cast
    rfl

namespace Level

/-- **When a number and its text agree.** A level with a literal that stands bare and the
level with the same literal in quotes are both refused or have the same numbers, for the
price as for the size, if and only if the other field is refused or the literal is read
alike in both forms. That is so if its number survives and it has no exponent, or a small
one behind a base for which there is room; it is not so if its number is a decimal and
another decimal is shown for it. Integers of 64 bits and literals of fifteen digits do
survive. There are no bare numbers but literals, blanks in front of them apart. -/
theorem bare_agrees_with_quoted_iff (l : Literal) {other : List Char} {d : Draft}
    (h : ReadsAs other d) :
    (Agree (read l.chars other) (read l.quoted other) ↔
      (∃ f, Decoder.decimal d = .error f) ∨ l.ReadAlike) ∧
    (Agree (read other l.chars) (read other l.quoted) ↔
      (∃ f, Decoder.decimal d = .error f) ∨ l.ReadAlike) ∧
    (l.Survives → l.exponent = none ∨
      Decimal.Representable l.number.base ∧ l.number.power.natAbs ≤ 28 → l.ReadAlike) ∧
    (∀ n, l.parts.value? = some n → Decimal.Representable n.shown →
      Decimal.Representable l.number.base → Decimal.Representable l.number.value →
      l.number.power.natAbs ≤ 28 → l.ReadAlike → l.Survives) ∧
    (l.IsWord ∨ l.IsShort → l.Survives ∧ l.ReadAlike) ∧
    (∀ cs n, ReadsAs cs (.number n) →
      ∃ written : Literal, Json.skipGap cs = written.chars ∧ written.draft = .number n) := by
  have hbare := Json.readsAs_bare l
  have hquoted := Json.readsAs_quoted l
  refine ⟨?_, ?_, readAlike_of_survives, fun n hn hshown hbase hvalue hpower halike =>
    survives_of_readAlike halike hn hshown hbase hvalue hpower, ?_,
    fun _ _ => Json.exists_literal_of_readsAs⟩
  · rw [read_eq hbare h, read_eq hquoted h, agree_price_iff, readAlike_iff]
  · rw [read_eq h hbare, read_eq h hquoted, agree_size_iff, readAlike_iff]
  · rintro (hword | hshort)
    · have hsurvives := Json.survives_of_isWord hword
      exact ⟨hsurvives, readAlike_of_survives hsurvives (Or.inl hword.exponent)⟩
    · have hsurvives := Json.survives_of_isShort hshort
      have hbase := representable_base_of_isShort hshort
      exact ⟨hsurvives, readAlike_of_survives hsurvives (Or.inr ⟨hbase, hshort.exponent⟩)⟩

/-- The size one. -/
def oneSize : Literal where
  negative := false
  whole := [1]
  fraction := []
  exponent := none
  row := ⟨by decide, by decide⟩
  leading := by simp
  fraction_lt := by decide

/-- The price 12.5, with an exponent. -/
def scaledLiteral : Literal where
  negative := false
  whole := [1]
  fraction := [2, 5]
  exponent := some ⟨true, .plus, [1], by decide, by decide⟩
  row := ⟨by decide, by decide⟩
  leading := by simp
  fraction_lt := by decide

theorem bare_agrees_with_quoted_scaled :
    ReadsAs oneSize.chars oneSize.draft ∧
      Agree (read scaledLiteral.chars oneSize.chars) (read scaledLiteral.quoted oneSize.chars) ∧
      Agree (read oneSize.chars scaledLiteral.chars) (read oneSize.chars scaledLiteral.quoted) := by
  have hone := Json.readsAs_bare oneSize
  have hshort : scaledLiteral.IsShort := ⟨by decide, by decide, by decide, by decide⟩
  obtain ⟨hprice, hsize, -, -, hsurvives, -⟩ := bare_agrees_with_quoted_iff scaledLiteral hone
  have halike := (hsurvives (Or.inr hshort)).2
  exact ⟨hone, hprice.mpr (Or.inr halike), hsize.mpr (Or.inr halike)⟩

/-- A price with nineteen digits behind the point. -/
def longPrice : Literal where
  negative := false
  whole := [0]
  fraction := [1, 2, 3, 4, 5, 6, 7, 8, 9, 0, 1, 2, 3, 4, 5, 6, 7, 8, 9]
  exponent := none
  row := ⟨by decide, by decide⟩
  leading := by simp
  fraction_lt := by decide

/-- **A number that changes with its form.** As a number the price loses its last two
digits. -/
theorem bare_differs_from_quoted :
    ¬ Agree (read longPrice.chars oneSize.chars) (read longPrice.quoted oneSize.chars) := by
  have hbare : (read longPrice.chars oneSize.chars).toOption.map (·.price.value) =
      some (12345678901234568 / 10 ^ 17) := by decide +kernel
  have hquoted : (read longPrice.quoted oneSize.chars).toOption.map (·.price.value) =
      some (1234567890123456789 / 10 ^ 19) := by decide +kernel
  -- the two readings have been computed and need not be looked into any more
  generalize read longPrice.chars oneSize.chars = bare at hbare
  generalize read longPrice.quoted oneSize.chars = quoted at hquoted
  intro hagree
  cases hagree with
  | refused f g => exact absurd hbare (by simp [Except.toOption])
  | @same a b hprice hsize =>
    have ha : a.price.value = 12345678901234568 / 10 ^ 17 := Option.some_inj.mp hbare
    have hb : b.price.value = 1234567890123456789 / 10 ^ 19 := Option.some_inj.mp hquoted
    have hvalue := Decimal.equiv_iff_value.mp hprice
    rw [ha, hb] at hvalue
    norm_num at hvalue

end Level

end BookSync
