/-
The names of intervals.

A name is a count, which may have a plus in front, and the letter of a unit behind it.

* `Measure`: the units, their letters and their seconds;
* `Spelled`: the names, with their count and their unit;
* `seconds?_eq_some_iff`: a name that is read is spelled so, and any name that is spelled so
  is read if its count and its length fit.

`seconds_accepts_spelled` tells all outcomes for any text. Count and length may each be too
large, and either makes a text no name of an interval.
-/
import BookSync.Market.Interval
import BookSync.Proofs.Decimal.Written
import BookSync.Proofs.Text.Utf8

namespace BookSync.Interval

/-! ### Names -/

/-- A unit of time: its letter and its seconds. -/
inductive Measure : Char → ℕ → Prop
  | second : Measure 's' 1
  | minute : Measure 'm' 60
  | hour : Measure 'h' (60 * 60)
  | day : Measure 'd' (24 * 60 * 60)
  | week : Measure 'w' (7 * 24 * 60 * 60)

/-- The name of an interval: a count and the letter of a unit. -/
inductive Spelled : List Char → ℕ → ℕ → Prop
  | intro {count : List Char} {letter : Char} {n unit : ℕ} (hcount : Decimal.Count count n)
      (hunit : Measure letter unit) : Spelled (count ++ [letter]) n unit

section

variable {letter : Char} {unit : ℕ}

theorem unit?_eq_some_iff : unit? letter = some unit ↔ Measure letter unit := by
  constructor
  · intro h
    rw [unit?.eq_def] at h
    split at h
    case h_6 => simp at h
    all_goals
      obtain rfl := Option.some_inj.mp h
      constructor
  · intro h
    cases h <;> rfl

theorem Measure.pos (h : Measure letter unit) : 0 < unit := by
  cases h <;> decide

/-- The letter of a unit is a single byte. -/
theorem Measure.utf8Size (h : Measure letter unit) : letter.utf8Size = 1 := by
  cases h <;> rfl

end

namespace Spelled

variable {cs : List Char} {n unit : ℕ}

/-- A letter alone is no name. -/
theorem two_le_length (h : Spelled cs n unit) : 2 ≤ cs.length := by
  obtain ⟨hcount, -⟩ := h
  have hpos := List.length_pos_iff.mpr hcount.ne_nil
  rw [List.length_append, List.length_singleton]
  omega

/-- A name ends in a single byte. -/
theorem utf8Size_of_getLast? (h : Spelled cs n unit) {c : Char} (hc : cs.getLast? = some c) :
    c.utf8Size = 1 := by
  obtain ⟨-, hunit⟩ := h
  rw [List.getLast?_concat, Option.some_inj] at hc
  exact hc ▸ hunit.utf8Size

end Spelled

/-! ### Reading -/

section

variable {cs : List Char} {name : String} {secs : UInt64} {error : DecodeError}

theorem seconds?_concat (digits : List Char) (letter : Char) : seconds? (digits ++ [letter]) =
    (unit? letter).bind fun unit => (Decimal.count? digits).bind fun n =>
      if n < UInt64.size ∧ n * unit < UInt64.size then some (UInt64.ofNat (n * unit))
      else none := by
  rw [seconds?, List.getLast?_concat, List.dropLast_concat]
  rfl

/-- The names that are read. -/
theorem seconds?_eq_some_iff : seconds? cs = some secs ↔ ∃ n unit, Spelled cs n unit ∧
    n < 2 ^ 64 ∧ n * unit < 2 ^ 64 ∧ secs.toNat = n * unit := by
  constructor
  · intro h
    rcases List.eq_nil_or_concat cs with rfl | ⟨digits, letter, rfl⟩
    · exact nomatch (show none = some secs from h)
    rw [List.concat_eq_append] at h ⊢
    rw [seconds?_concat] at h
    obtain ⟨unit, hunit, h⟩ := Option.bind_eq_some_iff.mp h
    obtain ⟨n, hcount, h⟩ := Option.bind_eq_some_iff.mp h
    have hspelled : Spelled (digits ++ [letter]) n unit :=
      .intro (Decimal.count?_eq_some_iff.mp hcount) (unit?_eq_some_iff.mp hunit)
    split at h
    · rename_i hfits
      obtain rfl := Option.some_inj.mp h
      exact ⟨n, unit, hspelled, hfits.1, hfits.2, UInt64.toNat_ofNat_of_lt' hfits.2⟩
    · simp at h
  · rintro ⟨n, unit, ⟨hcount, hunit⟩, hn, hfits, hsecs⟩
    have hboth : n < UInt64.size ∧ n * unit < UInt64.size := ⟨hn, hfits⟩
    rw [seconds?_concat, unit?_eq_some_iff.mpr hunit, Option.bind_some,
      Decimal.count?_eq_some_iff.mpr hcount, Option.bind_some, if_pos hboth, ← hsecs,
      UInt64.ofNat_toNat]

theorem seconds_eq_ok_iff : seconds name = .ok secs ↔ seconds? name.toList = some secs := by
  rw [seconds]
  cases seconds? name.toList <;> simp

theorem exists_seconds_eq_ok_iff : (∃ secs, seconds name = .ok secs) ↔
    ∃ n unit, Spelled name.toList n unit ∧ n < 2 ^ 64 ∧ n * unit < 2 ^ 64 := by
  simp only [seconds_eq_ok_iff, seconds?_eq_some_iff]
  constructor
  · rintro ⟨secs, n, unit, hname, hn, hfits, -⟩
    exact ⟨n, unit, hname, hn, hfits⟩
  · rintro ⟨n, unit, hname, hn, hfits⟩
    have hsecs : (UInt64.ofNat (n * unit)).toNat = n * unit := UInt64.toNat_ofNat_of_lt' hfits
    exact ⟨_, n, unit, hname, hn, hfits, hsecs⟩

theorem seconds_eq_error_iff :
    seconds name = .error error ↔
      (∀ secs, seconds name ≠ .ok secs) ∧ error = .unknownInterval name := by
  rw [seconds]
  cases seconds? name.toList <;> simp [eq_comm]

end

/-- **The names of intervals are exactly those that are spelled as such.** A text is read if
it is a count and the letter of a unit, and if the count and the seconds of so many units fit
64 bits; and then it is read as these seconds. Any other text is refused, and the error
carries it. So is a text of less than two characters, and one whose last character takes more
than one byte. Also in its bytes any text can be cut in front of the last character, into the
texts that count and unit are read from. -/
theorem seconds_accepts_spelled (name : String) :
    (∀ secs, seconds name = .ok secs ↔ ∃ n unit, Spelled name.toList n unit ∧
      n < 2 ^ 64 ∧ n * unit < 2 ^ 64 ∧ secs.toNat = n * unit) ∧
    (∀ error, seconds name = .error error ↔ error = .unknownInterval name ∧
      ¬ ∃ n unit, Spelled name.toList n unit ∧ n < 2 ^ 64 ∧ n * unit < 2 ^ 64) ∧
    (name.length < 2 ∨ (∃ c, name.toList.getLast? = some c ∧ 1 < c.utf8Size) →
      seconds name = .error (.unknownInterval name)) ∧
    ∀ c, name.toList.getLast? = some c →
      let bytes := Text.utf8Encode name.toList
      bytes.splitAt (bytes.length - c.utf8Size) =
        (Text.utf8Encode name.toList.dropLast, Text.utf8Encode [c]) := by
  have herror : ∀ error, seconds name = .error error ↔ error = .unknownInterval name ∧
      ¬ ∃ n unit, Spelled name.toList n unit ∧ n < 2 ^ 64 ∧ n * unit < 2 ^ 64 := by
    intro error
    rw [seconds_eq_error_iff, ← exists_seconds_eq_ok_iff, not_exists, and_comm]
  refine ⟨fun secs => seconds_eq_ok_iff.trans seconds?_eq_some_iff, herror, ?_,
    fun c => Text.splitAt_encode⟩
  intro h
  refine (herror _).mpr ⟨rfl, ?_⟩
  rintro ⟨n, unit, hname, -, -⟩
  rcases h with hshort | ⟨c, hlast, hbytes⟩
  · have hlength := hname.two_le_length
    rw [String.length_toList] at hlength
    omega
  · have hone := hname.utf8Size_of_getLast? hlast
    omega

/-- Neither a plus nor zeros in front of a count change it. -/
example : seconds "+007m" = .ok 420 := rfl

/-- A count that fits may still be too much for its unit. -/
example : seconds "99999999999999999w" = .error (.unknownInterval "99999999999999999w") := rfl

end BookSync.Interval
