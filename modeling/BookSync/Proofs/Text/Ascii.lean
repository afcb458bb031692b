/-
The tables leave ASCII alone.

Nearly everything that the tables list lies beyond ASCII. What they say is looked up once
for each table; all else follows for every character of ASCII, and for every text:

* `Ranges.covers_eq_false`: a character is not in a set that lists other code points only;
* `lowerChar_of_not_upper`: a character that is no capital letter stays as it is;
* `decompose_of_ascii`, `combiningClass_of_ascii`: ASCII has no parts and no marks;
* `composed_of_ascii`: so a text in ASCII is in composed form;
* `direction_of_ascii`: and no part of it is written to the left.
-/
import BookSync.Text.Composition
import BookSync.Text.Direction
import BookSync.Text.Hidden
import BookSync.Text.Lower
import Mathlib.Data.List.Basic

namespace BookSync.Text

/-! ### What the tables list -/

theorem lowerRuns_list :
    ∀ r ∈ lowerRuns.toList, 0x41 ≤ r.first ∧ r.last ≤ 0x5a ∨ 0x80 ≤ r.first := by
  decide +kernel

theorem combiningClasses_list : ∀ r ∈ combiningClasses.toList, 0x80 ≤ r.1 := by
  decide +kernel

theorem composites_list : ∀ r ∈ composites.toList, 0x80 ≤ r.2.2 := by
  decide +kernel

theorem hiddenRanges_list : ∀ r ∈ hiddenRanges.toList, r.2 < 0x20 ∨ 0x7f ≤ r.1 := by
  decide +kernel

theorem leftRanges_list : ∀ r ∈ leftRanges.toList, 0x80 ≤ r.1 := by
  decide +kernel

theorem arabicNumberRanges_list : ∀ r ∈ arabicNumberRanges.toList, 0x80 ≤ r.1 := by
  decide +kernel

/-! ### Single characters -/

variable {c : Char}

theorem Ranges.covers_eq_false {rs : Ranges}
    (h : ∀ r ∈ rs.toList, r.2 < c.toNat ∨ c.toNat < r.1) : rs.covers c = false := by
  rw [covers, ← Array.any_toList, List.any_eq_false]
  intro r hr hcovers
  have hout := h r hr
  simp only [Bool.and_eq_true, decide_eq_true_eq] at hcovers
  omega

/-- A set that begins beyond ASCII has nothing of it. -/
theorem Ranges.covers_of_ascii {rs : Ranges} (h : ∀ r ∈ rs.toList, 0x80 ≤ r.1)
    (hc : c.toNat < 0x80) : rs.covers c = false :=
  covers_eq_false fun r hr => Or.inr (Nat.lt_of_lt_of_le hc (h r hr))

theorem Shift.covers_eq_false {r : Shift} (h : r.last < c.toNat ∨ c.toNat < r.first) :
    r.covers c = false := by
  simp only [covers, Bool.and_eq_false_iff, decide_eq_false_iff_not]
  omega

theorem lowerChar_of_not_upper (hc : c.toNat < 0x80) (h : 0x5a < c.toNat ∨ c.toNat < 0x41) :
    lowerChar c = c := by
  have hnone : lowerRuns.find? (·.covers c) = none := by
    rw [← Array.find?_toList, List.find?_eq_none]
    intro r hr hcovers
    have hlist := lowerRuns_list r hr
    rw [Shift.covers_eq_false (by omega)] at hcovers
    exact Bool.false_ne_true hcovers
  delta lowerChar
  rw [hnone]

theorem isHidden_of_visible (h : 0x20 ≤ c.toNat ∧ c.toNat < 0x7f) : isHidden c = false := by
  refine Ranges.covers_eq_false fun r hr => ?_
  have hlist := hiddenRanges_list r hr
  omega

theorem decompose_of_ascii (hc : c.toNat < 0x80) : decompose c = [c] := by
  have hparts : parts 3 c.toNat = [c.toNat] := if_pos hc
  rw [decompose, hparts, List.map_singleton, Char.ofNat_toNat]

theorem combiningClass_of_ascii (hc : c.toNat < 0x80) : combiningClass c = 0 := by
  have hnone : combiningClasses.find? (fun r => r.1 ≤ c.toNat && c.toNat ≤ r.2.1) = none := by
    rw [← Array.find?_toList, List.find?_eq_none]
    intro r hr hcovers
    have hlist := combiningClasses_list r hr
    simp only [Bool.and_eq_true, decide_eq_true_eq] at hcovers
    omega
  delta combiningClass
  rw [hnone]

/-- Nothing is composed with a character of ASCII behind it. -/
theorem composite?_of_ascii (a : Char) (hc : c.toNat < 0x80) : composite? a c = none := by
  have hsyllable : syllable? a.toNat c.toNat = none := by
    rw [syllable?, if_neg, if_neg]
    · simp only [trailBase]
      omega
    · simp only [vowelBase]
      omega
  have hnone : composites.find? (fun r => r.2.1 = a.toNat && r.2.2 = c.toNat) = none := by
    rw [← Array.find?_toList, List.find?_eq_none]
    intro r hr hpair
    have hlist := composites_list r hr
    simp only [Bool.and_eq_true, decide_eq_true_eq] at hpair
    omega
  rw [composite?, hsyllable, hnone]
  rfl

/-- A character of ASCII does not make the direction of a name matter. -/
theorem direction_of_ascii (hc : c.toNat < 0x80) :
    direction c ≠ .left ∧ direction c ≠ .arabicNumber := by
  rw [direction, Ranges.covers_of_ascii leftRanges_list hc,
    Ranges.covers_of_ascii arabicNumberRanges_list hc]
  constructor <;> simp only [Bool.false_eq_true, if_false] <;> split_ifs <;> simp

/-! ### Whole texts -/

variable {cs : List Char}

theorem flatMap_decompose_of_ascii (h : ∀ c ∈ cs, c.toNat < 0x80) : cs.flatMap decompose = cs := by
  rw [List.flatMap_congr fun c hc => decompose_of_ascii (h c hc), List.flatMap_singleton']

theorem sortMarks_of_ascii (h : ∀ c ∈ cs, c.toNat < 0x80) : sortMarks cs = cs := by
  induction cs with
  | nil => rfl
  | cons c cs ih =>
    obtain ⟨hc, hcs⟩ := List.forall_mem_cons.mp h
    show insertMark c (sortMarks cs) = c :: cs
    rw [ih hcs]
    cases cs with
    | nil => rfl
    | cons d ds =>
      -- a character without a class is put behind none
      rw [insertMark, combiningClass_of_ascii hc]
      exact if_neg fun h => Nat.not_lt_zero _ h.2

theorem composeFrom_of_ascii (base : Char) (h : ∀ c ∈ cs, c.toNat < 0x80) :
    composeFrom base [] cs = base :: cs := by
  induction cs generalizing base with
  | nil => rfl
  | cons c cs ih =>
    obtain ⟨hc, hcs⟩ := List.forall_mem_cons.mp h
    rw [composeFrom, composite?_of_ascii base hc, ite_self, combiningClass_of_ascii hc]
    show base :: composeFrom c [] cs = _
    rw [ih c hcs]

/-- **A text in ASCII is in composed form.** -/
theorem composed_of_ascii (h : ∀ c ∈ cs, c.toNat < 0x80) : composed cs = cs := by
  rw [composed, flatMap_decompose_of_ascii h, sortMarks_of_ascii h]
  cases cs with
  | nil => rfl
  | cons c cs => exact composeFrom_of_ascii c (List.forall_mem_cons.mp h).2

end BookSync.Text
