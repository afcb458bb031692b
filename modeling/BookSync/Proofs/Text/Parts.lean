/-
Texts that are put together, and taken apart again.

* `splitAtFirst?_append`, `splitAtFirst?_eq_none_iff`: a text is cut into two parts at
  its first separator, if it has one;
* `splitAtLast?_of_not_mem`: without a separator there is no last one either;
* `splitOn_join`, `join_splitOn`: cutting at all separators undoes putting them in, and the
  other way round;
* `mem_join`: what a text of parts consists of;
* `trim_padded`: of blanks around a text without blanks nothing is left.
-/
import BookSync.Text.Blank
import BookSync.Text.Split
import Mathlib.Data.List.TakeDrop
import Mathlib.Data.List.TakeWhile

namespace BookSync.Text

/-! ### Separators -/

section

variable {sep : Char} {cs before after : List Char}

theorem forall_ne_of_not_mem (h : sep ∉ cs) : ∀ c ∈ cs, decide (c ≠ sep) = true := by
  intro c hc
  rw [decide_eq_true_iff]
  rintro rfl
  exact h hc

theorem splitAtFirst?_append (h : sep ∉ before) :
    splitAtFirst? sep (before ++ sep :: after) = some (before, after) := by
  have hbefore := forall_ne_of_not_mem h
  rw [splitAtFirst?, List.span_eq_takeWhile_dropWhile, List.takeWhile_append_of_pos hbefore,
    List.dropWhile_append_of_pos hbefore]
  simp

theorem splitAtLast?_of_not_mem (h : sep ∉ cs) : splitAtLast? sep cs = none := by
  induction cs with
  | nil => rfl
  | cons c cs ih =>
    rw [List.mem_cons, not_or] at h
    rw [splitAtLast?, ih h.2]
    exact if_neg (Ne.symm h.1)

theorem splitAtFirst?_eq_none_iff : splitAtFirst? sep cs = none ↔ sep ∉ cs := by
  constructor
  · intro h hmem
    obtain ⟨before, after, rfl, hbefore⟩ := List.eq_append_cons_of_mem hmem
    rw [splitAtFirst?_append hbefore] at h
    simp at h
  · intro h
    have hrest : cs.dropWhile (fun c => decide (c ≠ sep)) = [] :=
      List.dropWhile_eq_nil_iff.mpr (forall_ne_of_not_mem h)
    rw [splitAtFirst?, List.span_eq_takeWhile_dropWhile, hrest]

end

/-! ### All separators -/

theorem splitOn_eq_splitOnP (isSep : Char → Bool) (cs : List Char) :
    splitOn isSep cs = cs.splitOnP isSep := by
  induction cs with
  | nil => rfl
  | cons c cs ih =>
    rw [splitOn, List.splitOnP_cons_eq_if_modifyHead, ih]
    cases h : cs.splitOnP isSep with
    | nil => exact absurd h (List.splitOnP_ne_nil isSep cs)
    | cons part parts => rfl

theorem splitOn_eq_splitOn (sep : Char) (cs : List Char) :
    splitOn (· = sep) cs = cs.splitOn sep := by
  rw [splitOn_eq_splitOnP]
  rfl

/-- What counts as a separator matters for the characters of the text only. -/
theorem splitOn_congr {isSep isSep' : Char → Bool} {cs : List Char}
    (h : ∀ c ∈ cs, isSep c = isSep' c) : splitOn isSep cs = splitOn isSep' cs := by
  induction cs with
  | nil => rfl
  | cons c cs ih =>
    obtain ⟨hc, hcs⟩ := List.forall_mem_cons.mp h
    rw [splitOn, hc, ih hcs, splitOn]

/-- Parts without the separator are found again. -/
theorem splitOn_join {sep : Char} {parts : List (List Char)} (h : ∀ part ∈ parts, sep ∉ part)
    (hparts : parts ≠ []) :
    splitOn (· = sep) (parts.intersperse [sep]).flatten = parts := by
  rw [splitOn_eq_splitOn]
  exact List.splitOn_intercalate sep h hparts

/-- The parts of a text make up the text. -/
theorem join_splitOn (sep : Char) (cs : List Char) :
    ((splitOn (· = sep) cs).intersperse [sep]).flatten = cs := by
  rw [splitOn_eq_splitOn]
  exact List.intercalate_splitOn sep

theorem mem_of_mem_splitOn {isSep : Char → Bool} {cs part : List Char} {c : Char}
    (hpart : part ∈ splitOn isSep cs) (hc : c ∈ part) : c ∈ cs := by
  induction cs generalizing part with
  | nil =>
    obtain rfl := List.mem_singleton.mp hpart
    exact hc
  | cons d cs ih =>
    rw [splitOn] at hpart
    split at hpart
    · rcases List.mem_cons.mp hpart with rfl | hpart
      · exact absurd hc List.not_mem_nil
      · exact List.mem_cons_of_mem d (ih hpart hc)
    · split at hpart
      · obtain rfl := List.mem_singleton.mp hpart
        obtain rfl := List.mem_singleton.mp hc
        exact List.mem_cons_self
      · rename_i first parts hparts
        rcases List.mem_cons.mp hpart with rfl | hpart
        · rcases List.mem_cons.mp hc with rfl | hc
          · exact List.mem_cons_self
          · exact List.mem_cons_of_mem d (ih (hparts ▸ List.mem_cons_self) hc)
        · exact List.mem_cons_of_mem d (ih (hparts ▸ List.mem_cons_of_mem first hpart) hc)

/-- A text of parts has the characters of the parts, and the separator. -/
theorem mem_join {sep : Char} {parts : List (List Char)} {c : Char}
    (h : c ∈ (parts.intersperse [sep]).flatten) : c = sep ∨ ∃ part ∈ parts, c ∈ part := by
  induction parts with
  | nil => exact absurd h List.not_mem_nil
  | cons part parts ih =>
    cases parts with
    | nil =>
      rw [List.intersperse_singleton, List.flatten_singleton] at h
      exact Or.inr ⟨part, List.mem_cons_self, h⟩
    | cons next parts =>
      rw [List.intersperse_cons_cons, List.flatten_cons, List.flatten_cons] at h
      rcases List.mem_append.mp h with hpart | h
      · exact Or.inr ⟨part, List.mem_cons_self, hpart⟩
      rcases List.mem_append.mp h with hsep | hrest
      · exact Or.inl (List.mem_singleton.mp hsep)
      · obtain hc | ⟨other, hother, hc⟩ := ih hrest
        · exact Or.inl hc
        · exact Or.inr ⟨other, List.mem_cons_of_mem _ hother, hc⟩

/-! ### Blanks -/

/-- The visible characters of ASCII are not blank. -/
theorem isBlank_eq_false {c : Char} (h : 33 ≤ c.toNat ∧ c.toNat ≤ 126) : isBlank c = false := by
  simp only [isBlank, Ranges.covers, blankRanges]
  simp
  omega

/-- **Trimming takes the blanks away, and nothing else.** -/
theorem trim_padded {before cs after : List Char} (hbefore : ∀ c ∈ before, isBlank c = true)
    (hcs : ∀ c ∈ cs, isBlank c = false) (hafter : ∀ c ∈ after, isBlank c = true) :
    trim (before ++ cs ++ after) = cs := by
  have hback : ∀ c ∈ after.reverse, isBlank c = true := by
    intro c hc
    exact hafter c (List.mem_reverse.mp hc)
  rw [trim, List.append_assoc, List.dropWhile_append_of_pos hbefore]
  cases cs with
  | nil =>
    have hnone : after.dropWhile isBlank = [] := List.dropWhile_eq_nil_iff.mpr hafter
    rw [List.nil_append, hnone]
    rfl
  | cons c rest =>
    have hfirst : isBlank c = false := hcs c List.mem_cons_self
    have hkept : ((c :: rest).reverse).dropWhile isBlank = (c :: rest).reverse := by
      -- its first character is the last one of the text
      refine List.dropWhile_eq_self_iff.mpr fun hlt => ?_
      have hmem := List.mem_reverse.mp (List.getElem_mem hlt)
      rw [hcs _ hmem]
      exact Bool.false_ne_true
    rw [List.cons_append, List.dropWhile_cons_of_neg (by simp [hfirst]), ← List.cons_append,
      List.reverse_append, List.dropWhile_append_of_pos hback, hkept, List.reverse_reverse]

end BookSync.Text
