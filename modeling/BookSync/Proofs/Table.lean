/-
The names of a table.

* `mem_names_iff`: a name is listed exactly when it has an entry;
* `Ascending.nodup`: no name stands twice.
-/
import BookSync.Table
import Mathlib.Data.String.Basic

namespace BookSync.Table

variable {α : Type}

theorem mem_names_iff (t : Table α) (name : String) :
    name ∈ t.names ↔ (t.get? name).isSome = true := by
  rw [names, get?]
  induction t.entries with
  | nil => simp [lookupEntry]
  | cons e rest ih =>
    obtain ⟨n, a⟩ := e
    rw [List.map_cons, List.mem_cons, ih, lookupEntry]
    by_cases h : n = name
    · simp [h]
    · simp [h, Ne.symm h]

theorem contains_eq_false_iff (t : Table α) (name : String) :
    t.contains name = false ↔ t.get? name = none := by
  rw [contains, Option.isSome_eq_false_iff, Option.isNone_iff_eq_none]

/-- Taking out a list of names. -/
theorem get?_foldl_erase (t : Table α) (erased : List String) (name : String) :
    (erased.foldl erase t).get? name = if name ∈ erased then none else t.get? name := by
  induction erased generalizing t with
  | nil => rw [List.foldl_nil, if_neg (by simp)]
  | cons n rest ih =>
    rw [List.foldl_cons, ih, get?_erase]
    by_cases h : n = name
    · simp [h]
    · simp [h, Ne.symm h]

theorem Ascending.nodup {entries : List (String × α)} (h : Ascending entries) :
    (entries.map (·.1)).Nodup := h.imp ne_of_lt

end BookSync.Table
