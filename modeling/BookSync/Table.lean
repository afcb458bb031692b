/-
Tables: finite maps from names to entries.

The entries stand in ascending order of their names, which is part of the type.
So a name has one entry at most, and what `names` and `values` list is in this
order. Insertion puts an entry in its place, or in that of an entry of the same
name: `Table.Ascending.insertEntry` keeps the order, `get?_insert` is the lookup.
-/

namespace BookSync

/-- The names of the entries ascend, so that none stands twice. -/
def Table.Ascending {α : Type} (entries : List (String × α)) : Prop :=
  (entries.map (·.1)).Pairwise (· < ·)

/-- Entries by name, ascending. -/
structure Table (α : Type) where
  entries : List (String × α)
  ascending : Table.Ascending entries

namespace Table

variable {α : Type}

theorem Ascending.nil : Ascending ([] : List (String × α)) := List.Pairwise.nil

/-- The table without entries. -/
def empty : Table α := ⟨[], .nil⟩

instance : EmptyCollection (Table α) := ⟨empty⟩

/-- The names that have an entry. -/
def names (t : Table α) : List String := t.entries.map (·.1)

/-- The entries without their names. -/
def values (t : Table α) : List α := t.entries.map (·.2)

/-- How many entries there are. -/
def size (t : Table α) : Nat := t.entries.length

/-- The entry of a name in a list of entries. -/
def lookupEntry (name : String) : List (String × α) → Option α
  | [] => none
  | (n, a) :: rest => if n = name then some a else lookupEntry name rest

/-- The entry of a name. -/
def get? (t : Table α) (name : String) : Option α := lookupEntry name t.entries

/-- The name has an entry. -/
def contains (t : Table α) (name : String) : Bool := (t.get? name).isSome

/-- Put an entry in its place in a list of entries. -/
def insertEntry (name : String) (a : α) : List (String × α) → List (String × α)
  | [] => [(name, a)]
  | (n, b) :: rest =>
    if name < n then (name, a) :: (n, b) :: rest
    else if name = n then (name, a) :: rest
    else (n, b) :: insertEntry name a rest

/-- The names after an insertion are the new one and those before. -/
theorem mem_names_insertEntry {name n : String} {a : α} {entries : List (String × α)}
    (h : n ∈ (insertEntry name a entries).map (·.1)) : n = name ∨ n ∈ entries.map (·.1) := by
  induction entries with
  | nil => exact Or.inl (List.mem_singleton.mp h)
  | cons e rest ih =>
    rw [insertEntry] at h
    split at h
    · exact List.mem_cons.mp h
    · split at h
      · exact (List.mem_cons.mp h).imp_right (List.mem_cons_of_mem _)
      · rcases List.mem_cons.mp h with rfl | h
        · exact Or.inr List.mem_cons_self
        · exact (ih h).imp_right (List.mem_cons_of_mem _)

theorem Ascending.insertEntry {entries : List (String × α)} (h : Ascending entries)
    (name : String) (a : α) : Ascending (insertEntry name a entries) := by
  induction entries with
  | nil => exact List.pairwise_singleton _ _
  | cons e rest ih =>
    obtain ⟨n, b⟩ := e
    obtain ⟨hn, hrest⟩ := List.pairwise_cons.mp h
    rw [Table.insertEntry]
    split
    · rename_i hlt
      refine List.pairwise_cons.mpr ⟨fun m hm => ?_, h⟩
      rcases List.mem_cons.mp hm with rfl | hm
      · exact hlt
      · exact String.lt_trans hlt (hn m hm)
    · split
      · rename_i heq
        exact List.pairwise_cons.mpr ⟨fun m hm => heq ▸ hn m hm, hrest⟩
      · rename_i hlt hne
        -- what stands behind `n` is the new name or has stood there before
        refine List.pairwise_cons.mpr ⟨fun m hm => ?_, ih hrest⟩
        rcases mem_names_insertEntry hm with rfl | hm
        · exact Std.lt_of_le_of_ne (String.not_lt.mp hlt) (Ne.symm hne)
        · exact hn m hm

/-- Set the entry of a name. -/
def insert (t : Table α) (name : String) (a : α) : Table α :=
  ⟨insertEntry name a t.entries, t.ascending.insertEntry name a⟩

theorem Ascending.filter {entries : List (String × α)} (h : Ascending entries)
    (p : String × α → Bool) : Ascending (entries.filter p) :=
  h.sublist (List.filter_sublist.map _)

/-- Take out the entry of a name. -/
def erase (t : Table α) (name : String) : Table α :=
  ⟨t.entries.filter (·.1 ≠ name), t.ascending.filter _⟩

@[simp] theorem get?_empty (name : String) : (empty : Table α).get? name = none := rfl

private theorem lookupEntry_insertEntry (name other : String) (a : α)
    (l : List (String × α)) :
    lookupEntry other (insertEntry name a l) =
      if name = other then some a else lookupEntry other l := by
  induction l with
  | nil => simp [insertEntry, lookupEntry]
  | cons e rest ih =>
    obtain ⟨n, b⟩ := e
    rw [insertEntry]
    split
    · simp [lookupEntry]
    · split
      · rename_i hn
        subst hn
        simp [lookupEntry]
        split <;> simp_all
      · rename_i hn
        simp only [lookupEntry, ih]
        by_cases ho : n = other
        · subst ho
          simp [hn]
        · simp [ho]

theorem get?_insert (t : Table α) (name other : String) (a : α) :
    (t.insert name a).get? other = if name = other then some a else t.get? other :=
  lookupEntry_insertEntry name other a t.entries

private theorem lookupEntry_filter (name other : String) (l : List (String × α)) :
    lookupEntry other (l.filter (·.1 ≠ name)) =
      if name = other then none else lookupEntry other l := by
  induction l with
  | nil => simp [lookupEntry]
  | cons e rest ih =>
    obtain ⟨n, b⟩ := e
    by_cases hn : n = name
    · subst hn
      by_cases ho : n = other <;> simp_all [lookupEntry]
    · by_cases ho : n = other
      · subst ho
        simp [lookupEntry, hn, Ne.symm hn]
      · simp_all [lookupEntry]

theorem get?_erase (t : Table α) (name other : String) :
    (t.erase name).get? other = if name = other then none else t.get? other :=
  lookupEntry_filter name other t.entries

end Table

end BookSync
