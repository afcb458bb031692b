/-
Objects that have been read.

A member is put in its place among those read before it, and takes the place of one of
its name. So the members of an object that has been read stand like the entries of a
table:

* `Value.ascending_of_ofText?`: their names ascend, so that no two are the same;
* `Value.get?_eq_some_iff`: what is found under a name is the member of this name.
-/
import BookSync.Json.Reader
import BookSync.Proofs.Results
import BookSync.Proofs.Table

namespace BookSync.Json

theorem insertMember_eq_insertEntry (key : String) (v : Value) (members : List (String × Value)) :
    insertMember key v members = Table.insertEntry key v members := by
  induction members with
  | nil => rfl
  | cons member rest ih =>
    obtain ⟨k, w⟩ := member
    rw [insertMember, Table.insertEntry, ih]

/-- Members read behind others keep the order. The recursion is that of the reader. -/
theorem ascending_of_values? : ∀ {members : Members} {done read : List (String × Value)},
    Table.Ascending done → members.values? done = .ok read → Table.Ascending read
  | .closed, done, read, h, hread => by
    obtain rfl := Except.ok.inj hread
    exact h
  | .broken _ _, done, read, h, hread => nomatch hread
  | .member key head tail, done, read, h, hread => by
    obtain ⟨k, -, hread⟩ := bind_eq_ok hread
    obtain ⟨v, -, hread⟩ := bind_eq_ok hread
    rw [insertMember_eq_insertEntry] at hread
    exact ascending_of_values? (h.insertEntry k v) hread

namespace Value

theorem value?_of_ofText? {text : String} {v : Value} (h : ofText? text = .ok v) :
    (Draft.ofChars text.toList).1.value? = .ok v := by
  rw [ofText?, Json.ofText?] at h
  generalize Draft.ofChars text.toList = step at h ⊢
  obtain ⟨w, hw, hend⟩ := bind_eq_ok h
  split at hend
  · obtain rfl := Except.ok.inj hend
    exact hw
  · exact nomatch hend

/-- Only the draft of an object has an object as its value. -/
theorem exists_members {d : Draft} {members : List (String × Value)}
    (h : d.value? = .ok (.object members)) : ∃ ms : Members, ms.values? [] = .ok members := by
  cases d with
  | object ms =>
    obtain ⟨read, hread, hsame⟩ := map_eq_ok h
    exact ⟨ms, Value.object.inj hsame ▸ hread⟩
  | array surplus items =>
    obtain ⟨read, -, hsame⟩ := map_eq_ok h
    exact nomatch hsame
  | _ => exact nomatch h

/-- The names of an object that has been read ascend. -/
theorem ascending_of_ofText? {text : String} {members : List (String × Value)}
    (h : ofText? text = .ok (.object members)) : Table.Ascending members := by
  obtain ⟨ms, hread⟩ := exists_members (value?_of_ofText? h)
  exact ascending_of_values? .nil hread

theorem lookup_eq_some_iff {members : List (String × Value)} (h : Table.Ascending members)
    {key : String} {v : Value} : members.lookup key = some v ↔ (key, v) ∈ members := by
  replace h : (members.map (·.1)).Nodup := h.nodup
  induction members with
  | nil => simp
  | cons member rest ih =>
    obtain ⟨k, w⟩ := member
    obtain ⟨hk, hrest⟩ := List.nodup_cons.mp h
    rw [List.lookup_cons, List.mem_cons, Prod.mk.injEq]
    by_cases hkey : key = k
    · subst hkey
      have habsent : (key, v) ∉ rest := fun hmem => hk (List.mem_map.mpr ⟨_, hmem, rfl⟩)
      simp [habsent, eq_comm]
    · have hother : (key == k) = false := beq_false_of_ne hkey
      simp [hother, hkey, ih hrest]

/-- What is found under a name is the member of this name. -/
theorem get?_eq_some_iff {text : String} {v w : Value} {key : String} (h : ofText? text = .ok v) :
    v.get? key = some w ↔ ∃ members, v = .object members ∧ (key, w) ∈ members := by
  cases v with
  | object members =>
    rw [get?, lookup_eq_some_iff (ascending_of_ofText? h)]
    simp
  | _ => simp [get?]

end Value

end BookSync.Json
