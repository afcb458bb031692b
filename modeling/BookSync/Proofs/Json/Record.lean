/-
What a record takes from a value.

The fields of a record are described one by one, and a record is built if each of them
is. Which part of a value a field gets is told by its name in an object and by its place
in a list:

* `map_build`, `seq_build`, `required_build`: a record that has been built, taken apart;
* `FirstField`: what a value has for the first field of a record;
* `exists_given_of_record`: the first field gets nothing else.
-/
import BookSync.Json.Fields
import BookSync.Proofs.Results

namespace BookSync.Json

/-! ### Fields -/

namespace Fields

variable {α β : Type} {given : String → Option Draft} {missing : String → Fault}

theorem map_build {f : α → β} {x : Fields α} {b : β} (h : (f <$> x).build given missing = .ok b) :
    ∃ a, x.build given missing = .ok a ∧ f a = b :=
  map_eq_ok h

theorem seq_build {f : Fields (α → β)} {x : Fields α} {b : β}
    (h : (f <*> x).build given missing = .ok b) :
    ∃ g a, f.build given missing = .ok g ∧ x.build given missing = .ok a ∧ g a = b := by
  obtain ⟨g, hg, h⟩ := bind_eq_ok h
  obtain ⟨a, ha, h⟩ := bind_eq_ok h
  exact ⟨g, a, hg, ha, Except.ok.inj h⟩

theorem required_build {name : String} {decode : Decoder α} {a : α}
    (h : (required name decode).build given missing = .ok a) :
    ∃ d, given name = some d ∧ decode d = .ok a := by
  dsimp only [required] at h
  split at h
  · rename_i d hd
    exact ⟨d, hd, h⟩
  · simp at h

end Fields

/-! ### Parts of a value -/

/-- The second value is what the first has for the first field of a record: the member of its
name, or the first item. -/
inductive Value.FirstField (name : String) : Value → Value → Prop
  | member {members : List (String × Value)} {w : Value} (h : (name, w) ∈ members) :
      FirstField name (.object members) w
  | item (w : Value) (rest : List Value) : FirstField name (.array (w :: rest)) w

section

variable {entries : List (String × (Draft → Option Fault))} {done done' : Assigned}
  {name : String} {d : Draft}

/-- What is assigned to a field by name is a member of this name. -/
theorem of_assign_members {members : List (String × Value)}
    (h : (Value.toMembers members).assign entries done = .ok done')
    (hd : done'.lookup name = some d) :
    done.lookup name = some d ∨ ∃ w, (name, w) ∈ members ∧ w.toDraft = d := by
  induction members generalizing done with
  | nil =>
    obtain rfl := Except.ok.inj h
    exact Or.inl hd
  | cons member rest ih =>
    obtain ⟨key, v⟩ := member
    rw [Value.toMembers, Members.assign, ok_bind] at h
    have hrest : ∀ {done}, (Value.toMembers rest).assign entries done = .ok done' →
        done.lookup name = some d ∨ ∃ w, (name, w) ∈ (key, v) :: rest ∧ w.toDraft = d := by
      intro done h
      exact (ih h).imp_right fun ⟨w, hw, hwd⟩ => ⟨w, List.mem_cons_of_mem _ hw, hwd⟩
    split at h
    · split at h
      · simp at h
      · exact hrest h
    · split at h
      · simp at h
      · split at h
        · simp at h
        · rcases hrest h with hfound | hfound
          · rw [List.lookup_cons] at hfound
            split at hfound
            · rename_i heq
              obtain rfl := eq_of_beq heq
              exact Or.inr ⟨v, List.mem_cons_self, Option.some_inj.mp hfound⟩
            · exact Or.inl hfound
          · exact Or.inr hfound

/-- What is assigned to the first field by its place is the first item. -/
theorem of_assign_items {check : Draft → Option Fault} {items : List Value} {left : Items}
    (h : Items.assign ((name, check) :: entries) (Value.toItems items) = .ok (done, left))
    (hd : done.lookup name = some d) : ∃ w rest, items = w :: rest ∧ w.toDraft = d := by
  cases items with
  | nil =>
    obtain ⟨rfl, -⟩ := Prod.mk.inj (Except.ok.inj h)
    simp at hd
  | cons w rest =>
    rw [Value.toItems, Items.assign] at h
    split at h
    · simp at h
    · obtain ⟨⟨tail, left'⟩, -, h⟩ := bind_eq_ok h
      obtain ⟨rfl, -⟩ := Prod.mk.inj (Except.ok.inj h)
      rw [List.lookup_cons_self] at hd
      exact ⟨w, rest, rfl, Option.some_inj.mp hd⟩

end

/-- **The first field of a record.** A record that is read from a value is built of what its
fields have been given, and its first field has been given what the value has for it. -/
theorem exists_given_of_record {α : Type} {record name : String} {fields : Fields α}
    {check : Draft → Option Fault} {rest : List (String × (Draft → Option Fault))}
    (hentries : fields.entries = (name, check) :: rest) {v : Value} {a : α}
    (h : Decoder.record record fields v.toDraft = .ok a) :
    ∃ given missing, fields.build given missing = .ok a ∧
      ∀ d, given name = some d → ∃ w, v.FirstField name w ∧ w.toDraft = d := by
  cases v with
  | object members =>
    obtain ⟨done, hdone, h⟩ := bind_eq_ok h
    refine ⟨_, _, h, fun d hd => ?_⟩
    rcases of_assign_members hdone hd with hnone | ⟨w, hw, hwd⟩
    · simp at hnone
    · exact ⟨w, .member hw, hwd⟩
  | array items =>
    rw [Value.toDraft, Decoder.record] at h
    obtain ⟨⟨done, left⟩, hdone, h⟩ := bind_eq_ok h
    obtain ⟨a', ha, h⟩ := bind_eq_ok h
    rw [hentries] at hdone
    have heq : a' = a := by
      split at h
      · simp at h
      · exact Except.ok.inj h
    refine ⟨_, _, heq ▸ ha, fun d hd => ?_⟩
    obtain ⟨w, rest, rfl, hwd⟩ := of_assign_items hdone hd
    exact ⟨w, .item w rest, hwd⟩
  | null | bool _ | number _ | text _ => simp [Value.toDraft, Decoder.record] at h

end BookSync.Json
