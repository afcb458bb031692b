/-
Results that may be errors.

A computation in steps succeeds only if each of its steps does. The facts here
take a success apart: `bind_eq_ok` and `map_eq_ok` into its steps,
`mapError_eq_ok` past a change of the error, and `mapM_eq_ok_iff` into the
entries of a list. A failure is the failure of one step behind others that have
succeeded (`bind_eq_error_iff`, `map_eq_error_iff`), or the image of one
(`mapError_eq_error_iff`).
-/
import Mathlib.Data.List.Forall2

namespace BookSync

theorem ok_bind {ε α β : Type} (a : α) (f : α → Except ε β) : (.ok a >>= f) = f a := rfl

theorem error_bind {ε α β : Type} (e : ε) (f : α → Except ε β) :
    (.error e >>= f) = .error e := rfl

theorem bind_eq_ok {ε α β : Type} {x : Except ε α} {f : α → Except ε β} {b : β}
    (h : x >>= f = .ok b) : ∃ a, x = .ok a ∧ f a = .ok b := by
  cases x with
  | error e => exact nomatch (show Except.error e = .ok b from h)
  | ok a => exact ⟨a, rfl, h⟩

theorem map_eq_ok {ε α β : Type} {x : Except ε α} {f : α → β} {b : β}
    (h : x.map f = .ok b) : ∃ a, x = .ok a ∧ f a = b := by
  cases x with
  | error e => exact nomatch (show Except.error e = .ok b from h)
  | ok a => exact ⟨a, rfl, Except.ok.inj h⟩

theorem map_eq_error_iff {ε α β : Type} {x : Except ε α} {f : α → β} {e : ε} :
    x.map f = .error e ↔ x = .error e := by
  cases x with
  | error e' =>
    show Except.error e' = .error e ↔ _
    simp
  | ok a =>
    show Except.ok (f a) = .error e ↔ _
    simp

theorem mapError_eq_ok {ε δ α : Type} {x : Except ε α} {f : ε → δ} {a : α}
    (h : x.mapError f = .ok a) : x = .ok a := by
  cases x with
  | error e => exact nomatch (show Except.error (f e) = .ok a from h)
  | ok a' => rw [Except.ok.inj h]

theorem bind_eq_error_iff {ε α β : Type} {x : Except ε α} {f : α → Except ε β} {e : ε} :
    x >>= f = .error e ↔ x = .error e ∨ ∃ a, x = .ok a ∧ f a = .error e := by
  cases x with
  | error e' =>
    show Except.error e' = .error e ↔ _
    simp
  | ok a =>
    show f a = .error e ↔ _
    simp

theorem mapError_eq_error_iff {ε δ α : Type} {x : Except ε α} {f : ε → δ} {d : δ} :
    x.mapError f = .error d ↔ ∃ e, x = .error e ∧ f e = d := by
  cases x with
  | error e =>
    show Except.error (f e) = .error d ↔ _
    simp
  | ok a =>
    show Except.ok a = .error d ↔ _
    simp

/-- A list is read if all its entries are, each as one value, in order. -/
theorem mapM_eq_ok_iff {ε α β : Type} {f : α → Except ε β} {as : List α} {bs : List β} :
    as.mapM f = .ok bs ↔ List.Forall₂ (fun a b => f a = .ok b) as bs := by
  induction as generalizing bs with
  | nil =>
    show Except.ok [] = .ok bs ↔ _
    rw [Except.ok.injEq, List.forall₂_nil_left_iff, eq_comm]
  | cons first rest ih =>
    rw [List.mapM_cons, List.forall₂_cons_left_iff]
    constructor
    · intro h
      obtain ⟨b, hb, h⟩ := bind_eq_ok h
      obtain ⟨bs', hbs', h⟩ := bind_eq_ok h
      exact ⟨b, bs', hb, ih.mp hbs', (Except.ok.inj h).symm⟩
    · rintro ⟨b, bs', hb, hbs', rfl⟩
      rw [hb, ok_bind, ih.mpr hbs', ok_bind]
      rfl

theorem exists_of_forall₂ {α β : Type} {R : α → β → Prop} {as : List α} {bs : List β}
    (h : List.Forall₂ R as bs) : ∀ a ∈ as, ∃ b ∈ bs, R a b := by
  induction h with
  | nil => simp
  | @cons a b as bs hab _ ih =>
    intro x hx
    rcases List.mem_cons.mp hx with rfl | hx
    · exact ⟨b, List.mem_cons_self, hab⟩
    · obtain ⟨y, hy, hxy⟩ := ih x hx
      exact ⟨y, List.mem_cons_of_mem b hy, hxy⟩

/-- Every entry has been read. -/
theorem exists_of_mapM_eq_ok {ε α β : Type} {f : α → Except ε β} {as : List α} {bs : List β}
    (h : as.mapM f = .ok bs) : ∀ a ∈ as, ∃ b ∈ bs, f a = .ok b :=
  exists_of_forall₂ (mapM_eq_ok_iff.mp h)

/-- Every value comes from an entry. -/
theorem exists_of_mem_mapM {ε α β : Type} {f : α → Except ε β} {as : List α} {bs : List β}
    (h : as.mapM f = .ok bs) : ∀ b ∈ bs, ∃ a ∈ as, f a = .ok b :=
  exists_of_forall₂ (mapM_eq_ok_iff.mp h).flip

/-- A list that is walked twice: the second walk begins only if the first one comes
to its end. -/
theorem mapM_mapM_eq_ok_iff {ε α β γ : Type} {f : α → Except ε β} {g : β → Except ε γ}
    {as : List α} {cs : List γ} :
    (as.mapM f >>= fun bs => bs.mapM g) = .ok cs ↔
      List.Forall₂ (fun a c => ∃ b, f a = .ok b ∧ g b = .ok c) as cs := by
  constructor
  · intro h
    obtain ⟨bs, hbs, hcs⟩ := bind_eq_ok h
    have hfirst := mapM_eq_ok_iff.mp hbs
    have hsecond := mapM_eq_ok_iff.mp hcs
    clear h hbs hcs
    induction hfirst generalizing cs with
    | nil =>
      obtain rfl := List.forall₂_nil_left_iff.mp hsecond
      exact .nil
    | @cons a b as bs hab _ ih =>
      obtain ⟨c, cs', hbc, hrest, rfl⟩ := List.forall₂_cons_left_iff.mp hsecond
      exact .cons ⟨b, hab, hbc⟩ (ih hrest)
  · intro h
    have hwalks : ∃ bs, as.mapM f = .ok bs ∧ bs.mapM g = .ok cs := by
      induction h with
      | nil => exact ⟨[], rfl, rfl⟩
      | @cons a c as cs hac _ ih =>
        obtain ⟨b, hab, hbc⟩ := hac
        obtain ⟨bs, hbs, hcs⟩ := ih
        refine ⟨b :: bs, ?_, ?_⟩
        · exact mapM_eq_ok_iff.mpr (.cons hab (mapM_eq_ok_iff.mp hbs))
        · exact mapM_eq_ok_iff.mpr (.cons hbc (mapM_eq_ok_iff.mp hcs))
    obtain ⟨bs, hbs, hcs⟩ := hwalks
    rw [hbs, ok_bind, hcs]

end BookSync
