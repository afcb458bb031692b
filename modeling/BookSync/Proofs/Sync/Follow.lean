/-
The copies follow the coordinator.

A listener keeps copies of the books by the events alone. It repeats the record
of an update, which leaves out removals without effect, or takes the book over
when its copy seems to have run ahead. Both ways lead to the same book if the
copy was equal before: `updated_eq_after`.

What a call changes it changes on both sides. For each contract either book and
copy agree after the call, or neither was touched (`Matched`), and this is kept
when calls are put together. `copies_follow` is what comes of it over a run:
whatever book is held, the copy is equal to it; and unless the books have been
cleared without an event, the copies are those of the books held and no others.
-/
import BookSync.Proofs.Sync.Run
import BookSync.Sync.Shared

namespace BookSync

namespace SharedBooks

/-! ### Following one event -/

theorem get?_observe_snapshot (s : SharedBooks) (book : Book) (symbol : String) :
    (s.observe (.snapshot book)).get? symbol =
      if book.symbol = symbol then some book else s.get? symbol :=
  s.books.get?_insert book.symbol symbol book

theorem get?_observe_update (s : SharedBooks) (u : Update) (symbol : String) :
    (s.observe (.update u)).get? symbol =
      if u.book.symbol = symbol then some (updated (s.get? u.book.symbol) u)
      else s.get? symbol :=
  s.books.get?_insert u.book.symbol symbol _

theorem get?_observe_reset (s : SharedBooks) (symbols : List String) (symbol : String) :
    (s.observe (.reset symbols)).get? symbol =
      if symbol ∈ symbols then none else s.get? symbol :=
  s.books.get?_foldl_erase symbols symbol

theorem observeAll_append (s : SharedBooks) (first second : List Event) :
    s.observeAll (first ++ second) = (s.observeAll first).observeAll second :=
  List.foldl_append

theorem observeAll_singleton (s : SharedBooks) (e : Event) : s.observeAll [e] = s.observe e := rfl

/-- A copy that is equal to the book before an update is equal to it after. -/
theorem updated_eq_after (book : Book) (batch : Batch) :
    updated (some book) (book.updateBy batch) = book.after batch := by
  rw [updated]
  split
  · show (book.replay (book.apply batch).2).advance batch.lastSeq = _
    rw [Book.replay_apply_snd]
    rfl
  · rfl

end SharedBooks

/-- The books went from those of `c` to those of `c'` while the copies went
from `s` to `s'`: each contract is in agreement or has not been touched. -/
def Matched (c : Coordinator) (s : SharedBooks) (c' : Coordinator) (s' : SharedBooks) : Prop :=
  ∀ symbol, s'.get? symbol = c'.book? symbol ∨
    (s'.get? symbol = s.get? symbol ∧ c'.book? symbol = c.book? symbol)

/-- The copies of a coordinator whose books stand under their own contracts. -/
structure Follows (s : SharedBooks) (c : Coordinator) : Prop where
  keyed : c.Keyed
  copied : ∀ symbol book, c.book? symbol = some book → s.get? symbol = some book

section

variable {c c' c'' : Coordinator} {s s' s'' : SharedBooks}

theorem Matched.refl (c : Coordinator) (s : SharedBooks) : Matched c s c s :=
  fun _ => Or.inr ⟨rfl, rfl⟩

theorem Matched.trans (h : Matched c s c' s') (h' : Matched c' s' c'' s'') :
    Matched c s c'' s'' := by
  intro symbol
  rcases h' symbol with h' | ⟨hs', hc'⟩
  · exact Or.inl h'
  · rcases h symbol with h | ⟨hs, hc⟩
    · exact Or.inl (hs'.trans (h.trans hc'.symm))
    · exact Or.inr ⟨hs'.trans hs, hc'.trans hc⟩

theorem Follows.of_matched (h : Follows s c) (hk : c'.Keyed) (hm : Matched c s c' s') :
    Follows s' c' := by
  refine ⟨hk, fun symbol book hb => ?_⟩
  rcases hm symbol with heq | ⟨hs, hc⟩
  · rw [heq, hb]
  · rw [hs]
    exact h.copied symbol book (hc ▸ hb)

/-! ### Each call is matched -/

theorem matched_install (c : Coordinator) (s : SharedBooks) (book : Book) :
    Matched c s (c.install book).1 (s.observeAll (c.install book).2.events) := by
  intro symbol
  rw [c.events_install, SharedBooks.observeAll_singleton, SharedBooks.get?_observe_snapshot,
    Coordinator.book?_install]
  by_cases h : book.symbol = symbol
  · rw [if_pos h, if_pos h]
    exact Or.inl rfl
  · rw [if_neg h, if_neg h]
    exact Or.inr ⟨rfl, rfl⟩

theorem matched_reset (c : Coordinator) (s : SharedBooks) (gapped : String) :
    Matched c s (c.reset gapped).1 (s.observeAll (c.reset gapped).2.2.events) := by
  intro symbol
  rw [c.events_reset, SharedBooks.observeAll_singleton, SharedBooks.get?_observe_reset,
    Coordinator.book?_reset]
  by_cases h : symbol ∈ c.clearedBy gapped
  · rw [if_pos h, if_pos h]
    exact Or.inl rfl
  · rw [if_neg h, if_neg h]
    exact Or.inr ⟨rfl, rfl⟩

theorem Follows.matched_applies (h : Follows s c) {batch : Batch}
    {r : Coordinator × Outcome × Effects} (happ : c.Applies batch r) :
    Matched c s r.1 (s.observeAll r.2.2.events) := by
  cases happ with
  | untracked => exact .refl c s
  | discarded => exact .refl c s
  | gapped => exact matched_reset c s batch.symbol
  | @committed book bridge hb =>
    intro symbol
    -- the copy was equal to `book`, and stays so when it repeats the record
    have hsymbol : (book.updateBy batch).book.symbol = batch.symbol := h.keyed _ book hb
    rw [c.events_commit, SharedBooks.observeAll_singleton, SharedBooks.get?_observe_update,
      Coordinator.book?_commit, hsymbol, h.copied _ _ hb, SharedBooks.updated_eq_after]
    by_cases hs : batch.symbol = symbol
    · rw [if_pos hs, if_pos hs]
      exact Or.inl rfl
    · rw [if_neg hs, if_neg hs]
      exact Or.inr ⟨rfl, rfl⟩

theorem Follows.matched_processes (h : Follows s c) {batch : Batch}
    {r : Coordinator × Except FetchError Outcome × Effects} (hp : c.Processes batch r) :
    Matched c s r.1 (s.observeAll r.2.2.events) := by
  have hfetched : Follows s (c.fetched batch.symbol) := ⟨h.keyed, h.copied⟩
  refine (hp.keeps (P := fun c' events => Matched c s c' (s.observeAll events) ∧
    Follows (s.observeAll events) c') [] ⟨.refl c s, h⟩ ⟨.refl c s, hfetched⟩ ?_ ?_).1
  · intro book _ _
    have hinstall := matched_install (c.fetched batch.symbol) s book
    exact ⟨hinstall, hfetched.of_matched (hfetched.keyed.install book) hinstall⟩
  · intro c' events r h happ
    obtain ⟨hmatched, hfollows⟩ := h
    have happly := hfollows.matched_applies happ
    rw [SharedBooks.observeAll_append]
    exact ⟨hmatched.trans happly, hfollows.of_matched (hfollows.keyed.applies happ) happly⟩

/-- Any call but a clearance is matched by its events. -/
theorem Follows.matched_perform (h : Follows s c) {call : Call} (hcall : call ≠ .clear) :
    Matched c s (c.perform call).1 (s.observeAll (c.perform call).2.events) := by
  cases call with
  | process batch => exact h.matched_processes (c.processes batch)
  | install book => exact matched_install c s book
  | apply batch => exact h.matched_applies (c.applies batch)
  | reset symbol => exact matched_reset c s symbol
  | clear => exact absurd rfl hcall

theorem Follows.perform (h : Follows s c) (call : Call) :
    Follows (s.observeAll (c.perform call).2.events) (c.perform call).1 := by
  by_cases hcall : call = .clear
  · subst hcall
    exact ⟨h.keyed.perform .clear, fun _ _ hb => absurd hb (by simp [Coordinator.perform])⟩
  · exact h.of_matched (h.keyed.perform call) (h.matched_perform hcall)

end

namespace Coordinator

/-- The copies of a listener who has heard everything from the start. -/
def copies (c : Coordinator) (calls : List Call) : SharedBooks :=
  SharedBooks.empty.observeAll (c.events calls)

/-- **The copies follow the coordinator.** After any calls each book that is
held has an equal copy. If the books were never cleared on the quiet, the
contracts with a copy are exactly those with a book. -/
theorem copies_follow (source : Source) (scope : ResetScope) (calls : List Call) :
    (∀ symbol book, ((new source scope).after calls).book? symbol = some book →
      ((new source scope).copies calls).get? symbol = some book) ∧
    (Call.clear ∉ calls → ∀ symbol,
      symbol ∈ ((new source scope).copies calls).books.names ↔
        symbol ∈ ((new source scope).after calls).books.names) := by
  have hrun := run_induction (c := new source scope)
    (P := fun c trace =>
      Follows (SharedBooks.empty.observeAll (trace.flatMap (·.2))) c ∧
        (Call.clear ∉ calls → ∀ symbol,
          (SharedBooks.empty.observeAll (trace.flatMap (·.2))).get? symbol = c.book? symbol))
    ⟨⟨keyed_new source scope, fun _ _ h => absurd h (by simp)⟩, fun _ _ => rfl⟩ calls ?_
  · refine ⟨hrun.1.copied, fun hclear symbol => ?_⟩
    rw [Table.mem_names_iff, Table.mem_names_iff]
    have heq := hrun.2 hclear symbol
    exact iff_of_eq (congrArg (fun book? => book?.isSome = true) heq)
  · intro c trace call hcall h
    obtain ⟨hfollows, hexact⟩ := h
    rw [List.flatMap_append, List.flatMap_singleton, SharedBooks.observeAll_append]
    refine ⟨hfollows.perform call, fun hclear symbol => ?_⟩
    have hne : call ≠ .clear := fun he => hclear (he ▸ hcall)
    rcases hfollows.matched_perform hne symbol with heq | ⟨hs, hc⟩
    · exact heq
    · rw [hs, hc]
      exact hexact hclear symbol

end Coordinator

end BookSync
