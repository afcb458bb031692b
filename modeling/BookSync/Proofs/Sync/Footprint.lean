/-
What a batch touches.

A batch that is applied has one of five outcomes. Each has its own account of what
has become of the books and the counts and of what has been told, and these agree
with each other (`Coordinator.Touches`):

* nothing at all, if there is no book for the batch;
* one count, if the snapshot already holds it;
* `Clears`: the books of the contracts that the outcome names, no other book and
  no level, if the batch leaves a gap;
* `Commits`: the book of its own contract, if it is the bridge or continues the
  stream.

`apply_touches` says that there is nothing else. The conditions of the accounts
exclude each other, so they also tell which outcome there is.
-/
import BookSync.Proofs.Sync.Run

namespace BookSync.Coordinator

variable {c : Coordinator} {batch : Batch}

/-- The account of a gap. The contracts that are named have lost their books, and
no other book has changed. -/
structure Clears (c : Coordinator) (batch : Batch) (cleared : List String) (c' : Coordinator)
    (events : List Event) : Prop where
  gap : ∃ book expected, c.book? batch.symbol = some book ∧
    book.check batch.firstSeq batch.lastSeq = .gap expected
  own : batch.symbol ∈ cleared
  ofGlobal : c.scope = .global → ∀ symbol, symbol ∈ cleared ↔ (c.book? symbol).isSome = true
  ofPerSymbol : c.scope = .perSymbol → cleared = [batch.symbol]
  ascending : cleared.Pairwise (· < ·)
  books : ∀ symbol, c'.book? symbol = if symbol ∈ cleared then none else c.book? symbol
  stats : c'.stats = { c.stats with resets := c.stats.resets + 1 }
  told : events = [.reset cleared]

/-- The account of a batch that its book has taken with a verdict. The book
follows the stream up to the end of the batch, and is told as it is held now. -/
structure Commits (c : Coordinator) (batch : Batch) (verdict : Verdict) (id : SequenceId)
    (c' : Coordinator) (events : List Event) : Prop where
  id_eq : id = batch.lastSeq
  own : ∃ old book, c.book? batch.symbol = some old ∧
    old.check batch.firstSeq batch.lastSeq = verdict ∧
    c'.book? batch.symbol = some book ∧ book.symbol = old.symbol ∧ book.state = .synced ∧
    book.cursor = batch.lastSeq ∧ (∀ side, book.side side = (old.apply batch).1.side side) ∧
    events = [.update ⟨book, (old.apply batch).2, batch.timestamp, batch.lastSeq, batch.raw⟩]
  others : ∀ symbol, symbol ≠ batch.symbol → c'.book? symbol = c.book? symbol
  stats : c'.stats = { c.stats with batchesApplied := c.stats.batchesApplied + 1 }

/-- The account of each outcome: what has led to it, what has become of the
coordinator, and what has been told. -/
def Touches (c : Coordinator) (batch : Batch) : Outcome → Coordinator → List Event → Prop
  | .untracked, c', events => c.book? batch.symbol = none ∧ c' = c ∧ events = []
  | .discarded, c', events =>
    (∃ book, c.book? batch.symbol = some book ∧
      book.check batch.firstSeq batch.lastSeq = .discard) ∧
    c'.books = c.books ∧ events = [] ∧
    c'.stats = { c.stats with staleDiscarded := c.stats.staleDiscarded + 1 }
  | .reset cleared, c', events => c.Clears batch cleared c' events
  | .bridged id, c', events => c.Commits batch .bridge id c' events
  | .applied id, c', events => c.Commits batch .apply id c' events

/-! ### Gaps -/

theorem mem_clearedBy_iff_of_global (h : c.scope = .global) {gapped symbol : String} :
    symbol ∈ c.clearedBy gapped ↔ (c.book? symbol).isSome = true := by
  rw [clearedBy, h]
  exact Table.mem_names_iff c.books symbol

theorem clearedBy_of_perSymbol (h : c.scope = .perSymbol) {symbol : String}
    (hb : (c.book? symbol).isSome = true) : c.clearedBy symbol = [symbol] := by
  rw [clearedBy, h]
  exact if_pos hb

theorem clears_resetOnGap {book : Book} {expected : SequenceId}
    (hb : c.book? batch.symbol = some book)
    (hv : book.check batch.firstSeq batch.lastSeq = .gap expected) :
    c.Clears batch (c.clearedBy batch.symbol) (c.resetOnGap book batch expected).1
      (c.resetOnGap book batch expected).2.2.events := by
  have hsome : (c.book? batch.symbol).isSome = true := by rw [hb]; rfl
  exact
    { gap := ⟨book, expected, hb, hv⟩
      own := c.mem_clearedBy_self hsome
      ofGlobal := fun h _ => mem_clearedBy_iff_of_global h
      ofPerSymbol := fun h => clearedBy_of_perSymbol h hsome
      ascending := c.ascending_clearedBy batch.symbol
      books := c.book?_reset batch.symbol
      stats := rfl
      told := rfl }

/-! ### Batches that are taken -/

theorem commits_commit {book : Book} {bridge : Bool} {verdict : Verdict}
    (hb : c.book? batch.symbol = some book)
    (hv : book.check batch.firstSeq batch.lastSeq = verdict) :
    c.Commits batch verdict batch.lastSeq (c.commit book batch bridge).1
      (c.commit book batch bridge).2.2.events := by
  have hown : (c.commit book batch bridge).1.book? batch.symbol = some (book.after batch) := by
    rw [book?_commit, if_pos rfl]
  refine
    { id_eq := rfl
      own := ⟨book, book.after batch, hb, hv, hown, rfl, rfl, rfl, fun side => ?_,
        c.events_commit book batch bridge⟩
      others := fun symbol hsymbol => ?_
      stats := rfl }
  · rw [Book.side_after, Book.side_apply]
  · rw [book?_commit, if_neg hsymbol.symm]

/-! ### All outcomes -/

theorem Applies.touches {r : Coordinator × Outcome × Effects} (h : c.Applies batch r) :
    c.Touches batch r.2.1 r.1 r.2.2.events := by
  cases h with
  | untracked hb => exact ⟨hb, rfl, rfl⟩
  | @discarded book hb hs hle =>
    exact ⟨⟨book, hb, Verdict.evaluate_eq_discard_iff.mpr ⟨hs, hle⟩⟩, rfl, rfl, rfl⟩
  | gapped hb hv => exact clears_resetOnGap hb hv
  | committed bridge hb hv =>
    cases bridge with
    | true => exact commits_commit hb hv
    | false => exact commits_commit hb hv

/-- **What applying a batch touches.** The outcome, the books, the counts and the
events agree in every case, and beyond this nothing has changed. Books are listed
in ascending order of their names, and so is what a reset drops. -/
theorem apply_touches (c : Coordinator) (batch : Batch) :
    c.Touches batch (c.apply batch).2.1 (c.apply batch).1 (c.apply batch).2.2.events ∧
      (c.apply batch).1.scope = c.scope ∧ (c.apply batch).1.fetcher = c.fetcher ∧
      c.books.names.Pairwise (· < ·) := by
  have happ := c.applies batch
  exact ⟨happ.touches, happ.scope_eq, happ.fetcher_eq, c.books.ascending⟩

end BookSync.Coordinator
