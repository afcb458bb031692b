/-
A stream without losses heals a book.

Whatever has happened before, batches of a contract that follow each other
without a loss lead its book back into the stream. At most the first of them is
answered with a reset, and at most one snapshot is fetched on the way, provided
that the snapshot is not too old for the batch that asks for it.

* `Book.Ready`: what a book must be like for a change to be the next one. A book
  that awaits its bridge may lie ahead of the stream, one that follows it not;
* `Applies.joins`: the step, a book that is ready for a batch takes it and is
  ready for what comes behind it;
* `Ready.joins_all`: the run, from a book that is ready on;
* `heals`: the way to such a book, from any state.

A reset leaves no book, so that the next batch fetches one; and a fetched book
is ready for the batch that has asked for it. This is why two batches are enough.
-/
import BookSync.Proofs.Sync.Protocol

namespace BookSync

/-! ### Streams without losses -/

/-- Batches of a contract, each starting right behind the one before. -/
structure Lossless (symbol : String) (batches : List Batch) : Prop where
  symbol : ∀ batch ∈ batches, batch.symbol = symbol
  inOrder : ∀ batch ∈ batches, batch.InOrder
  next : batches.IsChain fun a b => b.firstSeq.toNat = a.lastSeq.toNat + 1

theorem Lossless.tail {symbol : String} {batch : Batch} {rest : List Batch}
    (h : Lossless symbol (batch :: rest)) : Lossless symbol rest where
  symbol b hb := h.symbol b (List.mem_cons_of_mem batch hb)
  inOrder b hb := h.inOrder b (List.mem_cons_of_mem batch hb)
  next := h.next.tail

/-- The batch has been dropped as stale, or its book is now at its end. -/
def Batch.Joins (batch : Batch) (result : Except FetchError Outcome) : Prop :=
  result = .ok .discarded ∨ result = .ok (.bridged batch.lastSeq) ∨
    result = .ok (.applied batch.lastSeq)

/-! ### Books that are ready for a change -/

/-- The change `n` is the next one for the book, or one that its snapshot
already holds. -/
def Book.Ready (book : Book) (n : ℕ) : Prop :=
  match book.state with
  | .awaitingBridge => n ≤ book.cursor.toNat + 1
  | .synced => n = book.cursor.toNat + 1

theorem Book.ready_of_awaitingBridge {book : Book} {n : ℕ} (hs : book.state = .awaitingBridge)
    (h : n ≤ book.cursor.toNat + 1) : book.Ready n := by
  rw [Ready, hs]
  exact h

theorem Book.ready_of_synced {book : Book} {n : ℕ} (hs : book.state = .synced)
    (h : n = book.cursor.toNat + 1) : book.Ready n := by
  rw [Ready, hs]
  exact h

/-- Where a book stands that is ready for the change behind `id`. -/
theorem Book.Ready.cursor {book : Book} {id : SequenceId} (h : book.Ready (id.toNat + 1)) :
    (book.state = .synced ∧ book.cursor = id) ∨
      (book.state = .awaitingBridge ∧ id ≤ book.cursor) := by
  rw [Ready] at h
  cases hs : book.state with
  | awaitingBridge =>
    rw [hs] at h
    exact Or.inr ⟨rfl, UInt64.le_iff_toNat_le.mpr (Nat.le_of_succ_le_succ h)⟩
  | synced =>
    rw [hs] at h
    exact Or.inl ⟨rfl, UInt64.toNat_inj.mp (Nat.succ_injective h).symm⟩

/-- A batch leaves no gap behind a book that is ready for it. -/
theorem Book.Ready.check_ne_gap {book : Book} {batch : Batch} {expected : SequenceId}
    (h : book.Ready batch.firstSeq.toNat) (hb : batch.InOrder) :
    book.check batch.firstSeq batch.lastSeq ≠ .gap expected := by
  intro hgap
  have hle := UInt64.le_iff_toNat_le.mp hb.1
  have hlast := hb.2
  -- the batch ends before the greatest id, so that `next` is the successor here
  have hnext := Verdict.toNat_next book.cursor
  rw [Ready] at h
  rcases (Verdict.evaluate_eq_gap_iff.mp hgap).2 with ⟨hs, -, hfirst⟩ | ⟨hs, hne⟩
  · rw [hs] at h
    dsimp only at h
    omega
  · rw [hs] at h
    dsimp only at h
    rw [ne_eq, ← UInt64.toNat_inj] at hne
    omega

namespace Coordinator

variable {c : Coordinator} {batch : Batch}

/-- The coordinator holds a book that is ready for the change `n`. -/
def Ready (c : Coordinator) (symbol : String) (n : ℕ) : Prop :=
  ∃ book, c.book? symbol = some book ∧ book.Ready n

/-- If the batch has to fetch, then the answer is a snapshot of its contract that
awaits its bridge, and the batch leaves no gap behind it. -/
def Serves (c : Coordinator) (batch : Batch) : Prop :=
  c.book? batch.symbol = none → ∃ book, c.answer batch.symbol = .ok book ∧
    book.symbol = batch.symbol ∧ book.state = .awaitingBridge ∧
    batch.firstSeq.toNat ≤ book.cursor.toNat + 1

/-- The fetches of a run are served. -/
def ServesAll (c : Coordinator) : List Batch → Prop
  | [] => True
  | batch :: rest => c.Serves batch ∧ (c.process batch).1.ServesAll rest

/-! ### One batch -/

/-- A batch that finds a book joins it, or is answered with a reset. -/
theorem Applies.joins_or_resets {r : Coordinator × Outcome × Effects} {book : Book}
    (happ : c.Applies batch r) (hbook : c.book? batch.symbol = some book) :
    (batch.Joins (.ok r.2.1) ∧ r.1.Ready batch.symbol (batch.lastSeq.toNat + 1)) ∨
      ((∃ expected, book.check batch.firstSeq batch.lastSeq = .gap expected) ∧
        (∃ cleared, r.2.1 = .reset cleared) ∧ r.1.book? batch.symbol = none) := by
  cases happ with
  | untracked hb => exact absurd (hb.symm.trans hbook) (by simp)
  | @discarded book' hb hs hle =>
    exact Or.inl ⟨Or.inl rfl, book', hb, Book.ready_of_awaitingBridge hs (Nat.succ_le_succ hle)⟩
  | @gapped book' expected hb hv =>
    obtain rfl := Option.some_inj.mp (hb.symm.trans hbook)
    refine Or.inr ⟨⟨expected, hv⟩, ⟨c.clearedBy batch.symbol, rfl⟩, ?_⟩
    rw [(c.resetOnGap_eq book' batch expected).1]
    exact c.book?_reset_self (by rw [hb]; rfl)
  | @committed book' bridge hb hv =>
    have houtcome : batch.Joins (.ok (c.commit book' batch bridge).2.1) := by
      cases bridge with
      | true => exact Or.inr (Or.inl rfl)
      | false => exact Or.inr (Or.inr rfl)
    refine Or.inl ⟨houtcome, book'.after batch, ?_, Book.ready_of_synced rfl rfl⟩
    rw [book?_commit, if_pos rfl]

/-- **The step.** A book that is ready for a batch takes it and is ready for
the change behind it. -/
theorem Applies.joins {r : Coordinator × Outcome × Effects} (happ : c.Applies batch r)
    (h : c.Ready batch.symbol batch.firstSeq.toNat) (hin : batch.InOrder) :
    batch.Joins (.ok r.2.1) ∧ r.1.Ready batch.symbol (batch.lastSeq.toNat + 1) := by
  obtain ⟨book, hbook, hready⟩ := h
  rcases happ.joins_or_resets hbook with hjoins | ⟨⟨expected, hgap⟩, -⟩
  · exact hjoins
  · exact absurd hgap (hready.check_ne_gap hin)

/-- A batch for a contract without a book joins the snapshot that it fetches. -/
theorem joins_of_book?_eq_none (hnone : c.book? batch.symbol = none) (hs : c.Serves batch)
    (hin : batch.InOrder) :
    batch.Joins (c.process batch).2.1 ∧
      (c.process batch).1.Ready batch.symbol (batch.lastSeq.toNat + 1) ∧
      (c.process batch).1.fetcher.fetched = c.fetcher.fetched ++ [batch.symbol] := by
  obtain ⟨book, hanswer, hsymbol, hstate, hfirst⟩ := hs hnone
  have hfetched : (c.process batch).1.fetcher.fetched = c.fetcher.fetched ++ [batch.symbol] :=
    fetched_process_of_book?_eq_none hnone rfl
  have hp := c.processes batch
  generalize c.process batch = r at hp hfetched
  cases hp with
  | tracked hb => exact absurd (hnone.symm.trans hb) (by simp)
  | failed _ ha => exact absurd (hanswer.symm.trans ha) (by simp)
  | fetched _ ha happ =>
    obtain rfl := Except.ok.inj (hanswer.symm.trans ha)
    have hready : ((c.fetched batch.symbol).install book).1.Ready batch.symbol
        batch.firstSeq.toNat := by
      refine ⟨book, ?_, Book.ready_of_awaitingBridge hstate hfirst⟩
      rw [book?_install, if_pos hsymbol]
    obtain ⟨hjoins, hnext⟩ := happ.joins hready hin
    exact ⟨hjoins, hnext, hfetched⟩

/-- A batch that finds a book is applied to it without a fetch. -/
theorem applies_of_book?_eq_some {book : Book} (hbook : c.book? batch.symbol = some book) :
    ∃ r, c.Applies batch r ∧ c.process batch = (r.1, .ok r.2.1, r.2.2) := by
  have hp := c.processes batch
  generalize c.process batch = r at hp
  cases hp with
  | @tracked _ r _ happ => exact ⟨r, happ, rfl⟩
  | failed hb => exact absurd (hb.symm.trans hbook) (by simp)
  | fetched hb => exact absurd (hb.symm.trans hbook) (by simp)

/-- A batch that may fetch joins a book, or has found one and left none. -/
theorem joins_or_resets (hs : c.Serves batch) (hin : batch.InOrder) :
    (batch.Joins (c.process batch).2.1 ∧
        (c.process batch).1.Ready batch.symbol (batch.lastSeq.toNat + 1) ∧
        ((c.process batch).1.fetcher.fetched = c.fetcher.fetched ∨
          (c.process batch).1.fetcher.fetched = c.fetcher.fetched ++ [batch.symbol])) ∨
      ((∃ cleared, (c.process batch).2.1 = .ok (.reset cleared)) ∧
        (c.process batch).1.book? batch.symbol = none ∧
        (c.process batch).1.fetcher.fetched = c.fetcher.fetched) := by
  cases hb : c.book? batch.symbol with
  | none =>
    obtain ⟨hjoins, hready, hfetched⟩ := joins_of_book?_eq_none hb hs hin
    exact Or.inl ⟨hjoins, hready, Or.inr hfetched⟩
  | some book =>
    obtain ⟨r, happ, hprocess⟩ := applies_of_book?_eq_some hb
    have hfetched : r.1.fetcher.fetched = c.fetcher.fetched := by rw [happ.fetcher_eq]
    rw [hprocess]
    rcases happ.joins_or_resets hb with ⟨hjoins, hready⟩ | ⟨-, ⟨cleared, hcleared⟩, hnone⟩
    · exact Or.inl ⟨hjoins, hready, Or.inl hfetched⟩
    · exact Or.inr ⟨⟨cleared, congrArg Except.ok hcleared⟩, hnone, hfetched⟩

/-! ### Many batches -/

/-- **The run.** Once a book is ready for them, batches without losses join it
one after the other, and nothing is fetched. The book is ready when the batch
`last` has been taken. -/
theorem Ready.joins_all {symbol : String} {last : Batch} {rest : List Batch}
    (h : c.Ready symbol (last.lastSeq.toNat + 1)) (hl : Lossless symbol (last :: rest)) :
    (∀ entry ∈ c.results rest, entry.1.Joins entry.2) ∧
      (c.after (rest.map .process)).fetcher.fetched = c.fetcher.fetched ∧
      (c.after (rest.map .process)).Ready symbol
        (((last :: rest).getLast (List.cons_ne_nil last rest)).lastSeq.toNat + 1) := by
  induction rest generalizing c last with
  | nil => exact ⟨fun _ he => absurd he List.not_mem_nil, rfl, h⟩
  | cons batch rest ih =>
    have hin : batch.InOrder := hl.tail.inOrder batch List.mem_cons_self
    have hsymbol : batch.symbol = symbol := hl.tail.symbol batch List.mem_cons_self
    have hfirst : batch.firstSeq.toNat = last.lastSeq.toNat + 1 :=
      (List.isChain_cons_cons.mp hl.next).1
    rw [← hfirst, ← hsymbol] at h
    obtain ⟨book, hbook, -⟩ := id h
    obtain ⟨r, happ, hprocess⟩ := applies_of_book?_eq_some hbook
    obtain ⟨hjoins, hnext⟩ := happ.joins h hin
    rw [hsymbol] at hnext
    obtain ⟨hresults, hfetched, hready⟩ := ih hnext hl.tail
    have hafter : c.after ((batch :: rest).map .process) = r.1.after (rest.map .process) := by
      show (c.process batch).1.after (rest.map .process) = _
      rw [hprocess]
    rw [hafter]
    refine ⟨fun entry he => ?_, ?_, hready⟩
    · rw [results, hprocess] at he
      rcases List.mem_cons.mp he with rfl | he
      · exact hjoins
      · exact hresults entry he
    · rw [hfetched, happ.fetcher_eq]

/-- **A stream without losses heals a book.** From any state, two or more
batches that follow each other bring the book of their contract back, to the
end of the last batch or to a snapshot beyond it. Only the first batch may be
answered with a reset, and one fetch is enough. -/
theorem heals (c : Coordinator) {symbol : String} {first : Batch} {rest : List Batch}
    (hrest : rest ≠ []) (hl : Lossless symbol (first :: rest))
    (hs : c.ServesAll (first :: rest)) :
    let healed := c.after ((first :: rest).map .process)
    (healed.fetcher.fetched = c.fetcher.fetched ∨
      healed.fetcher.fetched = c.fetcher.fetched ++ [symbol]) ∧
    (first.Joins (c.process first).2.1 ∨ ∃ cleared, (c.process first).2.1 = .ok (.reset cleared)) ∧
    (∀ entry ∈ (c.process first).1.results rest, entry.1.Joins entry.2) ∧
    ∃ book, healed.book? symbol = some book ∧
      ((book.state = .synced ∧ book.cursor = (rest.getLast hrest).lastSeq) ∨
        (book.state = .awaitingBridge ∧ (rest.getLast hrest).lastSeq ≤ book.cursor)) := by
  intro healed
  have hin : first.InOrder := hl.inOrder first List.mem_cons_self
  have hsymbol : first.symbol = symbol := hl.symbol first List.mem_cons_self
  rcases joins_or_resets hs.1 hin with ⟨hjoins, hready, hfetched⟩ | ⟨hreset, hnone, hfetched⟩
  · -- the book is ready for all that follows, and nothing more is fetched
    rw [hsymbol] at hready hfetched
    obtain ⟨hresults, hrestFetched, book, hbook, hend⟩ := hready.joins_all hl
    rw [List.getLast_cons hrest] at hend
    rw [← hrestFetched] at hfetched
    exact ⟨hfetched, Or.inl hjoins, hresults, book, hbook, hend.cursor⟩
  · -- the book is gone, so the second batch fetches one that it can join
    obtain ⟨second, more, rfl⟩ := List.exists_cons_of_ne_nil hrest
    have hsecond : second.symbol = symbol := hl.tail.symbol second List.mem_cons_self
    rw [hsymbol, ← hsecond] at hnone
    obtain ⟨hjoins, hready, hfetch⟩ := joins_of_book?_eq_none hnone hs.2.1
      (hl.tail.inOrder second List.mem_cons_self)
    rw [hsecond, hfetched] at hfetch
    rw [hsecond] at hready
    obtain ⟨hresults, hrestFetched, book, hbook, hend⟩ := hready.joins_all hl.tail
    rw [hfetch] at hrestFetched
    refine ⟨Or.inr hrestFetched, Or.inr hreset, fun entry he => ?_, book, hbook, hend.cursor⟩
    rcases List.mem_cons.mp he with rfl | he
    · exact hjoins
    · exact hresults entry he

end Coordinator

/-! ### A book that has been left behind -/

/-- A source that answers with empty books, first at step 5 and then at step 30. -/
def lateSource : Source where
  answer symbol k := .ok (.empty symbol (if k = 0 then 5 else 30))
  pending _ _ := 0

/-- A coordinator whose book follows the stream up to step 7. -/
def leftBehind : Coordinator :=
  (Coordinator.new lateSource .global).after [.process (gapBatch 6 7)]

/-- Batches behind a loss: a reset, a stale batch, the bridge, and one more. -/
def lateBatches : List Batch := [gapBatch 20 21, gapBatch 22 30, gapBatch 31 32, gapBatch 33 33]

open Coordinator in
theorem heals_leftBehind :
    Lossless "X" lateBatches ∧ leftBehind.ServesAll lateBatches ∧
      (leftBehind.process (gapBatch 20 21)).2.1 = .ok (.reset ["X"]) ∧
      ∃ book, (leftBehind.after (lateBatches.map .process)).book? "X" = some book ∧
        ((book.state = .synced ∧ book.cursor = 33) ∨
          (book.state = .awaitingBridge ∧ 33 ≤ book.cursor)) := by
  have hl : Lossless "X" lateBatches := by
    refine ⟨?_, ?_, ?_⟩
    · simp [lateBatches, gapBatch]
    · simp only [lateBatches, List.forall_mem_cons]
      decide
    · simp [lateBatches, gapBatch]
  have hs : leftBehind.ServesAll lateBatches := by
    refine ⟨fun h => absurd h (by decide), fun _ => ⟨_, rfl, rfl, rfl, by decide⟩,
      fun h => absurd h (by decide), fun h => absurd h (by decide), trivial⟩
  refine ⟨hl, hs, rfl, ?_⟩
  exact (heals leftBehind (by simp) hl hs).2.2.2

end BookSync
