/-
The books that are held, and the snapshots that they come from.

Books are made of snapshots and changed by batches and records, and there is no
other way to come by one (`Book.Built`). Each such book is tidy: sizes are
positive, no price stands twice, and the levels are strictly best first
(`Built.tidy`).

A book that awaits its bridge has not been changed at all. It is the book that
was last installed for its contract, however many batches have been dropped
since; `Coordinator.installed` lists what calls install.

* `Held`: the invariant that says both of the books of a coordinator;
* `Held.applies`, `Held.perform`: one batch and one call keep it;
* `books_held`: so it is after any calls, whatever the batches are like.
-/
import BookSync.Proofs.Sync.Run

namespace BookSync

/-! ### How books come about -/

namespace Book

/-- All ways to come by a book. -/
inductive Built : Book → Prop
  | snapshot {symbol : String} {s : BookSnapshot} {b : Book}
      (h : Book.ofSnapshot symbol s = .ok b) : Built b
  | apply {b : Book} (h : Built b) (batch : Batch) : Built (b.apply batch).1
  | replay {b : Book} (h : Built b) (r : Record) : Built (b.replay r)
  | advance {b : Book} (h : Built b) (id : SequenceId) : Built (b.advance id)

/-- The levels of a book by the values of their prices and sizes: each size is
positive, no price stands twice, bids go down and asks go up. -/
structure Tidy (b : Book) : Prop where
  positive : ∀ side, ∀ x ∈ (b.side side).toList, 0 < x.size.value
  distinct : ∀ side, ((b.side side).toList.map (·.price.value)).Nodup
  bids : (b.bids.toList.map (·.price.value)).Pairwise (· > ·)
  asks : (b.asks.toList.map (·.price.value)).Pairwise (· < ·)

theorem WellFormed.replayRecord {b : Book} (h : b.WellFormed) (r : Record) :
    (b.replay r).WellFormed := by
  intro side
  cases side with
  | bid => exact (h .bid).replay r.bids
  | ask => exact (h .ask).replay r.asks

theorem WellFormed.tidy {b : Book} (h : b.WellFormed) : b.Tidy where
  positive side := (h side).positive
  distinct side := (h side).nodup_values
  bids := by
    rw [List.pairwise_map]
    exact (h .bid).ordered.imp fun hb => Side.better_bid_iff.mp hb
  asks := by
    rw [List.pairwise_map]
    exact (h .ask).ordered.imp fun hb => Side.better_ask_iff.mp hb

theorem Built.wellFormed {b : Book} (h : b.Built) : b.WellFormed := by
  induction h with
  | snapshot h => exact .ofSnapshot h
  | apply _ batch ih => exact ih.apply batch
  | replay _ r ih => exact ih.replayRecord r
  | advance _ id ih => exact fun side => ih side

theorem Built.after {b : Book} (h : b.Built) (batch : Batch) : (b.after batch).Built :=
  (h.apply batch).advance batch.lastSeq

end Book

/-- A source answers with books as there are, or fails. -/
def Source.Builds (source : Source) : Prop :=
  ∀ symbol k book, source.answer symbol k = .ok book → book.Built

/-! ### What is installed -/

namespace Coordinator

/-- The book that a call installs: the one handed over, or the one fetched. -/
def installedBy? (c : Coordinator) : Call → Option Book
  | .install book => some book
  | .process batch =>
    if c.needsSnapshot batch.symbol then (c.answer batch.symbol).toOption else none
  | .apply _ | .reset _ | .clear => none

/-- The books that calls install, in order. -/
def installed (c : Coordinator) : List Call → List Book
  | [] => []
  | call :: rest => (c.installedBy? call).toList ++ (c.perform call).1.installed rest

end Coordinator

/-- The last of some books that is of a contract. -/
def lastOf? (symbol : String) (books : List Book) : Option Book :=
  books.reverse.find? (·.symbol = symbol)

theorem lastOf?_concat (symbol : String) (books : List Book) (book : Book) :
    lastOf? symbol (books ++ [book]) =
      if book.symbol = symbol then some book else lastOf? symbol books := by
  rw [lastOf?, List.reverse_append, List.reverse_singleton, List.singleton_append,
    List.find?_cons]
  by_cases h : book.symbol = symbol
  · simp [h]
  · simp [h, lastOf?]

/-! ### What is held -/

/-- Each book stands under its own contract and has come about in one of the
known ways; one that awaits its bridge is the last of its contract among the
books that have been installed. -/
structure Held (c : Coordinator) (books : List Book) : Prop where
  keyed : c.Keyed
  built : ∀ symbol book, c.book? symbol = some book → book.Built
  awaiting : ∀ symbol book, c.book? symbol = some book → book.state = .awaitingBridge →
    lastOf? symbol books = some book

namespace Held

variable {c : Coordinator} {books : List Book}

theorem new (source : Source) (scope : ResetScope) : Held (.new source scope) [] where
  keyed := Coordinator.keyed_new source scope
  built _ _ h := absurd h (by simp)
  awaiting _ _ h := absurd h (by simp)

theorem clear (c : Coordinator) (books : List Book) : Held c.clear books where
  keyed := c.keyed_clear
  built _ _ h := absurd h (by simp)
  awaiting _ _ h := absurd h (by simp)

theorem install (h : Held c books) {book : Book} (hb : book.Built) :
    Held (c.install book).1 (books ++ [book]) := by
  refine ⟨h.keyed.install book, fun symbol b hheld => ?_, fun symbol b hheld hs => ?_⟩
  · rcases c.of_book?_install hheld with ⟨-, rfl⟩ | ⟨-, hheld⟩
    · exact hb
    · exact h.built symbol b hheld
  · rw [lastOf?_concat]
    rcases c.of_book?_install hheld with ⟨hsymbol, rfl⟩ | ⟨hsymbol, hheld⟩
    · exact if_pos hsymbol
    · rw [if_neg hsymbol]
      exact h.awaiting symbol b hheld hs

theorem reset (h : Held c books) (gapped : String) : Held (c.reset gapped).1 books where
  keyed := h.keyed.reset gapped
  built symbol b hb := h.built symbol b (c.of_book?_reset hb)
  awaiting symbol b hb := h.awaiting symbol b (c.of_book?_reset hb)

/-- **The step.** A batch that is dropped leaves its book as it was installed,
and one that is applied makes it follow the stream. -/
theorem applies (h : Held c books) {batch : Batch} {r : Coordinator × Outcome × Effects}
    (happ : c.Applies batch r) : Held r.1 books := by
  refine ⟨h.keyed.applies happ, fun symbol b hb => ?_, fun symbol b hb hs => ?_⟩
  · rcases happ.of_book? hb with hb | ⟨-, book, -, hbook, -, rfl⟩
    · exact h.built symbol b hb
    · exact (h.built symbol book hbook).after batch
  · rcases happ.of_book? hb with hb | ⟨-, book, -, -, -, rfl⟩
    · exact h.awaiting symbol b hb hs
    · -- a book that a batch has been applied to does not await its bridge
      rw [Book.state_after] at hs
      exact absurd hs (by simp)

theorem processes (h : Held c books) (hs : c.fetcher.source.Builds) {batch : Batch}
    {r : Coordinator × Except FetchError Outcome × Effects} (hp : c.Processes batch r) :
    Held r.1 (books ++ (c.installedBy? (.process batch)).toList) := by
  have hfetched : Held (c.fetched batch.symbol) books := ⟨h.keyed, h.built, h.awaiting⟩
  rw [Coordinator.installedBy?]
  cases hp with
  | tracked hb happ =>
    rw [if_neg (c.not_needsSnapshot_of_book?_eq_some hb), Option.toList_none, List.append_nil]
    exact h.applies happ
  | failed hb ha =>
    rw [if_pos ((c.needsSnapshot_iff _).mpr hb), ha]
    show Held _ (books ++ [])
    rwa [List.append_nil]
  | @fetched book r hb ha happ =>
    rw [if_pos ((c.needsSnapshot_iff _).mpr hb), ha]
    exact (hfetched.install (hs _ _ _ ha)).applies happ

theorem perform (h : Held c books) (hs : c.fetcher.source.Builds) {call : Call}
    (hcall : ∀ book, call = .install book → book.Built) :
    Held (c.perform call).1 (books ++ (c.installedBy? call).toList) := by
  cases call with
  | process batch => exact h.processes hs (c.processes batch)
  | install book => exact h.install (hcall book rfl)
  | apply batch =>
    show Held _ (books ++ [])
    rw [List.append_nil]
    exact h.applies (c.applies batch)
  | reset symbol =>
    show Held _ (books ++ [])
    rw [List.append_nil]
    exact h.reset symbol
  | clear => exact .clear c _

/-- **The run.** The invariant is kept by calls that install books as there are. -/
theorem after (h : Held c books) (hs : c.fetcher.source.Builds) {calls : List Call}
    (hcalls : ∀ book, .install book ∈ calls → book.Built) :
    Held (c.after calls) (books ++ c.installed calls) := by
  induction calls generalizing c books with
  | nil =>
    show Held c (books ++ [])
    rwa [List.append_nil]
  | cons call rest ih =>
    have hfirst : Held (c.perform call).1 (books ++ (c.installedBy? call).toList) :=
      h.perform hs fun book he => hcalls book (he ▸ List.mem_cons_self)
    rw [Coordinator.installed, ← List.append_assoc]
    refine ih hfirst ?_ fun book hbook => hcalls book (List.mem_cons_of_mem call hbook)
    rw [Coordinator.source_perform]
    exact hs

end Held

namespace Coordinator

/-- **The books that are held.** After any calls, with any batches, each book
stands under its own contract and is tidy, and one that awaits its bridge is the
book that was last installed for its contract. -/
theorem books_held (source : Source) (scope : ResetScope) (hs : source.Builds)
    (calls : List Call) (hcalls : ∀ book, .install book ∈ calls → book.Built)
    {symbol : String} {book : Book}
    (hb : ((new source scope).after calls).book? symbol = some book) :
    book.symbol = symbol ∧ book.Tidy ∧
      (book.state = .awaitingBridge →
        lastOf? symbol ((new source scope).installed calls) = some book) := by
  have hheld := (Held.new source scope).after hs hcalls
  exact ⟨hheld.keyed symbol book hb, (hheld.built symbol book hb).wellFormed.tidy,
    hheld.awaiting symbol book hb⟩

end Coordinator

/-! ### One price in several spellings -/

open Decimal in
/-- A snapshot at step 10 with a size of zero, and a price in two spellings. -/
def spelledSnapshot : BookSnapshot :=
  ⟨10, none, none, [⟨ofCoeff 100 0, ofCoeff 1 0⟩, ⟨ofCoeff 1000 1, ofCoeff 2 0⟩,
    ⟨ofCoeff 99 0, zero⟩], []⟩

/-- A source that answers with this snapshot. -/
def spelledSource : Source where
  answer symbol _ := (Book.ofSnapshot symbol spelledSnapshot).mapError .malformed
  pending _ _ := 0

open Decimal in
/-- Two stale batches for one contract, the second inverted, and a bridge for
another one with sizes of zero and below and a price in two spellings. -/
def spelledCalls : List Call :=
  [.process ⟨"X", 4, 9, 0, [⟨ofCoeff 100 0, ofCoeff 7 0⟩], [], none⟩,
    .process ⟨"Y", 5, 12, 0, [⟨ofCoeff 1000 1, ofCoeff (-1) 0⟩, ⟨ofCoeff 97 0, ofCoeff 4 0⟩,
      ⟨ofCoeff 970 1, ofCoeff 5 0⟩, ⟨ofCoeff 96 0, zero⟩], [], none⟩,
    .apply ⟨"X", 9, 3, 0, [⟨ofCoeff 100 0, zero⟩], [], none⟩]

theorem spelledSource_builds : spelledSource.Builds := by
  intro symbol k book h
  simp only [spelledSource] at h
  exact .snapshot (mapError_eq_ok h)

open Coordinator in
/-- One book is as its snapshot was, the other has one level left. -/
theorem books_held_spelled :
    spelledSource.Builds ∧ (∀ book, .install book ∈ spelledCalls → book.Built) ∧
      (∃ book, ((new spelledSource .global).after spelledCalls).book? "X" = some book ∧
        book.state = .awaitingBridge ∧
        lastOf? "X" ((new spelledSource .global).installed spelledCalls) = some book) ∧
      ∃ book, ((new spelledSource .global).after spelledCalls).book? "Y" = some book ∧
        book.state = .synced ∧ book.bids.size = 1 ∧ book.Tidy := by
  have hcalls : ∀ book, .install book ∈ spelledCalls → book.Built :=
    fun book h => absurd h (by simp [spelledCalls])
  obtain ⟨x, hx, hawaits⟩ : ∃ book,
      ((new spelledSource .global).after spelledCalls).book? "X" = some book ∧
        book.state = .awaitingBridge := ⟨_, rfl, rfl⟩
  obtain ⟨y, hy, hsynced, hsize⟩ : ∃ book,
      ((new spelledSource .global).after spelledCalls).book? "Y" = some book ∧
        book.state = .synced ∧ book.bids.size = 1 := ⟨_, rfl, rfl, rfl⟩
  have hlast := (books_held spelledSource .global spelledSource_builds spelledCalls hcalls hx).2.2
  have htidy := (books_held spelledSource .global spelledSource_builds spelledCalls hcalls hy).2.1
  exact ⟨spelledSource_builds, hcalls, ⟨x, hx, hawaits, hlast hawaits⟩,
    y, hy, hsynced, hsize, htidy⟩

end BookSync
