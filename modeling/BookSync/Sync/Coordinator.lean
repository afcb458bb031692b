/-
The coordinator: all books, and the rules by which batches change them.

A batch for a contract without a book fetches a snapshot first. A batch that
leaves a gap drops the books that the reset scope names; they come back with
the next batches for them. Everything that happens is told as events, in order.

* **`Coordinator.install`** puts a book in place;
* **`Coordinator.apply`** judges a batch and applies, drops or answers it with
  a reset; it never fetches;
* **`Coordinator.process`** fetches if need be, then applies. If the fetch
  fails, nothing but the count of fetches has changed.
-/
import BookSync.Book.Sequence
import BookSync.Sync.Event
import BookSync.Sync.Notice
import BookSync.Sync.Source
import BookSync.Table

namespace BookSync

/-- Which books a gap drops. -/
inductive ResetScope
  /-- All of them. -/
  | global
  /-- The one that has the gap. -/
  | perSymbol
  deriving DecidableEq

/-- What has become of a batch. -/
inductive Outcome
  | applied (id : SequenceId)
  | bridged (id : SequenceId)
  | discarded
  | reset (cleared : List String)
  /-- There is no book for it. -/
  | untracked
  deriving DecidableEq

/-- What has happened so far. The counts have no bound here. A call adds one to each of
them at most, so they are those of 64-bit counters as long as there are fewer than
`2 ^ 64` calls (`Coordinator.stats_after_le`). -/
structure Stats where
  batchesApplied : Nat
  staleDiscarded : Nat
  resets : Nat
  snapshotsLoaded : Nat
  deriving DecidableEq

/-- Events and notices of a step, each in order. -/
structure Effects where
  events : List Event
  notices : List Notice

namespace Effects

/-- A step that nobody hears of. -/
def none : Effects := ⟨[], []⟩

instance : Append Effects := ⟨fun a b => ⟨a.events ++ b.events, a.notices ++ b.notices⟩⟩

@[simp] theorem append_events (a b : Effects) : (a ++ b).events = a.events ++ b.events := rfl

theorem append_assoc (a b d : Effects) : a ++ b ++ d = a ++ (b ++ d) := by
  show mk (a.events ++ b.events ++ d.events) (a.notices ++ b.notices ++ d.notices) = _
  rw [List.append_assoc, List.append_assoc]
  rfl

theorem append_none (a : Effects) : a ++ none = a := by
  show mk (a.events ++ []) (a.notices ++ []) = a
  rw [List.append_nil, List.append_nil]

end Effects

/-- All books with their source. -/
structure Coordinator where
  scope : ResetScope
  fetcher : Fetcher
  books : Table Book
  stats : Stats

namespace Coordinator

/-- A coordinator without books. -/
def new (source : Source) (scope : ResetScope) : Coordinator :=
  ⟨scope, ⟨source, []⟩, .empty, ⟨0, 0, 0, 0⟩⟩

/-- The book of a contract. -/
def book? (c : Coordinator) (symbol : String) : Option Book := c.books.get? symbol

/-- A batch for this contract has to fetch first. -/
def needsSnapshot (c : Coordinator) (symbol : String) : Bool := !c.books.contains symbol

/-- Drop all books without a reset. -/
def clear (c : Coordinator) : Coordinator := { c with books := .empty }

/-- Put a book in place of the one of the same contract. -/
def install (c : Coordinator) (book : Book) : Coordinator × Effects :=
  ({ c with
      books := c.books.insert book.symbol book
      stats := { c.stats with snapshotsLoaded := c.stats.snapshotsLoaded + 1 } },
    ⟨[.snapshot book],
      [.snapshotInstalled book.symbol book.cursor book.bids.size book.asks.size]⟩)

/-- The contracts whose books a reset on `symbol` drops, ascending. -/
def clearedBy (c : Coordinator) (symbol : String) : List String :=
  match c.scope with
  | .global => c.books.names
  | .perSymbol => if c.books.contains symbol then [symbol] else []

/-- The books that a reset on `symbol` leaves. -/
def booksAfterReset (c : Coordinator) (symbol : String) : Table Book :=
  match c.scope with
  | .global => .empty
  | .perSymbol => c.books.erase symbol

/-- Drop books because of a gap on `symbol`; also the contracts they belong to. -/
def reset (c : Coordinator) (symbol : String) : Coordinator × List String × Effects :=
  let cleared := c.clearedBy symbol
  ({ c with
      books := c.booksAfterReset symbol
      stats := { c.stats with resets := c.stats.resets + 1 } },
    cleared, ⟨[.reset cleared], []⟩)

/-- Drop a batch that the snapshot already holds. -/
def discard (c : Coordinator) (book : Book) (batch : Batch) : Coordinator × Outcome × Effects :=
  ({ c with stats := { c.stats with staleDiscarded := c.stats.staleDiscarded + 1 } },
    .discarded,
    ⟨[], [.staleDiscarded batch.symbol batch.firstSeq batch.lastSeq book.cursor]⟩)

/-- Answer a gap with a reset. -/
def resetOnGap (c : Coordinator) (book : Book) (batch : Batch) (expected : SequenceId) :
    Coordinator × Outcome × Effects :=
  let (c, cleared, effects) := c.reset batch.symbol
  (c, .reset cleared,
    ⟨[], [.sequenceGap batch.symbol expected batch.firstSeq batch.lastSeq book.state]⟩ ++ effects)

/-- Apply a batch to its book. -/
def commit (c : Coordinator) (book : Book) (batch : Batch) (bridge : Bool) :
    Coordinator × Outcome × Effects :=
  let (book, record) := book.apply batch
  let book := book.advance batch.lastSeq
  ({ c with
      books := c.books.insert batch.symbol book
      stats := { c.stats with batchesApplied := c.stats.batchesApplied + 1 } },
    if bridge then .bridged batch.lastSeq else .applied batch.lastSeq,
    ⟨[.update ⟨book, record, batch.timestamp, batch.lastSeq, batch.raw⟩],
      if bridge then [.bridged batch.symbol batch.firstSeq batch.lastSeq] else []⟩)

/-- Judge a batch and do what the verdict says. -/
def apply (c : Coordinator) (batch : Batch) : Coordinator × Outcome × Effects :=
  match c.book? batch.symbol with
  | none => (c, .untracked, .none)
  | some book =>
    match book.check batch.firstSeq batch.lastSeq with
    | .discard => c.discard book batch
    | .gap expected => c.resetOnGap book batch expected
    | .bridge => c.commit book batch true
    | .apply => c.commit book batch false

/-- Fetch the book of a symbol. -/
def fetch (c : Coordinator) (symbol : String) : Coordinator × Except FetchError Book :=
  let (fetcher, answer) := c.fetcher.fetch symbol
  ({ c with fetcher := fetcher }, answer)

/-- Take one batch, fetching a snapshot first if there is no book for it. -/
def process (c : Coordinator) (batch : Batch) :
    Coordinator × Except FetchError Outcome × Effects :=
  if c.needsSnapshot batch.symbol then
    match c.fetch batch.symbol with
    | (c, .error e) => (c, .error e, .none)
    | (c, .ok book) =>
      let (c, installed) := c.install book
      let (c, outcome, applied) := c.apply batch
      (c, .ok outcome, installed ++ applied)
  else
    let (c, outcome, effects) := c.apply batch
    (c, .ok outcome, effects)

end Coordinator

end BookSync
