/-
The order book of one contract.

Besides its two sides a book has a cursor, the id of the last change it holds,
and a state: it has come from a snapshot and waits for the batch that bridges
to the stream, or it follows the stream.
-/
import BookSync.Book.Levels

namespace BookSync

/-- How far a book has got on its way into the stream. -/
inductive SyncState
  /-- The book is a snapshot that no batch has been applied to. -/
  | awaitingBridge
  /-- The book follows the stream. -/
  | synced
  deriving DecidableEq

/-- The order book of one contract. -/
structure Book where
  symbol : String
  bids : Levels .bid
  asks : Levels .ask
  /-- The last change that the book holds. -/
  cursor : SequenceId
  state : SyncState
  deriving DecidableEq

namespace Book

/-- A book without levels that awaits its bridge. -/
def empty (symbol : String) (cursor : SequenceId) : Book :=
  ⟨symbol, .empty, .empty, cursor, .awaitingBridge⟩

/-- The book follows the stream up to the change `id`. -/
def advance (b : Book) (id : SequenceId) : Book := { b with cursor := id, state := .synced }

/-- Neither side has a level. -/
def isEmpty (b : Book) : Bool := b.bids.isEmpty && b.asks.isEmpty

/-- The best bid and the best ask, if both sides have one. -/
def touch? (b : Book) : Option (Level × Level) := do
  return (← b.bids.best?, ← b.asks.best?)

/-- Half way between the best prices. -/
def mid (b : Book) : Except Decimal.Overflow (Option Decimal) :=
  match b.touch? with
  | none => .ok none
  | some (bid, ask) => (Decimal.add bid.price ask.price).map fun sum => some sum.half

/-- From the best bid up to the best ask. -/
def spread (b : Book) : Except Decimal.Overflow (Option Decimal) :=
  match b.touch? with
  | none => .ok none
  | some (bid, ask) => (Decimal.sub ask.price bid.price).map some

/-- The best bid is not below the best ask. -/
def isCrossed (b : Book) : Bool :=
  match b.touch? with
  | none => false
  | some (bid, ask) => decide (ask.price ≤ bid.price)

/-- The same book, as far as the values of prices and sizes go. -/
def same (a b : Book) : Bool :=
  a.symbol == b.symbol && a.bids.same b.bids && a.asks.same b.asks && a.cursor == b.cursor &&
    a.state == b.state

end Book

end BookSync
