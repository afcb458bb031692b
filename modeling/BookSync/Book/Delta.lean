/-
Batches of changes and their application.

A change names a price and the size that is now on offer there; a size that is
not positive takes the level away. Applying changes leaves a record of those
that had an effect: a removal counts only if there was a level to remove, and
is recorded with size zero.

* **`Batch.ofUpdate`** makes a batch of an update and refuses sizes below zero
  and ranges that end before they start;
* **`Levels.applyAll`** and **`Book.apply`** apply changes and record them;
* **`Levels.replay`** repeats a record on another side.
-/
import BookSync.Book.Basic
import BookSync.Message.BookUpdate

namespace BookSync

/-- The changes of a book from `firstSeq` to `lastSeq`. -/
structure Batch where
  symbol : String
  firstSeq : SequenceId
  lastSeq : SequenceId
  timestamp : Millis
  bids : List Level
  asks : List Level
  /-- The frame that the batch came in. -/
  raw : Option String

/-- The batch of an update. -/
def Batch.ofUpdate (u : BookUpdate) : Except DecodeError Batch :=
  if u.lastSeq < u.firstSeq then .error (.invertedRange u.firstSeq u.lastSeq)
  else
    match (Level.firstNegative? u.bids).or (Level.firstNegative? u.asks) with
    | some e => .error e
    | none => .ok ⟨u.symbol, u.firstSeq, u.lastSeq, u.timestamp, u.bids, u.asks, none⟩

/-- The changes of a batch that had an effect. -/
structure Record where
  bids : List Level
  asks : List Level
  deriving DecidableEq

namespace Record

/-- How many changes there are. -/
def size (r : Record) : Nat := r.bids.length + r.asks.length

/-- No change had an effect. -/
def isEmpty (r : Record) : Bool := r.bids.isEmpty && r.asks.isEmpty

end Record

namespace Levels

variable {side : Side}

/-- Apply one change, and record it if it had an effect. -/
def applyChange (l : Levels side) (x : Level) : Levels side × List Level :=
  if x.size.isPositive then ((l.insert x.price x.size).2, [x])
  else
    let (old, l) := l.remove x.price
    (l, if old.isSome then [⟨x.price, .zero⟩] else [])

/-- Apply changes one after the other. -/
def applyAll (l : Levels side) : List Level → Levels side × List Level
  | [] => (l, [])
  | x :: xs =>
    let (l, change) := l.applyChange x
    let (l, changes) := l.applyAll xs
    (l, change ++ changes)

/-- Repeat recorded changes. -/
def replay (l : Levels side) (changes : List Level) : Levels side :=
  changes.foldl (fun l x => (l.insert x.price x.size).2) l

end Levels

/-- Apply the changes of a batch to both sides; the cursor stays. -/
def Book.apply (b : Book) (batch : Batch) : Book × Record :=
  let (bids, bidChanges) := b.bids.applyAll batch.bids
  let (asks, askChanges) := b.asks.applyAll batch.asks
  ({ b with bids := bids, asks := asks }, ⟨bidChanges, askChanges⟩)

/-- Repeat a record on both sides; the cursor stays. -/
def Book.replay (b : Book) (r : Record) : Book :=
  { b with bids := b.bids.replay r.bids, asks := b.asks.replay r.asks }

end BookSync
