/-
Which batches may be applied to a book.

A batch covers the changes from `first` to `last`. A book that awaits its
bridge drops batches up to its cursor and takes the one that holds the change
after it; from then on each batch has to start right behind the cursor.
-/
import BookSync.Book.Basic

namespace BookSync

/-- What is to be done with a batch. -/
inductive Verdict
  /-- The snapshot already holds all of it. -/
  | discard
  /-- It joins the snapshot to the stream. -/
  | bridge
  /-- It continues the stream. -/
  | apply
  /-- Changes are missing, the change `expected` first of all. -/
  | gap (expected : SequenceId)
  deriving DecidableEq

namespace Verdict

/-- The id after `id`; the greatest id stays. -/
def next (id : SequenceId) : SequenceId :=
  if id.toNat + 1 < UInt64.size then id + 1 else id

/-- The verdict on a batch from `first` to `last` for a book at `cursor`. -/
def evaluate (state : SyncState) (cursor first last : SequenceId) : Verdict :=
  let expected := next cursor
  match state with
  | .awaitingBridge =>
    if last ≤ cursor then discard
    else if first ≤ expected ∧ expected ≤ last then bridge
    else gap expected
  | .synced => if first = expected then apply else gap expected

/-- The batch changes the book. -/
def applies : Verdict → Bool
  | bridge | apply => true
  | _ => false

end Verdict

/-- The verdict on a batch for this book. -/
def Book.check (b : Book) (first last : SequenceId) : Verdict :=
  .evaluate b.state b.cursor first last

end BookSync
