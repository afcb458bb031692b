/-
Books from snapshots.

A level of size zero is left out, and of two levels at one price the later one
counts. A size below zero spoils the snapshot.
-/
import BookSync.Book.Basic
import BookSync.Message.BookSnapshot

namespace BookSync

/-- Put the levels of a snapshot on a side. -/
def Levels.fill {side : Side} (l : Levels side) : List Level → Except DecodeError (Levels side)
  | [] => .ok l
  | x :: xs =>
    if x.size.isNegative then .error (.negativeSize x.size x.price)
    else (l.insert x.price x.size).2.fill xs

/-- The book of a snapshot, bids first. -/
def Book.ofSnapshot (symbol : String) (s : BookSnapshot) : Except DecodeError Book := do
  let bids ← Levels.empty.fill s.bids
  let asks ← Levels.empty.fill s.asks
  return { Book.empty symbol s.id with bids := bids, asks := asks }

/-- The book in the body of an answer. -/
def Book.parse (symbol body : String) : Except DecodeError Book := do
  Book.ofSnapshot symbol (← BookSnapshot.parse body)

end BookSync
