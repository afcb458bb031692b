/-
One side of an order book.

The levels stand best first: bids from the highest price down, asks from the
lowest price up. A price is looked up by its value, so `1.0` and `1.00` name
the same level; the level keeps the price that it was first given.

* **`Levels.insert`** sets the size at a price, and removes the level if the
  size is not positive;
* **`Levels.remove`** removes it;
* both return the size that was there before.
-/
import BookSync.Decimal.Arithmetic
import BookSync.Level

namespace BookSync

/-- A side of an order book. -/
inductive Side
  | bid
  | ask
  deriving DecidableEq

/-- The first price is strictly better than the second: higher for a bid, lower
for an ask. -/
def Side.Better : Side → Decimal → Decimal → Prop
  | bid, p, q => q < p
  | ask, p, q => p < q

instance (side : Side) (p q : Decimal) : Decidable (side.Better p q) :=
  match side with
  | .bid => inferInstanceAs (Decidable (q < p))
  | .ask => inferInstanceAs (Decidable (p < q))

/-- The levels of one side, best first. -/
structure Levels (side : Side) where
  toList : List Level
  deriving DecidableEq

namespace Levels

variable {side : Side}

/-- A side without levels. -/
def empty : Levels side := ⟨[]⟩

/-- How many levels there are. -/
def size (l : Levels side) : Nat := l.toList.length

/-- There are no levels. -/
def isEmpty (l : Levels side) : Bool := l.toList.isEmpty

/-- The size at a price. -/
def get? (l : Levels side) (price : Decimal) : Option Decimal :=
  (l.toList.find? fun x => x.price ≈ price).map (·.size)

/-- There is a level at a price. -/
def contains (l : Levels side) (price : Decimal) : Bool := (l.get? price).isSome

/-- The best level. -/
def best? (l : Levels side) : Option Level := l.toList.head?

/-- The `n` best levels. -/
def top (l : Levels side) (n : Nat) : List Level := l.toList.take n

/-- Set the size at a price in a list of levels. -/
def place (side : Side) (price size : Decimal) : List Level → List Level
  | [] => [⟨price, size⟩]
  | x :: rest =>
    if side.Better price x.price then ⟨price, size⟩ :: x :: rest
    else if x.price ≈ price then ⟨x.price, size⟩ :: rest
    else x :: place side price size rest

/-- Take the level at a price away. -/
def erase (l : Levels side) (price : Decimal) : Levels side :=
  ⟨l.toList.filter fun x => ¬ x.price ≈ price⟩

/-- Remove the level at a price; also the size it had. -/
def remove (l : Levels side) (price : Decimal) : Option Decimal × Levels side :=
  (l.get? price, l.erase price)

/-- Set the size at a price, where a size that is not positive removes the
level; also the size it had. -/
def insert (l : Levels side) (price size : Decimal) : Option Decimal × Levels side :=
  if size.isPositive then (l.get? price, ⟨place side price size l.toList⟩)
  else l.remove price

/-- The sizes from the lowest price up. -/
def sizesAscending (l : Levels side) : List Decimal :=
  match side with
  | .bid => (l.toList.map (·.size)).reverse
  | .ask => l.toList.map (·.size)

/-- The sum of all sizes, added up from the lowest price. -/
def total (l : Levels side) : Except Decimal.Overflow Decimal :=
  l.sizesAscending.foldlM Decimal.add .zero

/-- The same levels, as far as the values of their prices and sizes go. -/
def sameList : List Level → List Level → Bool
  | [], [] => true
  | x :: xs, y :: ys => x.price ≈ y.price && x.size ≈ y.size && sameList xs ys
  | _, _ => false

/-- Two sides have the same levels, by value. -/
def same (a b : Levels side) : Bool := sameList a.toList b.toList

end Levels

end BookSync
