/-
Changes of one side of a book, one after the other.

A side is only ever changed by insertions, removals and by being emptied.
`Levels.edited` is what a list of such changes makes of an empty side, so that what holds
of every side there can be is what holds of `edited` for every list.

* `WellFormed.edit`: each change keeps the order and the positive sizes;
* `wellFormed_edited`: so every side that changes lead to is well formed.
-/
import BookSync.Proofs.Book.Depth

namespace BookSync.Levels

/-- A change of a side. -/
inductive Edit
  | insert (price size : Decimal)
  | remove (price : Decimal)
  | clear

variable {side : Side}

/-- The side after a change. -/
def edit (l : Levels side) : Edit → Levels side
  | .insert price size => (l.insert price size).2
  | .remove price => (l.remove price).2
  | .clear => empty

/-- What changes make of an empty side, one after the other. -/
def edited (side : Side) (edits : List Edit) : Levels side := edits.foldl edit empty

/-- The last change is made on the side that the others lead to. -/
theorem edited_concat (edits : List Edit) (e : Edit) :
    edited side (edits ++ [e]) = (edited side edits).edit e := List.foldl_concat ..

theorem WellFormed.edit {l : Levels side} (h : l.WellFormed) (e : Edit) :
    (l.edit e).WellFormed := by
  cases e with
  | insert price size => exact h.insert price size
  | remove price => exact h.erase price
  | clear => exact .empty

theorem wellFormed_edited (edits : List Edit) : (edited side edits).WellFormed := by
  induction edits using List.reverseRecOn with
  | nil => exact .empty
  | append_singleton edits e ih =>
    rw [edited_concat]
    exact ih.edit e

end BookSync.Levels
