/-
Runs of characters that move by the same distance.

Where a whole alphabet is replaced by another, or every second character by the
one behind it, a single `Shift` says so.
-/

namespace BookSync.Text

/-- Every `step`-th code point from `first` to `last` moves by `offset`. -/
structure Shift where
  first : Nat
  last : Nat
  step : Nat
  offset : Int

/-- The character belongs to the run. -/
def Shift.covers (r : Shift) (c : Char) : Bool :=
  r.first ≤ c.toNat && c.toNat ≤ r.last && (c.toNat - r.first) % r.step == 0

/-- Where a character of the run goes. -/
def Shift.move (r : Shift) (c : Char) : Char := Char.ofNat (c.toNat + r.offset).toNat

end BookSync.Text
