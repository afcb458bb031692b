/-
Sets of characters given as ranges of code points.
-/

namespace BookSync.Text

/-- Ranges of code points, both ends included. -/
abbrev Ranges := Array (Nat × Nat)

/-- The character lies in one of the ranges. -/
def Ranges.covers (rs : Ranges) (c : Char) : Bool :=
  rs.any fun r => r.1 ≤ c.toNat && c.toNat ≤ r.2

end BookSync.Text
