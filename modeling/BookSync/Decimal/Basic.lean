/-
Decimal numbers of bounded size.

A `Decimal` is the number `coeff / 10 ^ scale`, where the coefficient stays
below `2 ^ 96` in absolute value and at most 28 digits stand after the point.
Sign and digits are kept apart, so that a zero may have a minus; its value is
zero all the same.

* **`Decimal.ofCoeff?`** builds a decimal exactly when both bounds hold;
* **`≈`**, `<` and `≤` compare by value, whatever the scales are, while `=`
  also asks for the same scale;
* **`Decimal.toChars`** writes every digit of the scale, trailing zeros kept.
-/

namespace BookSync

/-- Coefficients have 96 bits, and so stay below this. -/
def Decimal.bound : Nat := 0x1000000000000000000000000

/-- A sign and digits, some of which stand after the point. -/
structure Decimal where
  /-- The sign is a minus. -/
  negative : Bool
  /-- All digits, as one number. -/
  magnitude : Nat
  /-- How many of the digits stand after the point. -/
  scale : Nat
  magnitude_lt : magnitude < Decimal.bound
  scale_le : scale ≤ 28
  deriving DecidableEq

namespace Decimal

/-! ### Construction -/

/-- Sign and digits, as one signed integer. -/
def coeff (d : Decimal) : Int := if d.negative then -(d.magnitude : Int) else d.magnitude

theorem natAbs_coeff (d : Decimal) : d.coeff.natAbs = d.magnitude := by
  unfold coeff
  split <;> simp

/-- The decimal with this coefficient and scale, if both are within bounds. A
coefficient of zero gets no minus. -/
def ofCoeff? (coeff : Int) (scale : Nat) : Option Decimal :=
  if h : coeff.natAbs < bound ∧ scale ≤ 28 then
    some ⟨decide (coeff < 0), coeff.natAbs, scale, h.1, h.2⟩
  else none

theorem ofCoeff?_eq_some_iff {c : Int} {s : Nat} {d : Decimal} :
    ofCoeff? c s = some d ↔
      d.negative = decide (c < 0) ∧ d.magnitude = c.natAbs ∧ d.scale = s := by
  unfold ofCoeff?
  split
  · cases d; simp [eq_comm]
  · rename_i h
    simp only [reduceCtorEq, false_iff]
    rintro ⟨-, hm, rfl⟩
    exact h ⟨hm ▸ d.magnitude_lt, d.scale_le⟩

theorem coeff_of_ofCoeff? {c : Int} {s : Nat} {d : Decimal} (h : ofCoeff? c s = some d) :
    d.coeff = c := by
  obtain ⟨hn, hm, -⟩ := ofCoeff?_eq_some_iff.1 h
  rw [coeff, hn, hm]
  by_cases hc : c < 0
  · rw [if_pos (decide_eq_true hc)]
    omega
  · rw [if_neg (by rw [decide_eq_true_iff]; exact hc)]
    omega

/-- Zero, written without a point. -/
def zero : Decimal := ⟨false, 0, 0, by decide, by decide⟩

instance : Inhabited Decimal := ⟨zero⟩

/-- An integer of one machine word is a decimal without fraction. -/
def ofInt (n : Int) (h : n.natAbs < UInt64.size) : Decimal :=
  ⟨decide (n < 0), n.natAbs, 0, Nat.lt_trans h (by decide), by decide⟩

/-- The same number without its sign. -/
def abs (d : Decimal) : Decimal := { d with negative := false }

/-- The number with the other sign. -/
def neg (d : Decimal) : Decimal := { d with negative := !d.negative }

theorem coeff_neg (d : Decimal) : d.neg.coeff = -d.coeff := by
  unfold neg coeff
  cases d.negative <;> simp

/-! ### Comparison by value -/

/-- The power `10 ^ k`. -/
def tenTo (k : Nat) : Nat := Nat.pow 10 k

/-- The coefficient that `d` has over the denominator `10 ^ (d.scale + s)`. -/
def widen (d : Decimal) (s : Nat) : Int := d.coeff * tenTo s

/-- Two decimals denote the same number. -/
instance : HasEquiv Decimal := ⟨fun a b => a.widen b.scale = b.widen a.scale⟩

instance : LT Decimal := ⟨fun a b => a.widen b.scale < b.widen a.scale⟩

instance : LE Decimal := ⟨fun a b => a.widen b.scale ≤ b.widen a.scale⟩

theorem equiv_def {a b : Decimal} : a ≈ b ↔ a.widen b.scale = b.widen a.scale := Iff.rfl

theorem lt_def {a b : Decimal} : a < b ↔ a.widen b.scale < b.widen a.scale := Iff.rfl

theorem le_def {a b : Decimal} : a ≤ b ↔ a.widen b.scale ≤ b.widen a.scale := Iff.rfl

instance (a b : Decimal) : Decidable (a ≈ b) :=
  inferInstanceAs (Decidable (a.widen b.scale = b.widen a.scale))

instance (a b : Decimal) : Decidable (a < b) :=
  inferInstanceAs (Decidable (a.widen b.scale < b.widen a.scale))

instance (a b : Decimal) : Decidable (a ≤ b) :=
  inferInstanceAs (Decidable (a.widen b.scale ≤ b.widen a.scale))

theorem equiv_refl (a : Decimal) : a ≈ a := equiv_def.2 rfl

theorem le_iff_not_lt {a b : Decimal} : a ≤ b ↔ ¬ b < a := by
  rw [le_def, lt_def, Int.not_lt]

/-- The number is below zero; the sign alone does not tell. -/
def isNegative (d : Decimal) : Bool := decide (d.coeff < 0)

/-- The number is above zero. -/
def isPositive (d : Decimal) : Bool := decide (0 < d.coeff)

/-- The number is zero, at any scale and with any sign. -/
def isZero (d : Decimal) : Bool := decide (d.magnitude = 0)

theorem coeff_zero : zero.coeff = 0 := rfl

theorem coeff_eq_zero_iff {d : Decimal} : d.coeff = 0 ↔ d.magnitude = 0 := by
  rw [← Int.natAbs_eq_zero, natAbs_coeff]

theorem isNegative_iff {d : Decimal} : d.isNegative = true ↔ d < zero := by
  simp [isNegative, lt_def, widen, tenTo, coeff_zero, show zero.scale = 0 from rfl]

theorem isPositive_iff {d : Decimal} : d.isPositive = true ↔ zero < d := by
  simp [isPositive, lt_def, widen, tenTo, coeff_zero, show zero.scale = 0 from rfl]

theorem isZero_iff {d : Decimal} : d.isZero = true ↔ d ≈ zero := by
  simp [isZero, equiv_def, widen, tenTo, coeff_zero, coeff_eq_zero_iff,
    show zero.scale = 0 from rfl]

/-! ### Text -/

/-- The digits of `n`, at least `width` of them. -/
def digits (n width : Nat) : List Char :=
  let ds := Nat.toDigits 10 n
  List.replicate (width - ds.length) '0' ++ ds

/-- Sign, at least one digit, and a point before the last `scale` digits. -/
def toChars (d : Decimal) : List Char :=
  let ds := digits d.magnitude (d.scale + 1)
  let whole := ds.take (ds.length - d.scale)
  let fraction := ds.drop (ds.length - d.scale)
  (if d.negative then ['-'] else []) ++ whole ++
    (if d.scale = 0 then [] else '.' :: fraction)

instance : ToString Decimal := ⟨fun d => String.ofList d.toChars⟩

end Decimal

end BookSync
