/-
Sums, differences and halves of decimals.

A result is computed exactly first and then written with the larger scale of
the two operands. If it does not fit, as few digits as possible are dropped,
rounding half to even; only when no fraction digit is left to drop is there no
result.

* **`Decimal.fit?`** is that rounding step;
* **`Decimal.add`** and **`Decimal.sub`** use it, and leave the other operand
  as it is when one is zero;
* **`Decimal.half`** always has a result; if it had to be extended or rounded,
  zeros at its end are cut.
-/
import BookSync.Decimal.Basic

namespace BookSync.Decimal

/-! ### Rounding half to even -/

/-- `n / d` to the nearest integer, a tie going to the even neighbour. -/
def divNearest (n d : Nat) : Nat :=
  let q := n / d
  let r := n % d
  if 2 * r < d then q else if d < 2 * r then q + 1 else q + q % 2

/-- The same for signed numerators, symmetric about zero. -/
def divNearestInt (n : Int) (d : Nat) : Int := n.sign * divNearest n.natAbs d

/-- `n / 10 ^ scale`, with as few digits dropped as the bounds ask for. -/
def fit? (n : Int) (scale : Nat) : Option Decimal :=
  (List.range (scale + 1)).findSome? fun k =>
    ofCoeff? (divNearestInt n (tenTo k)) (scale - k)

/-! ### Sum and difference -/

/-- The sum, if it is not too large. -/
def add? (a b : Decimal) : Option Decimal :=
  if a.isZero then some b
  else if b.isZero then some a
  else
    let scale := max a.scale b.scale
    fit? (a.widen (scale - a.scale) + b.widen (scale - b.scale)) scale

/-- The difference, if it is not too large. A zero that is taken from zero
stays as it is. -/
def sub? (a b : Decimal) : Option Decimal :=
  if a.isZero && b.isZero then some b else add? a b.neg

/-- An operation whose result is too large. -/
inductive Overflow
  | sum
  | difference
  deriving DecidableEq

/-- The message of an overflow. -/
def Overflow.message : Overflow → String
  | sum => "Addition overflowed"
  | difference => "Subtraction overflowed"

/-- The sum. -/
def add (a b : Decimal) : Except Overflow Decimal :=
  match add? a b with
  | some c => .ok c
  | none => .error .sum

/-- The difference. -/
def sub (a b : Decimal) : Except Overflow Decimal :=
  match sub? a b with
  | some c => .ok c
  | none => .error .difference

/-! ### Half -/

/-- Divide by `10 ^ k` if that is exact and at least `k` fraction digits are there. -/
def cutZeros (k : Nat) (p : Nat × Nat) : Nat × Nat :=
  if p.1 % tenTo k = 0 ∧ k ≤ p.2 then (p.1 / tenTo k, p.2 - k) else p

/-- Cut `10 ^ 8` while the low 32 bits are zero. -/
def cutEights : Nat → Nat × Nat → Nat × Nat
  | 0, p => p
  | fuel + 1, p =>
    if p.1 % UInt32.size = 0 ∧ p.1 % tenTo 8 = 0 ∧ 8 ≤ p.2 then
      cutEights fuel (p.1 / tenTo 8, p.2 - 8)
    else p

/-- Cut `10 ^ k` once from a multiple of `m`, where `m` is a power of two. -/
def cutOnce (k m : Nat) (p : Nat × Nat) : Nat × Nat :=
  if p.1 % m = 0 then cutZeros k p else p

/-- Trailing zeros of a fraction are cut by 8, 4, 2 and 1 digits, each step
guarded by a test of the low bits, so that a few zeros may stay. -/
def cutFraction (p : Nat × Nat) : Nat × Nat :=
  cutOnce 1 2 (cutOnce 2 4 (cutOnce 4 16 (cutEights 3 p)))

theorem cutZeros_le (k : Nat) (p : Nat × Nat) :
    (cutZeros k p).1 ≤ p.1 ∧ (cutZeros k p).2 ≤ p.2 := by
  unfold cutZeros
  split
  · exact ⟨Nat.div_le_self _ _, Nat.sub_le _ _⟩
  · exact ⟨Nat.le_refl _, Nat.le_refl _⟩

theorem cutEights_le (fuel : Nat) (p : Nat × Nat) :
    (cutEights fuel p).1 ≤ p.1 ∧ (cutEights fuel p).2 ≤ p.2 := by
  induction fuel generalizing p with
  | zero => exact ⟨Nat.le_refl _, Nat.le_refl _⟩
  | succ fuel ih =>
    unfold cutEights
    split
    · have h := ih (p.1 / tenTo 8, p.2 - 8)
      exact ⟨Nat.le_trans h.1 (Nat.div_le_self _ _), Nat.le_trans h.2 (Nat.sub_le _ _)⟩
    · exact ⟨Nat.le_refl _, Nat.le_refl _⟩

theorem cutOnce_le (k m : Nat) (p : Nat × Nat) :
    (cutOnce k m p).1 ≤ p.1 ∧ (cutOnce k m p).2 ≤ p.2 := by
  unfold cutOnce
  split
  · exact cutZeros_le k p
  · exact ⟨Nat.le_refl _, Nat.le_refl _⟩

theorem cutFraction_le (p : Nat × Nat) :
    (cutFraction p).1 ≤ p.1 ∧ (cutFraction p).2 ≤ p.2 := by
  have h₁ := cutEights_le 3 p
  have h₂ := cutOnce_le 4 16 (cutEights 3 p)
  have h₃ := cutOnce_le 2 4 (cutOnce 4 16 (cutEights 3 p))
  have h₄ := cutOnce_le 1 2 (cutOnce 2 4 (cutOnce 4 16 (cutEights 3 p)))
  unfold cutFraction
  omega

/-- How many digits, at most nine, an integer part `n` can be extended by. -/
def room (n scale : Nat) : Nat :=
  ((List.range 10).reverse.find? fun k =>
    decide (scale + k ≤ 28 ∧ n * tenTo k < bound)).getD 0

theorem room_spec (n scale : Nat) (hn : n < bound) (hs : scale ≤ 28) :
    scale + room n scale ≤ 28 ∧ n * tenTo (room n scale) < bound := by
  unfold room
  cases h : (List.range 10).reverse.find? fun k =>
      decide (scale + k ≤ 28 ∧ n * tenTo k < bound) with
  | none => exact ⟨hs, by simpa [tenTo] using hn⟩
  | some k => simpa using List.find?_some h

/-- Half of `m / 10 ^ scale` with `m` odd. The integer half of `m` is extended
by as many digits as there is room for; where that does not make the half
exact, or too long, the last digit is rounded half to even. -/
def halfOdd (m scale : Nat) : Nat × Nat :=
  let k := room (m / 2) scale
  let half := m * tenTo k / 2
  cutFraction <|
    if k = 0 then (divNearest m 2, scale)
    else if half < bound then (half, scale + k)
    else (divNearest half 10, scale + k - 1)

/-- Half of an unsigned coefficient. -/
def halfNat (m scale : Nat) : Nat × Nat :=
  if m = 0 then (0, 0)
  else if m % 2 = 0 then (m / 2, scale)
  else halfOdd m scale

theorem divNearest_le_succ (n d : Nat) : divNearest n d ≤ n / d + 1 := by
  unfold divNearest
  dsimp only
  split <;> (try split) <;> omega

theorem halfOdd_bounds {m scale : Nat} (hm : m < bound) (hs : scale ≤ 28) :
    (halfOdd m scale).1 < bound ∧ (halfOdd m scale).2 ≤ 28 := by
  have hroom := room_spec (m / 2) scale (by omega) hs
  have hcut (p : Nat × Nat) (h : p.1 < bound ∧ p.2 ≤ 28) :
      (cutFraction p).1 < bound ∧ (cutFraction p).2 ≤ 28 :=
    ⟨Nat.lt_of_le_of_lt (cutFraction_le p).1 h.1, Nat.le_trans (cutFraction_le p).2 h.2⟩
  unfold halfOdd
  refine hcut _ ?_
  generalize room (m / 2) scale = k at hroom
  obtain ⟨hk, hlt⟩ := hroom
  have hbound : 100 < bound := by decide
  split
  · have := divNearest_le_succ m 2
    exact ⟨by dsimp only; omega, hs⟩
  · split
    · rename_i h
      exact ⟨h, hk⟩
    · have h₁ := divNearest_le_succ (m * tenTo k / 2) 10
      -- an odd `m` is twice its integer half and one more
      have h₂ : m * tenTo k ≤ 2 * (m / 2 * tenTo k) + tenTo k := by
        have h := Nat.mul_le_mul_right (tenTo k) (show m ≤ 2 * (m / 2) + 1 by omega)
        rw [Nat.add_mul, Nat.mul_assoc, Nat.one_mul] at h
        exact h
      have h₃ : tenTo k ≤ bound := by
        have hten : tenTo k ≤ tenTo 28 := Nat.pow_le_pow_right (by decide) (by omega)
        exact Nat.le_trans hten (by decide)
      exact ⟨by dsimp only; omega, by dsimp only; omega⟩

theorem halfNat_bounds {m scale : Nat} (hm : m < bound) (hs : scale ≤ 28) :
    (halfNat m scale).1 < bound ∧ (halfNat m scale).2 ≤ 28 := by
  unfold halfNat
  split
  · decide
  split
  · exact ⟨by dsimp only; omega, hs⟩
  · exact halfOdd_bounds hm hs

/-- Half of a decimal. A half that is rounded to zero loses its sign. -/
def half (d : Decimal) : Decimal :=
  let p := halfNat d.magnitude d.scale
  have h := halfNat_bounds d.magnitude_lt d.scale_le
  ⟨d.negative && p.1 ≠ 0, p.1, p.2, h.1, h.2⟩

end BookSync.Decimal
