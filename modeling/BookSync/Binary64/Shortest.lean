/-
The shortest digits of a floating point number.

All reals between two bounds round to a given number; the bounds themselves do
when its significand is even. Among the decimal numbers `digits * 10 ^ power`
between the bounds, `Binary64.shortest` takes the one with the greatest power,
which has the fewest digits, and of two such the nearer to the number. Where
both are equally near, a `Tie` decides.

Two texts are made from those digits:

* **`Binary64.positional`** never has an exponent, nor a point when there is no
  fraction; a tie goes up;
* **`Binary64.compact`** has an exponent for very large and very small numbers
  and a fraction otherwise; a tie goes to the even neighbour.
-/
import BookSync.Binary64.Basic

namespace BookSync.Binary64

/-! ### Digits -/

/-- Which of two equally near neighbours is taken. -/
inductive Tie
  | even
  | up
  deriving DecidableEq

/-- The tie between `c` and `c + 1` goes to `c + 1`. -/
def Tie.goesUp : Tie → Nat → Bool
  | even, c => c % 2 == 1
  | up, _ => true

/-- The bounds and the number between them, in quarters of a unit of the last bit. -/
def quarters (x : Binary64) : Nat × Nat × Nat :=
  let m := x.significand
  let below := if m = leastNormal ∧ minExponent < x.exponent then 1 else 2
  (4 * m - below, 4 * m, 4 * m + 2)

/-- The multiple of `10 ^ power` to stand for `x`, if one lies between the bounds. -/
def onGrid? (x : Binary64) (tie : Tie) (power : Int) : Option Nat :=
  let (lo, mid, hi) := x.quarters
  let (p, q) := powRatio 2 (x.exponent - 2)
  let (s, t) := powRatio 10 power
  -- one quarter is `u / v` grid steps
  let u := p * t
  let v := q * s
  let closed := x.significand % 2 = 0
  let fits (c : Nat) : Bool :=
    if closed then lo * u ≤ c * v && c * v ≤ hi * u else lo * u < c * v && c * v < hi * u
  let c := mid * u / v
  let r := mid * u % v
  match fits c, fits (c + 1) with
  | true, true =>
    some (if 2 * r < v ∨ (2 * r = v ∧ !tie.goesUp c) then c else c + 1)
  | true, false => some c
  | false, true => some (c + 1)
  | false, false => none

/-- A power of ten not below `n / d`. -/
def powerAbove (n d : Nat) : Int :=
  if d ≤ n then (Nat.toDigits 10 (n / d)).length
  else 1 - ((Nat.toDigits 10 (d / n)).length : Int)

/-- The first grid, from `power` downwards, that has a hit. -/
def searchGrid (x : Binary64) (tie : Tie) : Nat → Int → Nat × Int
  | 0, power => (0, power)
  | steps + 1, power =>
    match x.onGrid? tie power with
    | some c => (c, power)
    | none => searchGrid x tie steps (power - 1)

/-- Digits and power of ten; zero is `0 * 10 ^ 0`. Eighteen grids below the
first are enough, for 17 digits always tell two numbers apart. -/
def shortest (x : Binary64) (tie : Tie) : Nat × Int :=
  if x.significand = 0 then (0, 0)
  else
    let (n, d) := x.ratio
    searchGrid x tie 19 (powerAbove n d)

/-! ### Texts -/

/-- A minus sign in front of the text of a negative number. -/
def signed (x : Binary64) (cs : List Char) : List Char :=
  if x.negative then '-' :: cs else cs

/-- All digits in their places, without an exponent. -/
def positional (x : Binary64) : List Char :=
  let (c, power) := x.shortest .up
  let ds := Nat.toDigits 10 c
  x.signed <|
    if 0 ≤ power then ds ++ List.replicate power.toNat '0'
    else
      let places := (-power).toNat
      let ds := List.replicate (places + 1 - ds.length) '0' ++ ds
      ds.take (ds.length - places) ++ '.' :: ds.drop (ds.length - places)

/-- Where the compact text of a number changes its form: digits stand in their
places while the point is at most `right` digits after the first digit and less
than `left` digits before it. -/
structure Window where
  left : Int
  right : Int

/-- The window of the compact text. -/
def window : Window := ⟨-5, 16⟩

/-- Digits in their places inside the window, with at least one digit after the
point; otherwise one digit, the rest as a fraction, and a signed exponent in
which only the plus is written out for large numbers. -/
def compact (x : Binary64) : List Char :=
  let (c, power) := x.shortest .even
  let ds := Nat.toDigits 10 c
  let point : Int := ds.length + power
  x.signed <|
    if x.significand = 0 then ['0', '.', '0']
    else if window.left < point ∧ point ≤ window.right then
      if 0 ≤ power then ds ++ List.replicate power.toNat '0' ++ ['.', '0']
      else if 0 < point then ds.take point.toNat ++ '.' :: ds.drop point.toNat
      else '0' :: '.' :: List.replicate (-point).toNat '0' ++ ds
    else
      let exponent := point - 1
      ds.take 1 ++ (if ds.length = 1 then [] else '.' :: ds.drop 1) ++
        'e' :: (if exponent < 0 then '-' else '+') :: Nat.toDigits 10 exponent.natAbs

end BookSync.Binary64
