/-
Finite binary floating point numbers of 64 bits.

A `Binary64` is `±significand * 2 ^ exponent` in the normal form of the format:
either the significand has 53 bits, or the exponent is the least one.

* **`Binary64.ofRatio?`** rounds an exact quotient to the nearest number, a tie
  going to the even significand; it has no result past the largest number;
* **`Binary64.scaleTen?`** is a product with, or a quotient by, a power of ten
  that has itself been rounded first;
* **`Binary64.toBits`** is the encoding in 64 bits.
-/
import BookSync.Decimal.Arithmetic

namespace BookSync

/-- The number `significand * 2 ^ exponent`, with a sign that zero has too. -/
structure Binary64 where
  negative : Bool
  significand : Nat
  exponent : Int
  deriving DecidableEq

namespace Binary64

/-- The least exponent, that of zero and of the numbers next to it. -/
def minExponent : Int := -1074

/-- The greatest exponent. -/
def maxExponent : Int := 971

/-- The least significand of 53 bits. -/
def leastNormal : Nat := 0x10000000000000

/-- Zero, with a sign. -/
def zero (negative : Bool) : Binary64 := ⟨negative, 0, minExponent⟩

instance : Inhabited Binary64 := ⟨zero false⟩

/-- The two factors, one of them 1, whose quotient is `b ^ e`. -/
def powRatio (b : Nat) (e : Int) : Nat × Nat := (Nat.pow b e.toNat, Nat.pow b (-e).toNat)

/-- The exponent at which `n / d` has 53 bits, or the least one. -/
def exponentOf (n d : Nat) : Int :=
  let e : Int := n.log2 - d.log2 - 52
  let (p, q) := powRatio 2 e
  max minExponent (if n * q < leastNormal * (d * p) then e - 1 else e)

/-- The number nearest to `n / d`. -/
def ofRatio? (negative : Bool) (n d : Nat) : Option Binary64 :=
  if n = 0 then some (zero negative)
  else
    let e := exponentOf n d
    let (p, q) := powRatio 2 e
    let m := Decimal.divNearest (n * q) (d * p)
    let (m, e) := if m = 2 * leastNormal then (leastNormal, e + 1) else (m, e)
    if maxExponent < e then none else some ⟨negative, m, e⟩

/-- The number nearest to a natural number. -/
def ofNat? (negative : Bool) (n : Nat) : Option Binary64 := ofRatio? negative n 1

/-- The absolute value as an exact quotient. -/
def ratio (x : Binary64) : Nat × Nat :=
  let (p, q) := powRatio 2 x.exponent
  (x.significand * p, q)

/-- Multiply by the number nearest to `10 ^ k`, or divide by the number nearest
to `10 ^ -k` when `k` is negative. -/
def scaleTen? (x : Binary64) (k : Int) : Option Binary64 :=
  (ofNat? false (Decimal.tenTo k.natAbs)).bind fun power =>
    let (n, d) := x.ratio
    let (p, q) := power.ratio
    if 0 ≤ k then ofRatio? x.negative (n * p) (d * q)
    else ofRatio? x.negative (n * q) (d * p)

/-- The 64 bits: sign, biased exponent, and the significand without its top bit. -/
def toBits (x : Binary64) : Nat :=
  let magnitude :=
    if x.significand < leastNormal then x.significand
    else (x.exponent - minExponent).toNat * leastNormal + x.significand
  if x.negative then 0x8000000000000000 + magnitude else magnitude

end Binary64

end BookSync
