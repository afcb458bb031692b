/-
JSON numerals.

A numeral is taken apart first and evaluated afterwards. Taking apart only
looks at the form; evaluation may still find the number out of range.

* **`Numeral.scan`** takes a numeral off the front of a text;
* **`Numeral.value?`** evaluates it: the digits go into one significand of 64
  bits, fraction digits that no longer fit are left out, whole digits that no
  longer fit count as powers of ten, and a single floating point product or
  quotient applies the power.
-/
import BookSync.Decimal.Numeral
import BookSync.Json.Fault

namespace BookSync.Json

/-! ### The form -/

/-- The digits at the front of a text. -/
def takeDigits : List Char → List Nat × List Char
  | [] => ([], [])
  | c :: cs =>
    match Decimal.digit? c with
    | some d => let (ds, rest) := takeDigits cs; (d :: ds, rest)
    | none => ([], c :: cs)

/-- A numeral taken apart. -/
structure Numeral where
  negative : Bool
  whole : List Nat
  /-- The digits after the point; no digits if there is no point. -/
  fraction : List Nat
  /-- Sign and digits of the exponent. -/
  exponent : Option (Bool × List Nat)

namespace Numeral

/-- A numeral that breaks off. A reader tells the end of the input from a wrong
character, one that only skips does not. -/
def brokenAt (rest : List Char) : Fault :=
  if rest.isEmpty then .endInValue else .badNumber

/-- The exponent part, if there is one. -/
def scanExponent : List Char → Except Fault (Option (Bool × List Nat) × List Char)
  | [] => .ok (none, [])
  | c :: cs =>
    if c = 'e' ∨ c = 'E' then
      let (negative, body) := match cs with
        | '+' :: rest => (false, rest)
        | '-' :: rest => (true, rest)
        | _ => (false, cs)
      match takeDigits body with
      | ([], rest) => .error (brokenAt rest)
      | (ds, rest) => .ok (some (negative, ds), rest)
    else .ok (none, c :: cs)

/-- The digits after a point, if there is one. -/
def scanFraction : List Char → Except Fault (List Nat × List Char)
  | '.' :: cs =>
    match takeDigits cs with
    | ([], rest) => .error (brokenAt rest)
    | (ds, rest) => .ok (ds, rest)
  | cs => .ok ([], cs)

/-- The digits before the point; a leading zero stands alone. -/
def scanWhole (cs : List Char) : Except Fault (List Nat × List Char) :=
  match takeDigits cs with
  | ([], rest) => .error (brokenAt rest)
  | (0 :: _ :: _, _) => .error .badNumber
  | (ds, rest) => .ok (ds, rest)

/-- Take an unsigned numeral off the front of a text. -/
def scan (negative : Bool) (cs : List Char) : Except Fault (Numeral × List Char) := do
  let (whole, cs) ← scanWhole cs
  let (fraction, cs) ← scanFraction cs
  let (exponent, cs) ← scanExponent cs
  return (⟨negative, whole, fraction, exponent⟩, cs)

/-! ### The value -/

/-- Push digits while the number fits 64 bits; also how many are left. -/
def accumulate (n : Nat) : List Nat → Nat × Nat
  | [] => (n, 0)
  | d :: ds =>
    if Decimal.push n d < UInt64.size then accumulate (Decimal.push n d) ds
    else (n, ds.length + 1)

/-- Divide by large powers of ten in steps of 308, then once more by the rest. -/
def shrink? : Nat → Binary64 → Nat → Option Binary64
  | 0, x, _ => some (.zero x.negative)
  | steps + 1, x, k =>
    if k ≤ 308 then x.scaleTen? (-k)
    else if x.significand = 0 then some x
    else (x.scaleTen? (-308)).bind fun y => shrink? steps y (k - 308)

/-- The number `significand * 10 ^ power` in floating point. Three steps down
take every significand to zero. -/
def float? (negative : Bool) (significand : Nat) (power : Int) : Option Binary64 :=
  (Binary64.ofNat? negative significand).bind fun x =>
    if power < 0 then shrink? 4 x power.natAbs
    else if power ≤ 308 then x.scaleTen? power
    else if x.significand = 0 then some x
    else none

/-- The value of a numeral, unless it is out of range. -/
def value? (s : Numeral) : Option Number :=
  let (n, dropped) := accumulate 0 s.whole
  let (m, left) := accumulate n s.fraction
  let power : Int := dropped - (s.fraction.length - left : Nat)
  match s.exponent with
  | some (negative, ds) =>
    let e : Nat := ds.foldl Decimal.push 0
    (float? s.negative m (if negative then power - e else power + e)).map .float
  | none =>
    if dropped = 0 ∧ s.fraction.isEmpty then
      if !s.negative then some (.integer n)
      else if 0 < n ∧ n ≤ 0x8000000000000000 then some (.integer (-n))
      else (Binary64.ofNat? true n).map .float
    else (float? s.negative m power).map .float

end Numeral

end BookSync.Json
