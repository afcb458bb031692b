/-
Punycode: text of any script in lower case letters, digits and hyphens.

The ASCII characters of a text come first, behind them a hyphen if there are
any, and then one number for each other character. Going through the others in
order of code point, the number tells how many places of insertion lie between
one and the next, where a place is a code point together with a position.
Numbers are written with digits of varying weight, adapted to the sizes seen
so far.

* **`encode`** and **`decode?`** are the two directions.
-/
import BookSync.Decimal.Numeral

namespace BookSync.Url.Punycode

/-! ### Numbers -/

/-- Divide until the number is small, counting 36 in `k` each time. -/
def adaptFrom (n k : Nat) : Nat :=
  if 455 < n then adaptFrom (n / 35) (k + 36) else k + 36 * n / (n + 38)
termination_by n
decreasing_by omega

/-- How the weights of digits are set after a number: `count` characters are
there now, and the first number is damped more. -/
def adapt (number count : Nat) (first : Bool) : Nat :=
  let n := if first then number / 700 else number / 2
  adaptFrom (n + n / count) 0

/-- The threshold of a digit: one below it is the last. -/
def threshold (k bias : Nat) : Nat := min 26 (max 1 (k - bias))

/-- The digit of a value below 36. -/
def digitChar (n : Nat) : Char :=
  if n < 26 then Char.ofNat ('a'.toNat + n) else Char.ofNat ('0'.toNat + (n - 26))

/-- The value of a digit. -/
def digitValue? (c : Char) : Option Nat :=
  if 'a' ≤ c ∧ c ≤ 'z' then some (c.toNat - 'a'.toNat)
  else if 'A' ≤ c ∧ c ≤ 'Z' then some (c.toNat - 'A'.toNat)
  else (Decimal.digit? c).map (· + 26)

/-- The digits of a number, least weight first. -/
def digits (bias k n : Nat) : List Char :=
  let t := threshold k bias
  if n < t then [digitChar n]
  else digitChar (t + (n - t) % (36 - t)) :: digits bias (k + 36) ((n - t) / (36 - t))
termination_by n
decreasing_by
  have ht : 1 ≤ threshold k bias := by unfold threshold; omega
  exact Nat.lt_of_le_of_lt (Nat.div_le_self _ _) (by omega)

/-! ### Writing -/

/-- How far the writing has got. -/
structure Writer where
  /-- The next code point to look at. -/
  code : Nat
  /-- How many places have been passed since the last number. -/
  passed : Nat
  bias : Nat
  /-- How many characters are there. -/
  count : Nat
  first : Bool
  /-- The output, last character first. -/
  written : List Char

/-- Pass a position; write a number if the character there is the one in turn. -/
def Writer.step (code : Nat) (w : Writer) (c : Char) : Writer :=
  if c.toNat < code then { w with passed := w.passed + 1 }
  else if c.toNat = code then
    { w with
      passed := 0
      bias := adapt w.passed (w.count + 1) w.first
      count := w.count + 1
      first := false
      written := (digits w.bias 36 w.passed).reverse ++ w.written }
  else w

/-- Write the numbers for all occurrences of one character. -/
def Writer.write (cs : List Char) (w : Writer) (code : Nat) : Writer :=
  let w := { w with passed := w.passed + (code - w.code) * (w.count + 1) }
  let w := cs.foldl (Writer.step code) w
  { w with passed := w.passed + 1, code := code + 1 }

/-- The encoded text. -/
def encode (cs : List Char) : List Char :=
  let basic := cs.filter (·.toNat < 0x80)
  let codes := (((cs.map (·.toNat)).filter (0x80 ≤ ·)).mergeSort (· ≤ ·)).eraseDups
  let w := codes.foldl (Writer.write cs) ⟨0x80, 0, 72, basic.length, true, []⟩
  basic ++ (if basic.isEmpty then [] else ['-']) ++ w.written.reverse

/-! ### Reading -/

/-- How far the reading has got. -/
structure Reader where
  /-- The code point that the next place belongs to. -/
  code : Nat
  /-- The position of the next place. -/
  position : Nat
  /-- The number read so far. -/
  number : Nat
  /-- The weight of the next digit. -/
  weight : Nat
  /-- The index of the next digit, counted in steps of 36. -/
  index : Nat
  bias : Nat
  first : Bool
  out : List Char

/-- Read a digit; with the last digit of a number, insert its character. -/
def Reader.step (r : Reader) (c : Char) : Option Reader := do
  let d ← digitValue? c
  let number := r.number + d * r.weight
  let t := threshold r.index r.bias
  if d < t then
    let count := r.out.length + 1
    let place := r.position + number
    let code := r.code + place / count
    if h : code.isValidChar then
      let position := place % count
      return {
        code := code
        position := position + 1
        number := 0
        weight := 1
        index := 36
        bias := adapt number count r.first
        first := false
        out := r.out.take position ++ Char.ofNatAux code h :: r.out.drop position }
    else none
  else
    return { r with number := number, weight := r.weight * (36 - t), index := r.index + 36 }

/-- The text before the last hyphen and the text after it. -/
def splitBasic (cs : List Char) : List Char × List Char :=
  let tail := (cs.reverse.takeWhile (· ≠ '-')).reverse
  (cs.take (cs.length - tail.length - 1), tail)

/-- The text that is encoded. -/
def decode? (cs : List Char) : Option (List Char) := do
  let (basic, numbers) := splitBasic cs
  let r ← numbers.foldlM Reader.step ⟨0x80, 0, 0, 1, 36, 72, true, basic⟩
  if r.index = 36 then return r.out else none

end BookSync.Url.Punycode
