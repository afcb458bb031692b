/-
Reading decimal numerals.

A *plain* numeral is an optional sign and digits with at most one point among
them; an underscore may stand anywhere after the first digit. A *scaled*
numeral is a plain one, the letter `e` or `E`, and a power of ten.

* **`Decimal.ofDigits?`** keeps as many fraction digits as the bounds allow
  and rounds half up on the next one alone, unless an underscore hides it;
* **`Decimal.ofPlain?`** and **`Decimal.ofScaled?`** read the two forms;
* **`Decimal.ofNumeral?`** tries them in this order.

Only a scaled numeral can denote a zero with a minus: one that is rounded to
zero. A point too many, a stray letter or a missing digit is refused wherever it
stands, also behind the digits that are rounded away.
-/
import BookSync.Decimal.Basic

namespace BookSync.Decimal

/-! ### Digits -/

/-- The value of a decimal digit. -/
def digit? (c : Char) : Option Nat :=
  if '0' ≤ c ∧ c ≤ '9' then some (c.toNat - '0'.toNat) else none

/-- Append one digit to a number. -/
def push (n d : Nat) : Nat := n * 10 + d

/-- A digit after the point. -/
structure Place where
  digit : Nat
  /-- An underscore stands in front of the digit. -/
  separated : Bool

/-- How far an unsigned numeral has been read. -/
structure Progress where
  /-- A digit has been read. -/
  started : Bool
  /-- The point has been read. -/
  pointed : Bool
  /-- The last character was an underscore. -/
  separated : Bool

/-- The digits before and after the point of an unsigned numeral. -/
def scan (p : Progress) : List Char → Option (List Nat × List Place)
  | [] => if p.started then some ([], []) else none
  | c :: cs =>
    match digit? c with
    | some d =>
      (scan ⟨true, p.pointed, false⟩ cs).map fun (whole, fraction) =>
        if p.pointed then (whole, ⟨d, p.separated⟩ :: fraction) else (d :: whole, fraction)
    | none =>
      if c = '.' ∧ !p.pointed then scan ⟨p.started, true, false⟩ cs
      else if c = '_' ∧ p.started then scan ⟨true, p.pointed, true⟩ cs
      else none

/-! ### Rounding -/

/-- Round up by one unit; past the largest coefficient the last digit goes too. -/
def roundUp? (n scale : Nat) : Option (Nat × Nat) :=
  if n + 1 < bound then some (n + 1, scale)
  else if scale = 0 then none
  else some ((n + 5) / 10, scale - 1)

/-- A coefficient is short if, with a byte added before its last digit, it
still fits in a machine word. -/
def isShort (n : Nat) : Bool := n / 10 + 255 < (UInt64.size - 1) / 10

/-- The first digit that has no place rounds up. Behind a short coefficient an
underscore hides it. -/
def roundsUp (n : Nat) (p : Place) : Bool := 5 ≤ p.digit && !(p.separated && isShort n)

/-- Take in fraction digits while the bounds allow; the first that does not
fit decides the rounding, and the ones behind it count for nothing. -/
def takeFraction (n scale : Nat) : List Place → Option (Nat × Nat)
  | [] => some (n, scale)
  | p :: ps =>
    if scale < 28 ∧ push n p.digit < bound then takeFraction (push n p.digit) (scale + 1) ps
    else if roundsUp n p then roundUp? n scale
    else some (n, scale)

/-- The decimal with these digits before and after the point. -/
def ofDigits? (negative : Bool) (whole : List Nat) (fraction : List Place) : Option Decimal :=
  let n := whole.foldl push 0
  if n < bound then
    (takeFraction n 0 fraction).bind fun (m, scale) =>
      ofCoeff? (if negative then -(m : Int) else m) scale
  else none

/-! ### The two forms -/

/-- Take an optional sign off a numeral. -/
def splitSign : List Char → Bool × List Char
  | '-' :: cs => (true, cs)
  | '+' :: cs => (false, cs)
  | cs => (false, cs)

/-- A plain numeral. -/
def ofPlain? (cs : List Char) : Option Decimal :=
  let (negative, body) := splitSign cs
  (scan ⟨false, false, false⟩ body).bind fun (whole, fraction) => ofDigits? negative whole fraction

/-- A count: an optional `+` and at least one digit, nothing else. -/
def count? (cs : List Char) : Option Nat :=
  let body := match cs with
    | '+' :: rest => rest
    | _ => cs
  if body.isEmpty then none else (body.mapM digit?).map fun ds => ds.foldl push 0

/-- Drop the last `k` digits of `n`, a half or more going up. -/
def dropDigits (n k : Nat) : Nat := (2 * n + tenTo k) / (2 * tenTo k)

theorem dropDigits_le (n k : Nat) : dropDigits n k ≤ n := by
  have ht : 1 ≤ tenTo k := Nat.pow_pos (by decide)
  have hn : 1 * n ≤ tenTo k * n := Nat.mul_le_mul_right n ht
  refine Nat.le_of_lt_succ (Nat.div_lt_of_lt_mul ?_)
  rw [Nat.succ_eq_add_one, Nat.mul_assoc, Nat.mul_add]
  omega

/-- Divide by `10 ^ k`, by moving the point; digits past the 28th are rounded.
The sign stays even if nothing else does. -/
def scaleDown? (d : Decimal) (k : Nat) : Option Decimal :=
  if 28 < k then none
  else if h : d.scale + k ≤ 28 then some { d with scale := d.scale + k, scale_le := h }
  else some
    { d with
      magnitude := dropDigits d.magnitude (d.scale + k - 28)
      scale := 28
      magnitude_lt := Nat.lt_of_le_of_lt (dropDigits_le _ _) d.magnitude_lt
      scale_le := Nat.le_refl _ }

/-- Multiply by `10 ^ k`, by moving the point while there are fraction digits. -/
def scaleUp? (d : Decimal) (k : Nat) : Option Decimal :=
  if k ≤ d.scale then ofCoeff? d.coeff (d.scale - k)
  else if 28 < k then none
  else ofCoeff? (d.coeff * tenTo (k - d.scale)) 0

/-- A scaled numeral. -/
def ofScaled? (cs : List Char) : Option Decimal :=
  match cs.span fun c => c ≠ 'e' ∧ c ≠ 'E' with
  | (_, []) => none
  | (base, _ :: power) =>
    (ofPlain? base).bind fun d =>
      match power with
      | '-' :: ds => (count? ds).bind d.scaleDown?
      | ds => (count? ds).bind d.scaleUp?

/-- A numeral of either form. -/
def ofNumeral? (cs : List Char) : Option Decimal :=
  (ofPlain? cs).or (ofScaled? cs)

end BookSync.Decimal
