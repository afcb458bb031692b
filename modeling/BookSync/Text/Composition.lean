/-
Canonical composition of text.

Many characters can also be written as a letter with marks behind it. In
*composed* text each such group is one character where there is one, and marks
of different classes stand in one order, so that two texts that mean the same
are equal.

* **`decompose`** takes a character apart as far as possible;
* **`sortMarks`** brings the marks behind each letter in order;
* **`composeFrom`** puts letters and marks together;
* **`composed`** does one after the other.

A mark is joined to the letter in front of it, unless a mark of the same class
stands between them.
-/
import BookSync.Text.CompositeTables
import BookSync.Text.Marks

namespace BookSync.Text

/-! ### Hangul syllables

A syllable has a leading consonant, a vowel and perhaps a trailing consonant;
all combinations follow one another, those of one leading consonant and vowel
starting with the syllable that has no trailing one. -/

/-- The first Hangul syllable. -/
def syllableBase : Nat := 0xac00

/-- The first leading consonant. -/
def leadBase : Nat := 0x1100

/-- The first vowel. -/
def vowelBase : Nat := 0x1161

/-- The code point before the first trailing consonant. -/
def trailBase : Nat := 0x11a7

/-- How many leading consonants there are. -/
def leadCount : Nat := 19

/-- How many vowels there are. -/
def vowelCount : Nat := 21

/-- How many ways there are to end a syllable. -/
def trailCount : Nat := 28

/-- The code point is a Hangul syllable. -/
def isSyllable (n : Nat) : Bool :=
  syllableBase ≤ n && n < syllableBase + leadCount * vowelCount * trailCount

/-- The letters of the syllable `n`. -/
def syllableParts (n : Nat) : List Nat :=
  let i := n - syllableBase
  let trail := i % trailCount
  [leadBase + i / trailCount / vowelCount, vowelBase + i / trailCount % vowelCount] ++
    if trail = 0 then [] else [trailBase + trail]

/-- The syllable of two parts, of which the first may be a syllable. -/
def syllable? (a b : Nat) : Option Nat :=
  if leadBase ≤ a ∧ a < leadBase + leadCount ∧ vowelBase ≤ b ∧ b < vowelBase + vowelCount then
    some (syllableBase + ((a - leadBase) * vowelCount + (b - vowelBase)) * trailCount)
  else if isSyllable a ∧ (a - syllableBase) % trailCount = 0 ∧
      trailBase < b ∧ b < trailBase + trailCount then
    some (a + (b - trailBase))
  else none

/-! ### Taking apart -/

/-- What a character stands for that never stays in composed text. -/
def expansion? (n : Nat) : Option (List Nat) :=
  if ideographBase ≤ n ∧ n < ideographBase + ideographs.size then
    (ideographs[n - ideographBase]?).map ([·])
  else if rareIdeographBase ≤ n ∧ n < rareIdeographBase + rareIdeographs.size then
    (rareIdeographs[n - rareIdeographBase]?).map ([·])
  else (expansions.find? (·.1 = n)).map (·.2)

/-- The parts of the code point `n`, taken apart at most `depth` times. -/
def parts : Nat → Nat → List Nat
  | 0, n => [n]
  | depth + 1, n =>
    if n < 0x80 then [n]
    else if isSyllable n then syllableParts n
    else
      match composites.find? (·.1 = n) with
      | some (_, a, b) => parts depth a ++ [b]
      | none => (expansion? n).getD [n]

/-- All parts of a character; no character has more than four. -/
def decompose (c : Char) : List Char := (parts 3 c.toNat).map Char.ofNat

/-! ### Order of marks -/

/-- Put `c` in front of a text, behind all marks of a lower class. -/
def insertMark (c : Char) : List Char → List Char
  | [] => [c]
  | d :: ds =>
    if 0 < combiningClass d ∧ combiningClass d < combiningClass c then d :: insertMark c ds
    else c :: d :: ds

/-- The text with marks in order of class; those of one class stay as they are. -/
def sortMarks (cs : List Char) : List Char := cs.foldr insertMark []

/-! ### Putting together -/

/-- The character that `a` and `b` are composed to. -/
def composite? (a b : Char) : Option Char :=
  match syllable? a.toNat b.toNat with
  | some n => some (Char.ofNat n)
  | none =>
    (composites.find? fun r => r.2.1 = a.toNat && r.2.2 = b.toNat).map fun r => Char.ofNat r.1

/-- The marks behind a letter, last one first, leave the way to it free. -/
def isOpen (marks : List Char) (c : Char) : Bool :=
  match marks with
  | [] => true
  | m :: _ => combiningClass m < combiningClass c

/-- Compose the letter `base`, the marks behind it, last one first, and the
text that follows. -/
def composeFrom (base : Char) (marks : List Char) : List Char → List Char
  | [] => base :: marks.reverse
  | c :: cs =>
    match if isOpen marks c then composite? base c else none with
    | some d => composeFrom d marks cs
    | none =>
      if combiningClass c = 0 then base :: marks.reverse ++ composeFrom c [] cs
      else composeFrom base (c :: marks) cs

/-- The text in composed form. -/
def composed (cs : List Char) : List Char :=
  match sortMarks (cs.flatMap decompose) with
  | [] => []
  | c :: cs => composeFrom c [] cs

end BookSync.Text
