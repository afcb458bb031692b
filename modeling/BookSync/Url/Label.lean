/-
Labels, of which the names of hosts consist.

A label is a text in the characters that names have. It does not begin with a
mark, and a joiner stands only where it has an effect: behind a virama, or,
if it keeps letters apart, between letters that would be joined.

In a name that has letters written to the left anywhere, each label keeps to
one direction: it begins with a letter, ends with a letter or number of that
direction, marks aside, and numbers of two kinds are not mixed.

* **`Label.isSound`** tells what can be a label at all;
* **`Label.keepsDirection`** is the rule for names with letters written to the
  left, and **`Label.turnsLeft`** tells that there are such letters.
-/
import BookSync.Text.Joining
import BookSync.Text.Marks

namespace BookSync.Url.Label

/-! ### Joiners -/

/-- A character that keeps the letters around it apart. -/
def nonJoiner : Char := '\u200c'

/-- A character that joins the letters around it. -/
def joiner : Char := '\u200d'

/-- The character is one of the two joiners. -/
def isJoiner (c : Char) : Bool := c = nonJoiner || c = joiner

/-- The combining class of viramas, which suppress the vowel of a letter. -/
def viramaClass : Nat := 9

/-- A joiner between the reversed text `before` and the text `after` has an effect. -/
def joinerFits (before : List Char) (c : Char) (after : List Char) : Bool :=
  match before with
  | [] => false
  | b :: _ =>
    Text.combiningClass b = viramaClass ||
      (c = nonJoiner && Text.joinsForward before && Text.joinsBackward after)

/-- Every joiner has an effect; the reversed text `before` stands in front. -/
def joinersFit (before : List Char) : List Char → Bool
  | [] => true
  | c :: cs => (!isJoiner c || joinerFits before c cs) && joinersFit (c :: before) cs

/-- The text can be a label. -/
def isSound (cs : List Char) : Bool := !cs.head?.any Text.isMark && joinersFit [] cs

/-! ### Direction -/

open Text (Direction)

/-- A character makes the direction of a name matter. -/
def turnsLeft (cs : List Char) : Bool :=
  cs.any fun c => Text.direction c = .left || Text.direction c = .arabicNumber

/-- The directions that a label in the direction `d` may contain. -/
def allows (d : Direction) : Direction → Bool
  | .right => d = .right
  | .left => d = .left
  | .arabicNumber => d = .left
  | .europeanNumber | .neutral | .mark => true

/-- The directions that a label may end with. -/
def endsWell (d : Direction) : Bool := d ≠ .neutral && d ≠ .mark

/-- The label keeps to one direction. -/
def keepsDirection : List Char → Bool
  | [] => true
  | c :: cs =>
    let d := Text.direction c
    let rest := (cs.map Text.direction).reverse.dropWhile (· = .mark)
    (d = .right || d = .left) && rest.head?.all endsWell && rest.all (allows d) &&
      !(rest.contains .europeanNumber && rest.contains .arabicNumber)

end BookSync.Url.Label
