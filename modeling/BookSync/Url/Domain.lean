/-
Names of hosts in ASCII.

In a name, characters that look or mean the same are replaced by one of them:
letters go to lower case, forms and widths of their own are given up, and some
characters are left out. Its labels, between points, are then written in
Punycode behind `xn--` if they are not ASCII. A label that already is of that
form has to be one that would be written so.

* **`Domain.normal`** replaces characters;
* **`Domain.toAscii?`** is the name in ASCII, if it can be a name.
-/
import BookSync.Text.Composition
import BookSync.Text.Hidden
import BookSync.Text.Lower
import BookSync.Url.Address
import BookSync.Url.Label
import BookSync.Url.NameTables
import BookSync.Url.Punycode

namespace BookSync.Url.Domain

/-! ### Characters -/

/-- Visible ASCII characters, and the space, that no name has. -/
def forbidden : List Char :=
  [' ', '%', '#', '/', ':', '<', '>', '?', '@', '[', '\\', ']', '^', '|']

/-- The character cannot stand in a name. -/
def isForbidden (c : Char) : Bool :=
  forbidden.contains c || refusedRanges.covers c ||
    (Text.isHidden c && !Text.isMark c && !Label.isJoiner c)

/-- The image in one of the tables. -/
def listed? (c : Char) : Option (List Char) :=
  [letterImages, squareImages, arabicImages, formImages].findSome? fun images =>
    (images.find? (·.1 = c.toNat)).map (·.2.toList)

/-- The ideograph that replaces a radical. -/
def ofRadical? (c : Char) : Option Char :=
  if radicalBase ≤ c.toNat then (radicalImages[c.toNat - radicalBase]?).map Char.ofNat else none

/-- What replaces a character that has no parts. -/
def image (c : Char) : List Char :=
  if ignoredRanges.covers c then []
  else
    match listed? c with
    | some cs => cs
    | none =>
      match ofRadical? c, imageShifts.find? (·.covers c) with
      | some d, _ => [d]
      | none, some r => [r.move c]
      | none, none => [Text.lowerChar c]

/-- The text with all characters replaced, in composed form. Parts are replaced
for themselves, so that only characters without parts need an image. -/
def normal (cs : List Char) : List Char :=
  Text.composed ((cs.flatMap Text.decompose).flatMap image)

/-! ### Labels -/

/-- The text is ASCII. -/
def isAscii (cs : List Char) : Bool := cs.all (·.toNat < 0x80)

/-- What stands in front of Punycode. -/
def marker : List Char := ['x', 'n', '-', '-']

/-- The longest Punycode that is read. -/
def maxCode : Nat := 2000

/-- The longest label that is written in Punycode. -/
def maxLabel : Nat := 1000

/-- The label that Punycode stands for, if it is one that needs Punycode. -/
def ofCode? (code : List Char) : Option (List Char) :=
  if maxCode < code.length then none
  else
    (Punycode.decode? code).filter fun label =>
      !isAscii label && label.length ≤ maxLabel && !label.any isForbidden &&
        normal label == label && Label.isSound label && Punycode.encode label == code

/-- A label of a normal name, as it is shown and in ASCII. -/
def label? (cs : List Char) : Option (List Char × List Char) :=
  if marker.isPrefixOf cs then (ofCode? (cs.drop marker.length)).map fun shown => (shown, cs)
  else if isAscii cs then some (cs, cs)
  else if cs.length ≤ maxLabel ∧ Label.isSound cs then some (cs, marker ++ Punycode.encode cs)
  else none

/-- The name in ASCII. -/
def toAscii? (cs : List Char) : Option (List Char) := do
  let name := normal cs
  if name.any isForbidden then none
  else
    let labels ← (Text.splitOn (· = '.') name).mapM label?
    if labels.any (Label.turnsLeft ·.1) && !labels.all (Label.keepsDirection ·.1) then none
    else return ((labels.map (·.2)).intersperse ['.']).flatten

end BookSync.Url.Domain
