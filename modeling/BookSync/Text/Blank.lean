/-
Blank characters and trimming.

* **`isBlank`** is the White_Space property of Unicode;
* **`trim`** takes the blanks off both ends of a text.
-/
import BookSync.Text.Ranges

namespace BookSync.Text

/-- The code points of blank characters, ascending. -/
def blankRanges : Ranges := #[
  (0x9, 0xd), (0x20, 0x20), (0x85, 0x85), (0xa0, 0xa0), (0x1680, 0x1680), (0x2000, 0x200a),
  (0x2028, 0x2029), (0x202f, 0x202f), (0x205f, 0x205f), (0x3000, 0x3000)]

/-- The character is white space. -/
def isBlank (c : Char) : Bool := blankRanges.covers c

/-- The text without the blanks at its two ends. -/
def trim (cs : List Char) : List Char :=
  ((cs.dropWhile isBlank).reverse.dropWhile isBlank).reverse

end BookSync.Text
