/-
Cutting texts at separators.

* **`splitAtFirst?`** and **`splitAtLast?`** cut at one occurrence of a
  character, if it occurs;
* **`splitOn`** cuts at all separators.

The separators themselves are in none of the parts.
-/

namespace BookSync.Text

/-- The two sides of the first occurrence of a character. -/
def splitAtFirst? (sep : Char) (cs : List Char) : Option (List Char × List Char) :=
  match cs.span (· ≠ sep) with
  | (_, []) => none
  | (before, _ :: after) => some (before, after)

/-- The two sides of the last occurrence of a character. -/
def splitAtLast? (sep : Char) : List Char → Option (List Char × List Char)
  | [] => none
  | c :: cs =>
    match splitAtLast? sep cs with
    | some (before, after) => some (c :: before, after)
    | none => if c = sep then some ([], cs) else none

/-- The parts of a text between separators; one more than there are separators. -/
def splitOn (isSep : Char → Bool) : List Char → List (List Char)
  | [] => [[]]
  | c :: cs =>
    if isSep c then [] :: splitOn isSep cs
    else
      match splitOn isSep cs with
      | [] => [[c]]
      | part :: parts => (c :: part) :: parts

end BookSync.Text
