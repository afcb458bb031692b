/-
Lower casing of a text, whatever its script.

Each character goes to its own lower case form, with two exceptions: a capital
I with a dot keeps the dot as a combining mark, and a capital sigma at the end
of a word takes the final form.
-/
import BookSync.Text.CaseTables

namespace BookSync.Text

/-- The lower case form of one character, looked at alone. -/
def lowerChar (c : Char) : Char :=
  match lowerRuns.find? (·.covers c) with
  | some r => r.move c
  | none => c

/-- The nearest character that is not case ignorable is cased. -/
def meetsCased (cs : List Char) : Bool :=
  match cs.dropWhile caseIgnorableRanges.covers with
  | [] => false
  | c :: _ => casedRanges.covers c

/-- Lower case `cs`, which follows the reversed text `before`. -/
def lowerAfter (before : List Char) : List Char → List Char
  | [] => []
  | c :: cs =>
    let form :=
      if c = 'Σ' then [if meetsCased before && !meetsCased cs then 'ς' else 'σ']
      else if c = 'İ' then ['i', '\u0307']
      else [lowerChar c]
    form ++ lowerAfter (c :: before) cs

/-- The text in lower case. -/
def lower (s : String) : String := String.ofList (lowerAfter [] s.toList)

end BookSync.Text
