/-
Reading JSON texts.

`readDraft` makes the draft of the value at the front of a text, and what
follows it unless the text broke off. Lists and objects may be nested 127 deep;
a deeper one is refused, though it can still be skipped.

* **`Draft.ofText`** is the draft of a whole text;
* **`ofText?`** decodes a whole text, behind which only blanks may follow;
* **`Value.ofText?`** is its value.
-/
import BookSync.Json.Draft
import BookSync.Json.Number
import BookSync.Json.Text

namespace BookSync.Json

/-- Blanks between the tokens of a JSON text. -/
def isGap (c : Char) : Bool := c = ' ' || c = '\n' || c = '\t' || c = '\r'

/-- The text without the blanks at its front. -/
def skipGap (cs : List Char) : List Char := cs.dropWhile isGap

/-- A draft and the text behind it; no text behind a draft that broke off. -/
abbrev Step (α : Type) := α × Option (List Char)

/-- A draft that broke off, with the same fault for all walkers. -/
def breakOff (f : Fault) : Step Draft := (.broken f f, none)

/-- The rest of a fixed word. -/
def readWord (d : Draft) : List Char → List Char → Step Draft
  | [], cs => (d, some cs)
  | _ :: _, [] => breakOff .endInValue
  | w :: ws, c :: cs => if w = c then readWord d ws cs else breakOff .expectedIdent

/-- A numeral, behind its sign. -/
def readNumber (negative : Bool) (cs : List Char) : Step Draft :=
  match Numeral.scan negative cs with
  | .error f => (.broken f .badNumber, none)
  | .ok (numeral, rest) =>
    match numeral.value? with
    | some n => (.number n, some rest)
    | none => (.refused .numberOutOfRange .null, some rest)

/-- A string literal, behind its opening quote: its text for a reader, and what
follows it or the fault for a skipper. -/
def readLiteral (cs : List Char) : Except Fault String × Except Fault (List Char) :=
  let (pieces, stop) := cut cs
  ((join stop pieces).map String.ofList,
    match stop with
    | .closed rest => .ok rest
    | _ => .error (stop.fault?.getD .endInText))

/-- A string literal as a draft. -/
def readText (cs : List Char) : Step Draft :=
  match readLiteral cs with
  | (.ok s, .ok rest) => (.text s, some rest)
  | (.error f, .ok rest) => (.refused f .null, some rest)
  | (.ok _, .error f) => (.broken f f, none)
  | (.error f, .error g) => (.broken f g, none)

/-- How deep lists and objects may be nested. -/
def maxDepth : Nat := 127

/-- A list or object inside `depth` others, refused if that is too deep. -/
def nested (depth : Nat) (d : Draft) : Draft :=
  if depth < maxDepth then d else .refused .recursionLimit d

mutual

/-- The value at the front of a text, inside `depth` lists and objects. -/
def readDraft : Nat → Nat → List Char → Step Draft
  | 0, _, _ => breakOff .endInValue
  | fuel + 1, depth, cs =>
    match skipGap cs with
    | [] => breakOff .endInValue
    | c :: rest =>
      match c with
      | 'n' => readWord .null ['u', 'l', 'l'] rest
      | 't' => readWord (.bool true) ['r', 'u', 'e'] rest
      | 'f' => readWord (.bool false) ['a', 'l', 's', 'e'] rest
      | '"' => readText rest
      | '-' => readNumber true rest
      | '[' =>
        let (items, rest) := readItems fuel (depth + 1) true rest
        (nested depth (.array .trailingCharacters items), rest)
      | '\x7b' =>
        let (members, rest) := readMembers fuel (depth + 1) true rest
        (nested depth (.object members), rest)
      | _ => if (Decimal.digit? c).isSome then readNumber false (c :: rest)
        else breakOff .expectedValue

/-- The items of a list, with a comma before each but the first. -/
def readItems : Nat → Nat → Bool → List Char → Step Items
  | 0, _, _, _ => (.broken .endInList .endInList, none)
  | fuel + 1, depth, first, cs =>
    let more (cs : List Char) : Step Items :=
      match readDraft fuel depth cs with
      | (head, none) => (.item head .closed, none)
      | (head, some rest) =>
        let (tail, rest) := readItems fuel depth false rest
        (.item head tail, rest)
    match skipGap cs with
    | [] => (.broken .endInList .endInList, none)
    | ']' :: rest => (.closed, some rest)
    | c :: rest =>
      if first then more (c :: rest)
      else if c = ',' then
        match skipGap rest with
        | [] => (.broken .endInValue .endInValue, none)
        | ']' :: _ => (.broken .trailingComma .expectedValue, none)
        | rest => more rest
      else (.broken .expectedListSeparator .expectedListSeparator, none)

/-- The members of an object, with a comma before each but the first. -/
def readMembers : Nat → Nat → Bool → List Char → Step Members
  | 0, _, _, _ => (.broken .endInObject .endInObject, none)
  | fuel + 1, depth, first, cs =>
    let value (key : Except Fault String) (cs : List Char) : Step Members :=
      match skipGap cs with
      | [] => (.member key (.broken .endInObject .endInObject) .closed, none)
      | ':' :: rest =>
        match readDraft fuel depth rest with
        | (head, none) => (.member key head .closed, none)
        | (head, some rest) =>
          let (tail, rest) := readMembers fuel depth false rest
          (.member key head tail, rest)
      | _ => (.member key (.broken .expectedColon .expectedColon) .closed, none)
    let more (cs : List Char) : Step Members :=
      match cs with
      | '"' :: rest =>
        match readLiteral rest with
        | (key, .ok rest) => value key rest
        | (.error f, .error g) => (.broken f g, none)
        | (.ok _, .error g) => (.broken g g, none)
      | _ => (.broken .keyNotText .keyNotText, none)
    match skipGap cs with
    | [] => (.broken .endInObject .endInObject, none)
    | '\x7d' :: rest => (.closed, some rest)
    | c :: rest =>
      if first then more (c :: rest)
      else if c = ',' then
        match skipGap rest with
        | [] => (.broken .endInValue .endInObject, none)
        | '\x7d' :: _ => (.broken .trailingComma .keyNotText, none)
        | rest => more rest
      else (.broken .expectedObjectSeparator .expectedObjectSeparator, none)

end

/-- The draft of a text and what follows it. A value and the list around it
take two steps for a character at most. -/
def Draft.ofChars (cs : List Char) : Step Draft := readDraft (2 * cs.length + 2) 0 cs

/-- Decode a whole text. -/
def ofText? {α : Type} (decode : Draft → Except Fault α) (text : String) : Except Fault α :=
  let (draft, rest) := Draft.ofChars text.toList
  (decode draft).bind fun a =>
    if (skipGap (rest.getD [])).isEmpty then .ok a else .error .trailingCharacters

/-- The value of a whole text. -/
def Value.ofText? (text : String) : Except Fault Value := Json.ofText? Draft.value? text

end BookSync.Json
