/-
JSON values and their compact text.

The members of an object stand in ascending order of their names, each name
once. The compact text has no blanks, and escapes only what has to be escaped.
-/
import BookSync.Json.Fault

namespace BookSync.Json

/-- A JSON value. -/
inductive Value
  | null
  | bool (b : Bool)
  | number (n : Number)
  | text (s : String)
  | array (items : List Value)
  | object (members : List (String × Value))
  deriving Inhabited

/-- Put a member in its place; a member of that name is replaced. -/
def insertMember (key : String) (v : Value) : List (String × Value) → List (String × Value)
  | [] => [(key, v)]
  | (k, w) :: rest =>
    if key < k then (key, v) :: (k, w) :: rest
    else if key = k then (key, v) :: rest
    else (k, w) :: insertMember key v rest

namespace Value

/-- The value of a member, if the value is an object that has it. -/
def get? (v : Value) (key : String) : Option Value :=
  match v with
  | .object members => members.lookup key
  | _ => none

/-- The text, if the value is one. -/
def text? : Value → Option String
  | .text s => some s
  | _ => none

/-- The value is null. -/
def isNull : Value → Bool
  | .null => true
  | _ => false

end Value

/-! ### Compact text -/

/-- The last two digits of an escape for a control character. -/
def controlDigits (c : Char) : List Char :=
  [Nat.digitChar (c.toNat / 16), Nat.digitChar (c.toNat % 16)]

/-- How one character stands in a string literal. -/
def escapeChar (c : Char) : List Char :=
  match c with
  | '"' => ['\\', '"']
  | '\\' => ['\\', '\\']
  | '\x08' => ['\\', 'b']
  | '\x0c' => ['\\', 'f']
  | '\n' => ['\\', 'n']
  | '\r' => ['\\', 'r']
  | '\t' => ['\\', 't']
  | _ => if c < ' ' then ['\\', 'u', '0', '0'] ++ controlDigits c else [c]

/-- A string literal. -/
def literal (s : String) : List Char := '"' :: s.toList.flatMap escapeChar ++ ['"']

/-- The text of a number. -/
def Number.toChars : Number → List Char
  | .integer n => (toString n).toList
  | .float x => x.compact

namespace Value

mutual

/-- The compact text of a value. -/
def toChars : Value → List Char
  | null => "null".toList
  | bool true => "true".toList
  | bool false => "false".toList
  | number n => n.toChars
  | text s => literal s
  | array items => '[' :: itemsToChars items ++ [']']
  | object members => '\x7b' :: membersToChars members ++ ['\x7d']

/-- Items with commas between them. -/
def itemsToChars : List Value → List Char
  | [] => []
  | [v] => v.toChars
  | v :: w :: rest => v.toChars ++ ',' :: itemsToChars (w :: rest)

/-- Members with commas between them. -/
def membersToChars : List (String × Value) → List Char
  | [] => []
  | [(k, v)] => literal k ++ ':' :: v.toChars
  | (k, v) :: m :: rest => literal k ++ ':' :: v.toChars ++ ',' :: membersToChars (m :: rest)

end

/-- The compact text of a value. -/
def compact (v : Value) : String := String.ofList v.toChars

end Value

end BookSync.Json
