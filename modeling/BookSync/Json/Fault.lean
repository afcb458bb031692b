/-
What can be wrong with a JSON text or with the value it holds.

A fault of the text is a fault of syntax or an early end of input; a fault of
the data is a value that is well written but not what was asked for. Each
fault has one message, `Fault.message`, and one class, `Fault.category`.
-/
import BookSync.Binary64.Shortest
import BookSync.Text.Quoted

namespace BookSync.Json

/-- A JSON number: an exact integer if it is written as one and fits 64 bits,
signed or unsigned, and a floating point number otherwise. -/
inductive Number
  | integer (n : Int)
  | float (x : Binary64)
  deriving DecidableEq

/-- What a value was found to be, when something else was expected. -/
inductive Found
  | null
  | bool (b : Bool)
  | number (n : Number)
  | text (s : String)
  | sequence
  | map

/-- The words for a found value. -/
def Found.describe : Found → String
  | .null => "null"
  | .bool b => s!"boolean `{b}`"
  | .number (.integer n) => s!"integer `{n}`"
  | .number (.float x) => "floating point `" ++ String.ofList x.compact ++ "`"
  | .text s => "string " ++ Text.quoted s
  | .sequence => "sequence"
  | .map => "map"

/-- The three classes of faults. -/
inductive Category
  | syntactic
  | data
  | eof
  deriving DecidableEq

/-- A fault of a JSON text or of its data. -/
inductive Fault
  | endInList
  | endInObject
  | endInText
  | endInValue
  | expectedColon
  | expectedListSeparator
  | expectedObjectSeparator
  | expectedIdent
  | expectedValue
  | badEscape
  | badNumber
  | numberOutOfRange
  | controlCharacter
  | keyNotText
  | loneSurrogate
  | halfSurrogatePair
  | trailingComma
  | trailingCharacters
  | recursionLimit
  | invalidType (found : Found) (expected : String)
  | invalidValue (found : Found) (expected : String)
  | invalidLength (length : Nat) (expected : String)
  | missingField (name : String)
  | duplicateField (name : String)

namespace Fault

/-- The class of a fault. -/
def category : Fault → Category
  | endInList | endInObject | endInText | endInValue => .eof
  | invalidType .. | invalidValue .. | invalidLength .. | missingField _ | duplicateField _ =>
    .data
  | _ => .syntactic

/-- The message of a fault. -/
def message : Fault → String
  | endInList => "EOF while parsing a list"
  | endInObject => "EOF while parsing an object"
  | endInText => "EOF while parsing a string"
  | endInValue => "EOF while parsing a value"
  | expectedColon => "expected `:`"
  | expectedListSeparator => "expected `,` or `]`"
  | expectedObjectSeparator => "expected `,` or `\x7d`"
  | expectedIdent => "expected ident"
  | expectedValue => "expected value"
  | badEscape => "invalid escape"
  | badNumber => "invalid number"
  | numberOutOfRange => "number out of range"
  | controlCharacter =>
    "control character (\\u0000-\\u001F) found while parsing a string"
  | keyNotText => "key must be a string"
  | loneSurrogate => "lone leading surrogate in hex escape"
  | halfSurrogatePair => "unexpected end of hex escape"
  | trailingComma => "trailing comma"
  | trailingCharacters => "trailing characters"
  | recursionLimit => "recursion limit exceeded"
  | invalidType found expected =>
    "invalid type: " ++ found.describe ++ ", expected " ++ expected
  | invalidValue found expected =>
    "invalid value: " ++ found.describe ++ ", expected " ++ expected
  | invalidLength length expected => s!"invalid length {length}, expected {expected}"
  | missingField name => s!"missing field `{name}`"
  | duplicateField name => s!"duplicate field `{name}`"

end Fault

end BookSync.Json
