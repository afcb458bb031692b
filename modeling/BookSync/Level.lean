/-
Price levels, as messages carry them.

* **`Decimal.ofText?`** reads a decimal from a text with blanks around it;
* **`Json.Decoder.decimal`** reads one from a JSON number or text;
* **`Level.decoder`** reads a price level.
-/
import BookSync.Decimal.Numeral
import BookSync.Error
import BookSync.Json.Fields
import BookSync.Text.Blank

namespace BookSync

/-- Number of a batch or snapshot in the sequence of a book. -/
abbrev SequenceId := UInt64

/-- Milliseconds since the start of 1970. -/
abbrev Millis := UInt64

/-! ### Decimals in messages -/

/-- The decimal written in a text, blanks around it aside. -/
def Decimal.ofText? (s : String) : Option Decimal :=
  Decimal.ofNumeral? (Text.trim s.toList)

/-- The decimal written in the text of a field. -/
def Decimal.parse (field s : String) : Except DecodeError Decimal :=
  match Decimal.ofText? s with
  | some d => .ok d
  | none => .error (.invalidDecimal field s)

namespace Json.Decoder

/-- What the decoder of decimals asks for. -/
def decimalKind : String := "a decimal number or numeric string"

/-- The decimal in a text. -/
def decimalText (s : String) : Except Fault Decimal :=
  match Decimal.ofText? s with
  | some d => .ok d
  | none => .error (.invalidValue (.text s) decimalKind)

/-- A decimal, as a text or a number. A floating point number counts as the
text of its shortest digits. -/
def decimal : Decoder Decimal
  | .text s => decimalText s
  | .number (.integer n) =>
    match Decimal.ofCoeff? n 0 with
    | some d => .ok d
    | none => .error (.invalidValue (.number (.integer n)) decimalKind)
  | .number (.float x) => decimalText (String.ofList x.positional)
  | d => .error (mismatch decimalKind d)

/-- A decimal, or nothing for null and for a blank text. -/
def blankable : Decoder (Option Decimal) := fun d =>
  d.value?.bind fun v =>
    match v with
    | .null => .ok none
    | .text s => if (Text.trim s.toList).isEmpty then .ok none else (decimalText s).map some
    | v => (decimal v.toDraft).map some

end Json.Decoder

/-! ### Levels -/

/-- An amount on offer at a price. -/
structure Level where
  price : Decimal
  size : Decimal
  deriving DecidableEq

open Json Fields in
/-- The fields of a price level. -/
def Level.fields : Fields Level :=
  Level.mk <$> required "p" Decoder.decimal <*> required "s" Decoder.decimal

/-- A price level. -/
def Level.decoder : Json.Decoder Level := Json.Decoder.record "LevelUpdate" Level.fields

/-- The first level with a size below zero, as an error. -/
def Level.firstNegative? (levels : List Level) : Option DecodeError :=
  (levels.find? (·.size.isNegative)).map fun l => .negativeSize l.size l.price

end BookSync
