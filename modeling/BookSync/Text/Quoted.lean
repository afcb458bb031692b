/-
Quoted text, as messages show a value they complain about.

The text stands between double quotes. A double quote and a backslash get a
backslash, the four commonest control characters have short escapes, and any
other hidden character is written by its code point in hexadecimal.
-/
import BookSync.Text.Hidden

namespace BookSync.Text

/-- How one character stands inside the quotes. -/
def quoteChar (c : Char) : List Char :=
  match c with
  | '\x00' => ['\\', '0']
  | '\t' => ['\\', 't']
  | '\n' => ['\\', 'n']
  | '\r' => ['\\', 'r']
  | '"' => ['\\', '"']
  | '\\' => ['\\', '\\']
  | _ =>
    if isHidden c then ['\\', 'u', '\x7b'] ++ Nat.toDigits 16 c.toNat ++ ['\x7d'] else [c]

/-- The text in double quotes, with escapes. -/
def quoted (s : String) : String :=
  String.ofList ('"' :: s.toList.flatMap quoteChar ++ ['"'])

end BookSync.Text
