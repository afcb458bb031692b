/-
Percent encoding.

Each part of a URL has a set of ASCII characters that are written as the
hexadecimal digits of their bytes. Control characters and everything beyond
ASCII are always written so.

* **`encode`** writes a text, given such a set;
* **`decode`** gives the bytes of an encoded text; a percent sign without two
  hexadecimal digits behind it stands for itself.
-/
import BookSync.Text.Hex
import BookSync.Text.Utf8

namespace BookSync.Url.Percent

/-! ### Sets -/

/-- ASCII characters that are encoded in some part of a URL. -/
abbrev Reserved := List Char

/-- Nothing but what is always encoded. -/
def bare : Reserved := []

/-- Encoded in a fragment. -/
def fragment : Reserved := [' ', '"', '<', '>', '\x60']

/-- Encoded in a segment of a path. -/
def path : Reserved := fragment ++ ['#', '?', '\x7b', '\x7d']

/-- Encoded in a user name or password. -/
def userinfo : Reserved := path ++ ['/', ':', ';', '=', '@', '[', '\\', ']', '^', '|']

/-- Encoded in a query. -/
def query : Reserved := [' ', '"', '#', '<', '>']

/-- Encoded in a query of a special scheme. -/
def specialQuery : Reserved := query ++ ['\'']

/-! ### Writing -/

/-- An upper case hexadecimal digit. -/
def hexDigit (n : Nat) : Char := (Nat.digitChar n).toUpper

/-- An encoded byte. -/
def encodeByte (b : UInt8) : List Char :=
  ['%', hexDigit (b.toNat / 16), hexDigit (b.toNat % 16)]

/-- The character is encoded whatever the set. -/
def isForeign (c : Char) : Bool := c < ' ' || '~' < c

/-- One character. -/
def encodeChar (reserved : Reserved) (c : Char) : List Char :=
  if isForeign c || reserved.contains c then (String.utf8EncodeChar c).flatMap encodeByte else [c]

/-- A text. -/
def encode (reserved : Reserved) (cs : List Char) : List Char := cs.flatMap (encodeChar reserved)

/-! ### Reading -/

/-- The bytes of an encoded text. -/
def decode : List Char → List UInt8
  | [] => []
  | '%' :: a :: b :: rest =>
    match Text.hexDigit? a, Text.hexDigit? b with
    | some x, some y => UInt8.ofNat (x * 16 + y) :: decode rest
    | _, _ => String.utf8EncodeChar '%' ++ decode (a :: b :: rest)
  | c :: rest => String.utf8EncodeChar c ++ decode rest

end BookSync.Url.Percent
