/-
Pairs of names and values in a query.

Letters, digits and a few marks stand for themselves, a space is written as a
plus sign and any other byte by its hexadecimal digits, so that the signs that
divide pairs never come from a name or value.

* **`Form.encode`** writes pairs, **`Form.decode`** reads them back;
* **`Url.appendPairs`** puts pairs behind the query of a URL.
-/
import BookSync.Url.Basic

namespace BookSync.Url

namespace Form

/-- The character stands for itself. -/
def isSafe (c : Char) : Bool := c.isAlphanum || c = '*' || c = '-' || c = '.' || c = '_'

/-- One character of a name or value. -/
def encodeChar (c : Char) : List Char :=
  if isSafe c then [c]
  else if c = ' ' then ['+']
  else (String.utf8EncodeChar c).flatMap Percent.encodeByte

/-- A name or value. -/
def encodeText (s : String) : List Char := s.toList.flatMap encodeChar

/-- A pair. -/
def encodePair (p : String × String) : List Char := encodeText p.1 ++ '=' :: encodeText p.2

/-- Pairs. -/
def encode (ps : List (String × String)) : List Char :=
  ((ps.map encodePair).intersperse ['&']).flatten

/-- The name or value that a text encodes. -/
def decodeText (cs : List Char) : String :=
  String.ofList (Text.utf8Decode (Percent.decode (cs.map fun c => if c = '+' then ' ' else c)))

/-- The pair that a text encodes; without an equals sign all of it is the name. -/
def decodePair (cs : List Char) : String × String :=
  match Text.splitAtFirst? '=' cs with
  | some (name, value) => (decodeText name, decodeText value)
  | none => (decodeText cs, "")

/-- The pairs that a query encodes. -/
def decode (cs : List Char) : List (String × String) :=
  ((Text.splitOn (· = '&') cs).filter fun part => !part.isEmpty).map decodePair

end Form

/-- A query with pairs behind it. -/
def joinQuery (query pairs : List Char) : List Char :=
  if query.isEmpty then pairs
  else if pairs.isEmpty then query
  else query ++ '&' :: pairs

/-- The URL with pairs behind its query; it has a query then, even if there are
no pairs. -/
def appendPairs (u : Url) (ps : List (String × String)) : Url :=
  { u with query := some (String.ofList (joinQuery (u.query.getD "").toList (Form.encode ps))) }

end BookSync.Url
