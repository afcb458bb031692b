/-
JSON string literals.

A literal is first cut into *pieces*, the characters and the UTF-16 units that
its escapes name; only then are the units paired up. Cutting finds the end of
the literal, pairing may still fail on a surrogate that stands alone.

* **`cut`** cuts a literal into pieces, up to its closing quote or first fault;
* **`join`** makes the text of the pieces.
-/
import BookSync.Json.Fault
import BookSync.Text.Hex

namespace BookSync.Json

/-- A character, or one UTF-16 unit from a hexadecimal escape. -/
inductive Piece
  | char (c : Char)
  | unit (n : Nat)

/-- Why the cutting of a literal stopped. -/
inductive Stop
  /-- At the closing quote, before `rest`. -/
  | closed (rest : List Char)
  /-- At the end of the input. -/
  | ended
  /-- At a control character. -/
  | control
  /-- At a backslash with no known letter after it. -/
  | badLetter
  /-- At a hexadecimal escape with fewer than four digits. -/
  | badDigits

/-- The fault of a literal that is not closed. -/
def Stop.fault? : Stop → Option Fault
  | .closed _ => none
  | .ended => some .endInText
  | .control => some .controlCharacter
  | .badLetter | .badDigits => some .badEscape

/-- The unit that four hexadecimal digits name. -/
def hexUnit? (a b c d : Char) : Option Nat := Text.hexNumber? [a, b, c, d]

/-- The character that a one letter escape stands for. -/
def escape? : Char → Option Char
  | '"' => some '"'
  | '\\' => some '\\'
  | '/' => some '/'
  | 'b' => some '\x08'
  | 'f' => some '\x0c'
  | 'n' => some '\n'
  | 'r' => some '\r'
  | 't' => some '\t'
  | _ => none

/-- Cut what follows an opening quote. Four bytes must be left behind a
hexadecimal escape before its digits are looked at. -/
def cut : List Char → List Piece × Stop
  | [] => ([], .ended)
  | '\\' :: 'u' :: a :: b :: c :: d :: rest =>
    match hexUnit? a b c d with
    | some n => let (ps, stop) := cut rest; (.unit n :: ps, stop)
    | none => ([], .badDigits)
  | '\\' :: 'u' :: rest =>
    ([], if rest.foldl (fun n c => n + c.utf8Size) 0 < 4 then .ended else .badDigits)
  | '\\' :: c :: rest =>
    match escape? c with
    | some x => let (ps, stop) := cut rest; (.char x :: ps, stop)
    | none => ([], .badLetter)
  | ['\\'] => ([], .ended)
  | '"' :: rest => ([], .closed rest)
  | c :: rest =>
    if c < ' ' then ([], .control)
    else let (ps, stop) := cut rest; (.char c :: ps, stop)

/-- The fault behind a leading surrogate with no escape after it. -/
def Stop.halfPair : Stop → Fault
  | .ended => .endInText
  | .badDigits => .badEscape
  | _ => .halfSurrogatePair

/-- The unit is a trailing surrogate. -/
def isTrailing (n : Nat) : Bool := 0xdc00 ≤ n && n ≤ 0xdfff

/-- The unit is a leading surrogate. -/
def isLeading (n : Nat) : Bool := 0xd800 ≤ n && n ≤ 0xdbff

/-- The text of the pieces; `stop` tells what stands behind them. -/
def join (stop : Stop) : List Piece → Except Fault (List Char)
  | [] =>
    match stop.fault? with
    | some f => .error f
    | none => .ok []
  | .char c :: ps => (join stop ps).map (c :: ·)
  | [.unit n] =>
    if isTrailing n then .error .loneSurrogate
    else if isLeading n then .error stop.halfPair
    else (join stop []).map (Char.ofNat n :: ·)
  | .unit n :: .char c :: ps =>
    if isTrailing n then .error .loneSurrogate
    else if isLeading n then .error .halfSurrogatePair
    else (join stop (.char c :: ps)).map (Char.ofNat n :: ·)
  | .unit n :: .unit m :: ps =>
    if isTrailing n then .error .loneSurrogate
    else if isLeading n then
      if isTrailing m then
        (join stop ps).map (Char.ofNat ((n - 0xd800) * 0x400 + (m - 0xdc00) + 0x10000) :: ·)
      else .error .loneSurrogate
    else (join stop (.unit m :: ps)).map (Char.ofNat n :: ·)

end BookSync.Json
