/-
Numeric addresses of hosts.

An address of four bytes may be written with fewer numbers, the last of which
then fills all remaining bytes, and each number in base ten, eight or sixteen.
An address of eight pieces is written with colons; two colons in a row stand
for one or more pieces of zero, and the last two pieces may be written as four
bytes. Either kind has one printed form.

* **`Ipv4.parse?`** and **`Ipv4.text`** read and print the first kind;
* **`Ipv6.parse?`** and **`Ipv6.text`** read and print the second.
-/
import BookSync.Decimal.Numeral
import BookSync.Text.Hex
import BookSync.Text.Split

namespace BookSync.Url

/-! ### Four bytes -/

/-- An address of four bytes, as one number. -/
structure Ipv4 where
  value : UInt32
  deriving DecidableEq

namespace Ipv4

/-- The number that digits of a base write. -/
def ofBase? (base : Nat) (cs : List Char) : Option Nat := do
  let ds ← cs.mapM Text.hexDigit?
  if ds.all (· < base) then return ds.foldl (fun n d => n * base + d) 0 else none

/-- A number of an address: in base 16 behind `0x`, in base 8 behind a zero. -/
def number? : List Char → Option Nat
  | [] => none
  | '0' :: c :: cs => if c = 'x' ∨ c = 'X' then ofBase? 16 cs else ofBase? 8 (c :: cs)
  | cs => ofBase? 10 cs

/-- The parts of a host between points; a point at the end has nothing behind it. -/
def parts (cs : List Char) : List (List Char) :=
  let ps := Text.splitOn (· = '.') cs
  if ps.getLast? = some [] ∧ ps.length ≠ 1 then ps.dropLast else ps

/-- The host ends like an address, and so has to be one. -/
def endsInNumber (cs : List Char) : Bool :=
  match (parts cs).getLast? with
  | none | some [] => false
  | some part => (number? part).isSome || part.all fun c => (Decimal.digit? c).isSome

/-- Numbers as an address; `room` is what the last of them has to stay below. -/
def combine? (room : Nat) : List Nat → Option Nat
  | [] => none
  | [n] => if n < room then some n else none
  | n :: ns => do
    let low ← combine? (room / 256) ns
    if n < 256 then return n * (room / 256) + low else none

/-- The address that a host is. -/
def parse? (cs : List Char) : Option Ipv4 := do
  let ns ← (parts cs).mapM number?
  if ns.length ≤ 4 then return ⟨UInt32.ofNat (← combine? UInt32.size ns)⟩ else none

/-- Four numbers with points between them. -/
def text (a : Ipv4) : List Char :=
  let n := a.value.toNat
  let byte (unit : Nat) := Nat.toDigits 10 (n / unit % 256)
  byte 0x1000000 ++ '.' :: byte 0x10000 ++ '.' :: byte 0x100 ++ '.' :: byte 1

end Ipv4

/-! ### Eight pieces -/

/-- An address of eight pieces. -/
structure Ipv6 where
  pieces : List Nat
  deriving DecidableEq

namespace Ipv6

/-- One piece: up to four hexadecimal digits. -/
def piece? (cs : List Char) : Option Nat :=
  if cs.isEmpty ∨ 4 < cs.length then none else Text.hexNumber? cs

/-- A byte in base ten without zeros in front. -/
def byte? (cs : List Char) : Option Nat := do
  let n ← Decimal.count? cs
  if n < 256 ∧ Nat.toDigits 10 n = cs then return n else none

/-- Two pieces written as four bytes. -/
def dotted? (cs : List Char) : Option (List Nat) := do
  match ← (Text.splitOn (· = '.') cs).mapM byte? with
  | [a, b, c, d] => return [a * 256 + b, c * 256 + d]
  | _ => none

/-- Pieces with colons between them; the last may be four bytes. -/
def groups? : List (List Char) → Option (List Nat)
  | [] => some []
  | [last] => if last.contains '.' then dotted? last else (piece? last).map ([·])
  | first :: rest => do return (← piece? first) :: (← groups? rest)

/-- The pieces on one side of two colons; there may be none. -/
def side? (cs : List Char) : Option (List Nat) :=
  if cs.isEmpty then some [] else groups? (Text.splitOn (· = ':') cs)

/-- The texts before and after the first two colons in a row. -/
def splitGap? : List Char → Option (List Char × List Char)
  | ':' :: ':' :: after => some ([], after)
  | [] => none
  | c :: cs => (splitGap? cs).map fun (before, after) => (c :: before, after)

/-- The address in a text. Before two colons, bytes are not allowed. -/
def parse? (cs : List Char) : Option Ipv6 := do
  match splitGap? cs with
  | some (before, after) =>
    if before.contains '.' then none
    else
      let front ← side? before
      let back ← side? after
      let known := front.length + back.length
      if known < 8 then return ⟨front ++ List.replicate (8 - known) 0 ++ back⟩ else none
  | none =>
    let pieces ← groups? (Text.splitOn (· = ':') cs)
    if pieces.length = 8 then return ⟨pieces⟩ else none

/-- How many pieces at the front are zero. -/
def zeros (pieces : List Nat) : Nat := (pieces.takeWhile (· = 0)).length

/-- Where the first of the longest runs of zeros starts, and how long it is. -/
def longestRun (pieces : List Nat) : Nat × Nat :=
  (List.range pieces.length).foldl (fun best i =>
    let n := zeros (pieces.drop i)
    if best.2 < n then (i, n) else best) (0, 0)

/-- Pieces with colons between them. -/
def join (pieces : List Nat) : List Char :=
  (pieces.map (Nat.toDigits 16)).intersperse [':'] |>.flatten

/-- The printed form: the longest run of two or more zeros becomes two colons. -/
def text (a : Ipv6) : List Char :=
  let (start, n) := longestRun a.pieces
  if n < 2 then join a.pieces
  else join (a.pieces.take start) ++ [':', ':'] ++ join (a.pieces.drop (start + n))

end Ipv6

end BookSync.Url
