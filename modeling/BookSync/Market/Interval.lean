/-
Intervals of candles, such as `10s`, `15m`, `4h`, `3d` or `1w`.

* **`Interval.seconds`** is the length of an interval;
* **`millis`** turns seconds into milliseconds, if they fit.
-/
import BookSync.Decimal.Numeral
import BookSync.Level

namespace BookSync

/-- The length of a unit of time, by its letter. -/
def Interval.unit? : Char → Option Nat
  | 's' => some 1
  | 'm' => some 60
  | 'h' => some 3600
  | 'd' => some 86400
  | 'w' => some 604800
  | _ => none

/-- Seconds of an interval: a count and, as the last character, a unit. Count
and length have to fit 64 bits. -/
def Interval.seconds? (cs : List Char) : Option UInt64 := do
  let unit ← Interval.unit? (← cs.getLast?)
  let count ← Decimal.count? cs.dropLast
  if count < UInt64.size ∧ count * unit < UInt64.size then return UInt64.ofNat (count * unit)
  else none

/-- The length of the named interval in seconds. -/
def Interval.seconds (name : String) : Except DecodeError UInt64 :=
  match Interval.seconds? name.toList with
  | some secs => .ok secs
  | none => .error (.unknownInterval name)

/-- Seconds from a field as milliseconds, unless they do not fit. -/
def millis (field : String) (secs : UInt64) : Except DecodeError Millis :=
  if secs.toNat * 1000 < UInt64.size then .ok (secs * 1000) else .error (.outOfRange field secs)

end BookSync
