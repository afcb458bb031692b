/-
Candles: the prices of a contract over an interval.
-/
import BookSync.Market.Interval
import BookSync.Message.Envelope

namespace BookSync

/-- The prices of a contract from `start` to `stop`. -/
structure Candle where
  symbol : String
  interval : String
  start : Millis
  /-- A tenth of a second before the next candle starts. -/
  stop : Millis
  opening : Decimal
  closing : Decimal
  high : Decimal
  low : Decimal
  volume : Decimal
  timestamp : Millis

namespace Candle

/-- One candle of the payload. -/
structure Entry where
  /-- Start in seconds. -/
  time : UInt64
  volume : Decimal
  closing : Decimal
  high : Decimal
  low : Decimal
  opening : Decimal
  /-- Interval, underscore, contract. -/
  name : String

open Json Fields in
/-- The fields of a candle. -/
def fields : Fields Entry :=
  Entry.mk <$> required "t" Decoder.unsigned <*> required "v" Decoder.decimal <*>
    required "c" Decoder.decimal <*> required "h" Decoder.decimal <*>
    required "l" Decoder.decimal <*> required "o" Decoder.decimal <*>
    required "n" Decoder.text

/-- One candle of the payload. -/
def entry : Json.Decoder Entry := Json.Decoder.record "CandleResult" fields

/-- Seven days are called a week. -/
def normalInterval (name : String) : String := if name = "7d" then "1w" else name

/-- The last moment of a candle: a tenth of a second before its end, which has
to fit 64 bits. -/
def stopTime (time : UInt64) (start length : Millis) : Except DecodeError Millis :=
  if start.toNat + length.toNat < UInt64.size then
    .ok (UInt64.ofNat (start.toNat + length.toNat - 100))
  else .error (.outOfRange "t" time)

/-- The candle that an entry stands for. -/
def ofEntry (e : Envelope) (r : Entry) : Except DecodeError Candle := do
  match Text.splitAtFirst? '_' r.name.toList with
  | none => throw (.unknownInterval r.name)
  | some (before, symbol) =>
    let interval := normalInterval (String.ofList before)
    let start ← millis "t" r.time
    let length ← millis "n" (← Interval.seconds interval)
    let stop ← stopTime r.time start length
    return {
      symbol := String.ofList symbol
      interval := interval
      start := start
      stop := stop
      opening := r.opening
      closing := r.closing
      high := r.high
      low := r.low
      volume := r.volume
      timestamp := e.timeMillis }

/-- All candles of a message. -/
def ofEnvelope (e : Envelope) : Except DecodeError (List Candle) := do
  (← e.decodeList entry).mapM (ofEntry e)

end Candle

end BookSync
