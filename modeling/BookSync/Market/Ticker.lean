/-
Best bid and ask.
-/
import BookSync.Message.Envelope

namespace BookSync

/-- The best price on each side. -/
structure Ticker where
  symbol : String
  bid : Decimal
  bidSize : Decimal
  ask : Decimal
  askSize : Decimal
  /-- The change of the book that this ticker shows. -/
  updateId : Option SequenceId
  timestamp : Millis

namespace Ticker

/-- The payload of a ticker. -/
structure Entry where
  time : Option Millis
  updateId : Option SequenceId
  symbol : String
  bid : Decimal
  bidSize : Option Decimal
  ask : Decimal
  askSize : Option Decimal

open Json Fields in
/-- The fields of a ticker. -/
def fields : Fields Entry :=
  Entry.mk <$> optional "t" Decoder.unsigned <*> optional "u" Decoder.unsigned <*>
    required "s" Decoder.text <*> required "b" Decoder.decimal <*>
    withDefault "B" Decoder.blankable none <*> required "a" Decoder.decimal <*>
    withDefault "A" Decoder.blankable none

/-- Missing sizes count as zero, a missing time is that of the envelope. -/
def ofEnvelope (e : Envelope) : Except DecodeError Ticker := do
  let r ← e.decode (Json.Decoder.record "BookTickerResult" fields)
  return {
    symbol := r.symbol
    bid := r.bid
    bidSize := r.bidSize.getD .zero
    ask := r.ask
    askSize := r.askSize.getD .zero
    updateId := r.updateId
    timestamp := r.time.getD e.timeMillis }

end Ticker

end BookSync
