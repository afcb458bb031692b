/-
Public trades.
-/
import BookSync.Market.Interval
import BookSync.Message.Envelope

namespace BookSync

/-- The side that took the offer. -/
inductive TakerSide
  | buy
  | sell
  deriving DecidableEq

/-- A public trade. -/
structure Trade where
  symbol : String
  side : TakerSide
  amount : Decimal
  price : Decimal
  timestamp : Millis
  id : String

namespace Trade

/-- One trade of the payload. -/
structure Entry where
  /-- Below zero for a sale. -/
  size : Decimal
  id : Json.Value
  /-- Time in seconds. -/
  createTime : Option UInt64
  createTimeMs : Option Millis
  price : Decimal
  contract : String

open Json Fields in
/-- The fields of a trade. -/
def fields : Fields Entry :=
  Entry.mk <$> required "size" Decoder.decimal <*> required "id" Decoder.value <*>
    optional "create_time" Decoder.unsigned <*> optional "create_time_ms" Decoder.unsigned <*>
    required "price" Decoder.decimal <*> required "contract" Decoder.text

/-- One trade of the payload. -/
def entry : Json.Decoder Entry := Json.Decoder.record "TradeResult" fields

/-- The time of a trade: in milliseconds if given so, else from the seconds,
else that of the envelope. -/
def Entry.time (r : Entry) (e : Envelope) : Except DecodeError Millis :=
  match r.createTimeMs, r.createTime with
  | some ms, _ => .ok ms
  | none, some secs => millis "create_time" secs
  | none, none => .ok e.timeMillis

/-- The trade that an entry stands for; an id that is no text keeps its JSON. -/
def ofEntry (e : Envelope) (r : Entry) : Except DecodeError Trade := do
  let timestamp ← r.time e
  return {
    symbol := r.contract
    side := if r.size.negative then .sell else .buy
    amount := r.size.abs
    price := r.price
    timestamp := timestamp
    id := r.id.text?.getD r.id.compact }

/-- All trades of a message. -/
def ofEnvelope (e : Envelope) : Except DecodeError (List Trade) := do
  (← e.decodeList entry).mapM (ofEntry e)

end Trade

end BookSync
