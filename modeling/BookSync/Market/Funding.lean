/-
Funding rates of perpetual contracts.
-/
import BookSync.Message.Envelope

namespace BookSync

/-- The funding of a contract. -/
structure Funding where
  symbol : String
  mark : Decimal
  rate : Option Decimal
  /-- The rate of the next period, as far as it is known. -/
  predicted : Option Decimal
  timestamp : Millis

namespace Funding

/-- One contract of the payload. -/
structure Entry where
  contract : String
  mark : Decimal
  rate : Option Decimal
  predicted : Option Decimal

open Json Fields in
/-- The fields of a contract. -/
def fields : Fields Entry :=
  Entry.mk <$> required "contract" Decoder.text <*> required "mark_price" Decoder.decimal <*>
    withDefault "funding_rate" Decoder.blankable none <*>
    withDefault "funding_rate_indicative" Decoder.blankable none

/-- One contract of the payload. -/
def entry : Json.Decoder Entry := Json.Decoder.record "TickersResult" fields

/-- The funding that an entry stands for, at the time of the envelope. -/
def ofEntry (e : Envelope) (r : Entry) : Funding :=
  ⟨r.contract, r.mark, r.rate, r.predicted, e.timeMillis⟩

/-- All contracts of a message. -/
def ofEnvelope (e : Envelope) : Except DecodeError (List Funding) :=
  (e.decodeList entry).map fun rs => rs.map (ofEntry e)

end Funding

end BookSync
