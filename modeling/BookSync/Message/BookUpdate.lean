/-
Updates of an order book, as the stream carries them.
-/
import BookSync.Message.Envelope

namespace BookSync

/-- The payload of a book update: the levels that the changes from `firstSeq`
to `lastSeq` have left on each side. -/
structure BookUpdate where
  timestamp : Millis
  symbol : String
  firstSeq : SequenceId
  lastSeq : SequenceId
  bids : List Level
  asks : List Level

open Json Fields in
/-- The fields of a book update. -/
def BookUpdate.fields : Fields BookUpdate :=
  BookUpdate.mk <$> required "t" Decoder.unsigned <*> required "s" Decoder.text <*>
    required "U" Decoder.unsigned <*> required "u" Decoder.unsigned <*>
    withDefault "b" (Decoder.list Level.decoder) [] <*>
    withDefault "a" (Decoder.list Level.decoder) []

/-- A book update. -/
def BookUpdate.decoder : Json.Decoder BookUpdate :=
  Json.Decoder.record "BookUpdateResult" BookUpdate.fields

end BookSync
