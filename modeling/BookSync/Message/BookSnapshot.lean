/-
Whole order books, as the venue answers a request for one.
-/
import BookSync.Json.Reader
import BookSync.Level

namespace BookSync

/-- The answer to a request for a book: its levels after the change `id`. -/
structure BookSnapshot where
  id : SequenceId
  /-- When the answer was made, in seconds. -/
  current : Option Binary64
  /-- When the book last changed, in seconds. -/
  update : Option Binary64
  bids : List Level
  asks : List Level

namespace BookSnapshot

open Json Fields in
/-- The fields of a snapshot. -/
def fields : Fields BookSnapshot :=
  BookSnapshot.mk <$> required "id" Decoder.unsigned <*> optional "current" Decoder.float <*>
    optional "update" Decoder.float <*> withDefault "bids" (Decoder.list Level.decoder) [] <*>
    withDefault "asks" (Decoder.list Level.decoder) []

/-- A snapshot. -/
def decoder : Json.Decoder BookSnapshot := Json.Decoder.record "SnapshotResponse" fields

/-- Read a snapshot from the body of an answer. -/
def parse (text : String) : Except DecodeError BookSnapshot :=
  (Json.ofText? decoder text).mapError .json

end BookSnapshot

end BookSync
