/-
The envelope around every message of the stream.

The payload stays a JSON value until its channel is known. All fields may be
missing.
-/
import BookSync.Json.Reader
import BookSync.Level
import BookSync.Message.Channel

namespace BookSync

/-- A message of the stream. -/
structure Envelope where
  /-- Seconds since the start of 1970. -/
  time : Option Int
  channel : Option String
  event : Option String
  error : Option Json.Value
  result : Option Json.Value

namespace Envelope

open Json Fields in
/-- The fields of an envelope. -/
def fields : Fields Envelope :=
  Envelope.mk <$> optional "time" Decoder.signed <*> optional "channel" Decoder.text <*>
    optional "event" Decoder.text <*> optional "error" Decoder.value <*>
    optional "result" Decoder.value

/-- Read an envelope from the text of a frame. -/
def parse (text : String) : Except DecodeError Envelope :=
  (Json.ofText? (Json.Decoder.record "WsEnvelope" fields) text).mapError .json

/-- What the channel carries. -/
def kind (e : Envelope) : Option Channel := e.channel.map Channel.ofName

/-- The message only confirms a subscription or its end. -/
def isAck (e : Envelope) : Bool :=
  e.event == some "subscribe" || e.event == some "unsubscribe"

/-- The error that the venue reports, if any. -/
def venueError? (e : Envelope) : Option Json.Value := e.error.filter fun v => !v.isNull

/-- Seconds as milliseconds, or the greatest number if they do not fit. -/
def saturatingMillis (secs : Nat) : Millis :=
  if secs * 1000 < UInt64.size then UInt64.ofNat (secs * 1000) else UInt64.ofNat (UInt64.size - 1)

/-- The time of the message; zero if it has none or one before 1970. -/
def timeMillis (e : Envelope) : Millis :=
  match e.time with
  | some t => if 0 ≤ t then saturatingMillis t.toNat else 0
  | none => 0

/-- The payload. -/
def payload (e : Envelope) : Except DecodeError Json.Value :=
  match e.result.filter fun v => !v.isNull with
  | some v => .ok v
  | none => .error (.missingResult (e.channel.getD ""))

/-- The payload as one record. -/
def decode {α : Type} (decoder : Json.Decoder α) (e : Envelope) : Except DecodeError α := do
  let v ← e.payload
  (decoder v.toDraft).mapError .json

/-- The payload as a list of records; a payload that is not a list is its only
record. -/
def decodeList {α : Type} (decoder : Json.Decoder α) (e : Envelope) :
    Except DecodeError (List α) := do
  match ← e.payload with
  | .array items => items.mapM fun v => (decoder v.toDraft).mapError .json
  | v => return [← (decoder v.toDraft).mapError .json]

end Envelope

end BookSync
