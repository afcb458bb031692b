/-
Frames of the stream and what they hold.

`Content.parse` decides what a frame is: an error of the venue, a confirmation,
a batch for a book, market events, or something to be passed over. A list of
market events is decoded as a whole, so that one bad entry spoils the frame.
-/
import BookSync.Sync.Event
import BookSync.Sync.Notice

namespace BookSync

/-- What a frame holds. -/
inductive Content
  | batch (batch : Batch)
  | market (events : List Event)
  | ack
  | venueError (channel : Option String) (error : Json.Value)
  | noChannel (event : Option String)
  | unhandled (feed : String)

namespace Content

/-- The content of a message on a channel; a batch keeps the frame it came in. -/
def onChannel (text : String) (e : Envelope) : Channel → Except DecodeError Content
  | .bookUpdate => do
    let b ← Batch.ofUpdate (← e.decode BookUpdate.decoder)
    return batch { b with raw := some text }
  | .bookTicker => (Ticker.ofEnvelope e).map fun t => market [.ticker t]
  | .trades => (Trade.ofEnvelope e).map fun ts => market (ts.map .trade)
  | .candles => (Candle.ofEnvelope e).map fun cs => market (cs.map .candle)
  | .tickers => (Funding.ofEnvelope e).map fun fs => market (fs.map .funding)
  | .other feed => .ok (unhandled feed)

/-- The content of an envelope. -/
def ofEnvelope (text : String) (e : Envelope) : Except DecodeError Content :=
  match e.venueError? with
  | some error => .ok (venueError e.channel error)
  | none =>
    if e.isAck then .ok ack
    else
      match e.kind with
      | some channel => onChannel text e channel
      | none => .ok (noChannel e.event)

/-- The content of a frame. -/
def parse (text : String) : Except DecodeError Content := do
  ofEnvelope text (← Envelope.parse text)

/-- The batch that a frame holds. -/
def batch? : Content → Option Batch
  | batch b => some b
  | _ => none

/-- The market events that a frame holds. -/
def events : Content → List Event
  | market events => events
  | _ => []

/-- What is noted down about a frame. -/
def notices : Content → List Notice
  | venueError channel error => [.venueError channel error]
  | noChannel event => [.noChannel event]
  | unhandled feed => [.unhandledChannel feed]
  | _ => []

end Content

end BookSync
