/-
What is noted down about the running of the library.

A notice is told apart by its cause. In a line of a log it has a severity, a
message and named fields, all of them texts.
-/
import BookSync.Book.Sequence
import BookSync.Json.Value
import BookSync.Text.Quoted

namespace BookSync

/-- How much a notice matters. -/
inductive Severity
  | debug
  | info
  | warn
  deriving DecidableEq

/-- What is noted down. -/
inductive Notice
  | snapshotInstalled (symbol : String) (cursor : SequenceId) (bids asks : Nat)
  | staleDiscarded (symbol : String) (first last cursor : SequenceId)
  | sequenceGap (symbol : String) (expected first last : SequenceId) (state : SyncState)
  | bridged (symbol : String) (first last : SequenceId)
  | framesQueued (symbol : String) (count : Nat)
  | malformedFrame (cause : DecodeError)
  | venueError (channel : Option String) (error : Json.Value)
  | noChannel (event : Option String)
  | unhandledChannel (feed : String)

namespace Notice

/-- The name of a state. -/
def stateName : SyncState → String
  | .awaitingBridge => "AwaitingBridge"
  | .synced => "Synced"

/-- A text that may be missing. -/
def optionText : Option String → String
  | some s => "Some(" ++ Text.quoted s ++ ")"
  | none => "None"

/-- The severity of a notice. -/
def severity : Notice → Severity
  | snapshotInstalled .. => .info
  | staleDiscarded .. | bridged .. | framesQueued .. => .debug
  | _ => .warn

/-- The message of a notice. -/
def message : Notice → String
  | snapshotInstalled .. => "snapshot installed"
  | staleDiscarded .. => "stale batch discarded"
  | sequenceGap .. => "sequence gap, resetting books"
  | bridged .. => "bridge established"
  | framesQueued .. => "frames queued during snapshot fetch"
  | malformedFrame _ => "dropping malformed frame"
  | venueError .. => "exchange reported an error"
  | noChannel _ => "frame without channel ignored"
  | unhandledChannel _ => "unhandled channel"

/-- The fields of a notice. -/
def fields : Notice → List (String × String)
  | snapshotInstalled symbol cursor bids asks =>
    [("symbol", symbol), ("last_sequence_id", toString cursor), ("bids", toString bids),
      ("asks", toString asks)]
  | staleDiscarded symbol first last cursor =>
    [("symbol", symbol), ("first_seq", toString first), ("last_seq", toString last),
      ("last_sequence_id", toString cursor)]
  | sequenceGap symbol expected first last state =>
    [("symbol", symbol), ("expected", toString expected), ("first_seq", toString first),
      ("last_seq", toString last), ("state", stateName state)]
  | bridged symbol first last =>
    [("symbol", symbol), ("first_seq", toString first), ("last_seq", toString last)]
  | framesQueued symbol count => [("symbol", symbol), ("queued", toString count)]
  | malformedFrame cause => [("error", cause.message)]
  | venueError channel error => [("channel", optionText channel), ("error", error.compact)]
  | noChannel event => [("event", optionText event)]
  | unhandledChannel feed => [("channel", feed)]

end Notice

end BookSync
