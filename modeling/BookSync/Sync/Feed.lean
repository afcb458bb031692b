/-
The feed: frames in, events out.

A frame that holds a batch goes to the coordinator, market events go straight
out, and anything else is at most noted down.

* **`Feed.handle`** takes one frame;
* **`Feed.run`** takes all frames of a closed channel. While it waits for a
  snapshot it moves arriving frames into its backlog, which it works off before
  it looks at the channel again. If a snapshot cannot be fetched it stops, with
  the backlog kept and the rest of the channel untouched.
-/
import BookSync.Sync.Coordinator
import BookSync.Sync.Frame

namespace BookSync

/-- A coordinator with the frames that wait to be taken. -/
structure Feed where
  coordinator : Coordinator
  backlog : List String

/-- What a run leaves: how it ended, what is left of the channel, and what
happened. -/
structure RunResult where
  feed : Feed
  error : Option FetchError
  inbound : List String
  effects : Effects

namespace Feed

/-- A feed without backlog. -/
def new (c : Coordinator) : Feed := ⟨c, []⟩

/-- What a frame brings about apart from its batch. -/
def sideEffects : Except DecodeError Content → Effects
  | .ok content => ⟨content.events, content.notices⟩
  | .error e => ⟨[], [.malformedFrame e]⟩

/-- Take one frame. There is an outcome only if it holds a batch. -/
def handle (f : Feed) (text : String) : Feed × Except Error (Option Outcome) × Effects :=
  let content := Content.parse text
  match content with
  | .error e => (f, .error (.decode e), sideEffects content)
  | .ok (.batch b) =>
    match f.coordinator.process b with
    | (c, .ok outcome, effects) => ({ f with coordinator := c }, .ok (some outcome), effects)
    | (c, .error e, effects) => ({ f with coordinator := c }, .error (.fetch e), effects)
  | .ok _ => (f, .ok none, sideEffects content)

/-- The batch that a frame holds, if it can be decoded. -/
def batchOf? : Except DecodeError Content → Option Batch
  | .ok content => content.batch?
  | .error _ => none

/-- What is noted down about frames that have queued up. -/
def queuedNotice (symbol : String) (backlog : List String) : Effects :=
  ⟨[], if backlog.isEmpty then [] else [.framesQueued symbol backlog.length]⟩

/-- Where the frames of a run stand: those already moved, and the channel. -/
structure Queues where
  backlog : List String
  inbound : List String

/-- The next frame, from the backlog if there is one. -/
def Queues.next? (q : Queues) : Option (String × Queues) :=
  match q.backlog, q.inbound with
  | text :: backlog, inbound => some (text, ⟨backlog, inbound⟩)
  | [], text :: inbound => some (text, ⟨[], inbound⟩)
  | [], [] => none

/-- Move up to `n` frames from the channel to the backlog. -/
def Queues.move (q : Queues) (n : Nat) : Queues :=
  ⟨q.backlog ++ q.inbound.take n, q.inbound.drop n⟩

/-- How many frames there are. -/
def Queues.size (q : Queues) : Nat := q.backlog.length + q.inbound.length

/-- Take frames until there are none or a fetch fails; `fuel` bounds the number
of frames. -/
def runFor : Nat → Coordinator → Queues → Effects → RunResult
  | 0, c, q, done => ⟨⟨c, q.backlog⟩, none, q.inbound, done⟩
  | fuel + 1, c, q, done =>
    match q.next? with
    | none => ⟨⟨c, []⟩, none, [], done⟩
    | some (text, q) =>
      let content := Content.parse text
      match batchOf? content with
      | none => runFor fuel c q (done ++ sideEffects content)
      | some b =>
        if c.needsSnapshot b.symbol then
          let q := q.move (c.fetcher.pending b.symbol)
          match c.fetch b.symbol with
          | (c, .error e) => ⟨⟨c, q.backlog⟩, some e, q.inbound, done⟩
          | (c, .ok book) =>
            let (c, installed) := c.install book
            let (c, _, applied) := c.apply b
            runFor fuel c q (done ++ queuedNotice b.symbol q.backlog ++ installed ++ applied)
        else
          let (c, _, applied) := c.apply b
          runFor fuel c q (done ++ applied)

/-- Take all frames of the backlog and of a closed channel. -/
def run (f : Feed) (inbound : List String) : RunResult :=
  let q : Queues := ⟨f.backlog, inbound⟩
  runFor q.size f.coordinator q .none

end Feed

end BookSync
