/-
Running a feed is taking its frames in order.

While a fetch is under way `Feed.run` moves frames from the channel to its
backlog, and after a failed fetch it stops and has to be called again. None of
this can be told from the outcome:

* `ends`: a run takes a first part of backlog and channel, in this order, each
  frame as `Feed.handle` does, and leaves the rest. It takes all of them, or
  stops at a frame that fails to get its snapshot;
* `run_takes_in_order`: so no frame is lost, repeated or moved but that one;
* `retry_eq_handleAll`: called again after each failure, a run comes to an end
  and leaves feed and events as they are when the frames are handled one by one.

The loop never looks at where a frame waits. `Queues.frames` forgets it, and a
round of the loop takes one frame off that list (`round`), whatever is moved.
-/
import BookSync.Proofs.Sync.Step
import BookSync.Sync.Feed

namespace BookSync.Feed

/-- Handle frames in order, also after one that has failed. -/
def handleAll (f : Feed) : List String → Feed × Effects
  | [] => (f, .none)
  | text :: rest =>
    let (f, _, effects) := f.handle text
    let (f, more) := f.handleAll rest
    (f, effects ++ more)

/-! ### What frames bring about -/

/-- A note on how frames are queued, and not on what they hold. -/
def isQueueNote : Notice → Bool
  | .framesQueued .. => true
  | _ => false

/-- Effects, notes on the queues aside. -/
def settled (effects : Effects) : Effects :=
  ⟨effects.events, effects.notices.filter fun n => !isQueueNote n⟩

theorem settled_append (first second : Effects) :
    settled (first ++ second) = settled first ++ settled second :=
  congrArg (Effects.mk (first.events ++ second.events)) (List.filter_append _ _)

theorem settled_queuedNotice (symbol : String) (backlog : List String) :
    settled (queuedNotice symbol backlog) = .none := by
  rw [queuedNotice]
  split <;> rfl

/-- Effects that differ in notes on the queues have the same events. -/
theorem events_of_settled_eq {first second : Effects} (h : settled first = settled second) :
    first.events = second.events := by
  show (settled first).events = (settled second).events
  rw [h]

/-! ### Frames that wait -/

/-- The frames that wait, in the order in which they arrived. -/
def Queues.frames (q : Queues) : List String := q.backlog ++ q.inbound

theorem Queues.length_frames (q : Queues) : q.frames.length = q.size := List.length_append

@[simp] theorem Queues.frames_move (q : Queues) (n : ℕ) : (q.move n).frames = q.frames := by
  rw [frames, move, List.append_assoc, List.take_append_drop, frames]

@[simp] theorem Queues.move_zero (q : Queues) : q.move 0 = q := by
  rw [move, List.take_zero, List.append_nil, List.drop_zero]

theorem Queues.frames_of_next?_eq_none {q : Queues} (h : q.next? = none) : q.frames = [] := by
  obtain ⟨backlog, inbound⟩ := q
  cases backlog with
  | cons => exact absurd h (by simp [next?])
  | nil =>
    cases inbound with
    | cons => exact absurd h (by simp [next?])
    | nil => rfl

theorem Queues.frames_of_next?_eq_some {q q' : Queues} {text : String}
    (h : q.next? = some (text, q')) : q.frames = text :: q'.frames := by
  obtain ⟨backlog, inbound⟩ := q
  cases backlog with
  | cons first backlog =>
    obtain ⟨rfl, rfl⟩ := Prod.mk.inj (Option.some_inj.mp h)
    rfl
  | nil =>
    cases inbound with
    | cons first inbound =>
      obtain ⟨rfl, rfl⟩ := Prod.mk.inj (Option.some_inj.mp h)
      rfl
    | nil => exact absurd h (by simp [next?])

/-! ### Handling one frame -/

/-- A frame without a batch leaves the feed alone. -/
theorem handle_of_batchOf?_eq_none {f : Feed} {text : String}
    (h : batchOf? (Content.parse text) = none) :
    (f.handle text).1 = f ∧ (f.handle text).2.2 = sideEffects (Content.parse text) ∧
      ∀ e, (f.handle text).2.1 ≠ .error (.fetch e) := by
  rw [handle]
  cases hc : Content.parse text with
  | error e => exact ⟨rfl, rfl, fun e => by simp⟩
  | ok content =>
    rw [hc] at h
    cases content with
    | batch b => exact absurd h (by simp [batchOf?, Content.batch?])
    | _ => exact ⟨rfl, rfl, fun e => by simp⟩

theorem parse_of_batchOf?_eq_some {text : String} {b : Batch}
    (h : batchOf? (Content.parse text) = some b) : Content.parse text = .ok (.batch b) := by
  cases hc : Content.parse text with
  | error e => exact absurd h (by simp [hc, batchOf?])
  | ok content =>
    rw [hc] at h
    cases content with
    | batch b' => rw [Option.some_inj.mp h]
    | _ => exact absurd h (by simp [batchOf?, Content.batch?])

/-- A frame with a batch is processed by the coordinator. -/
theorem handle_of_batchOf?_eq_some {f : Feed} {text : String} {b : Batch}
    (h : batchOf? (Content.parse text) = some b) :
    (f.handle text).1 = ⟨(f.coordinator.process b).1, f.backlog⟩ ∧
      (f.handle text).2.2 = (f.coordinator.process b).2.2 ∧
      ∀ e, (f.handle text).2.1 = .error (.fetch e) ↔
        (f.coordinator.process b).2.1 = .error e := by
  rw [handle, parse_of_batchOf?_eq_some h]
  dsimp only
  obtain ⟨c, outcome, effects⟩ := f.coordinator.process b
  cases outcome with
  | error e => exact ⟨rfl, rfl, fun e' => by simp⟩
  | ok outcome => exact ⟨rfl, rfl, fun e' => by simp⟩

theorem handle_new (c : Coordinator) (text : String) :
    ((new c).handle text).1 = new ((new c).handle text).1.coordinator := by
  cases hb : batchOf? (Content.parse text) with
  | none => rw [(handle_of_batchOf?_eq_none hb).1]; rfl
  | some b => rw [(handle_of_batchOf?_eq_some hb).1]; rfl

/-- A frame whose fetch fails changes nothing but the count of fetches. -/
theorem handle_of_answer_eq_error {c : Coordinator} {text : String} {b : Batch} {e : FetchError}
    (hb : batchOf? (Content.parse text) = some b) (hnone : c.book? b.symbol = none)
    (ha : c.answer b.symbol = .error e) :
    (new c).handle text = (new (c.fetched b.symbol), .error (.fetch e), .none) := by
  have hprocess : c.process b = (c.fetched b.symbol, .error e, .none) := by
    rw [Coordinator.process, if_pos ((c.needsSnapshot_iff _).mpr hnone), Coordinator.fetch_eq, ha]
  rw [handle, parse_of_batchOf?_eq_some hb]
  dsimp only
  rw [show (new c).coordinator.process b = _ from hprocess]
  rfl

/-! ### One round of the loop -/

/-- What a round of the loop makes of a frame, with the queues behind it. -/
inductive Round (fuel : ℕ) (c : Coordinator) (text : String) (q : Queues) (done : Effects) :
    RunResult → Prop
  /-- The snapshot cannot be fetched. -/
  | failed (n : ℕ) {b : Batch} {e : FetchError} (hb : batchOf? (Content.parse text) = some b)
      (hnone : c.book? b.symbol = none) (ha : c.answer b.symbol = .error e) :
      Round fuel c text q done
        ⟨⟨c.fetched b.symbol, (q.move n).backlog⟩, some e, (q.move n).inbound, done⟩
  /-- The frame is taken and the loop goes on. -/
  | taken (n : ℕ) (done' : Effects) (he : ∀ e, ((new c).handle text).2.1 ≠ .error (.fetch e))
      (heffects : settled done' = settled (done ++ ((new c).handle text).2.2)) :
      Round fuel c text q done
        (runFor fuel ((new c).handle text).1.coordinator (q.move n) done')

theorem round (fuel : ℕ) (c : Coordinator) {text : String} {q q' : Queues} (done : Effects)
    (hq : q.next? = some (text, q')) :
    Round fuel c text q' done (runFor (fuel + 1) c q done) := by
  rw [runFor, hq]
  dsimp only
  cases hb : batchOf? (Content.parse text) with
  | none =>
    -- nothing to process, and no fetch during which frames could move
    obtain ⟨hfeed, heffects, herror⟩ := handle_of_batchOf?_eq_none (f := new c) hb
    have h : Round fuel c text q' done _ := .taken 0 (done ++ sideEffects (Content.parse text))
      herror (by rw [heffects])
    rwa [hfeed, Queues.move_zero] at h
  | some b =>
    dsimp only
    split
    · -- the frames that arrive during the fetch are moved whether it fails or not
      rename_i hn
      have hnone := (c.needsSnapshot_iff b.symbol).mp hn
      rw [Coordinator.fetch_eq]
      cases ha : c.answer b.symbol with
      | error e => exact .failed (c.fetcher.pending b.symbol) hb hnone ha
      | ok book =>
        obtain ⟨hfeed, heffects, herror⟩ := handle_of_batchOf?_eq_some (f := new c) hb
        have hprocess : (new c).coordinator.process b = c.process b := rfl
        rw [hprocess, Coordinator.process, if_pos hn, Coordinator.fetch_eq, ha] at hfeed heffects herror
        have h : Round fuel c text q' done _ := .taken (c.fetcher.pending b.symbol)
          (done ++ queuedNotice b.symbol (q'.move (c.fetcher.pending b.symbol)).backlog ++
            ((c.fetched b.symbol).install book).2 ++
            (((c.fetched b.symbol).install book).1.apply b).2.2)
          (fun e he => absurd ((herror e).mp he) (by simp)) (by
            rw [heffects, Effects.append_assoc, settled_append, settled_append done,
              settled_queuedNotice, Effects.append_none, settled_append done])
        rwa [hfeed] at h
    · rename_i hn
      obtain ⟨hfeed, heffects, herror⟩ := handle_of_batchOf?_eq_some (f := new c) hb
      have hprocess : (new c).coordinator.process b = c.process b := rfl
      rw [hprocess, Coordinator.process, if_neg hn] at hfeed heffects herror
      have h : Round fuel c text q' done _ := .taken 0 (done ++ (c.apply b).2.2)
        (fun e he => absurd ((herror e).mp he) (by simp))
        (by rw [heffects])
      rwa [hfeed, Queues.move_zero] at h

/-! ### A whole run -/

theorem handleAll_cons (f : Feed) (text : String) (rest : List String) :
    (f.handleAll (text :: rest)).1 = ((f.handle text).1.handleAll rest).1 ∧
      (f.handleAll (text :: rest)).2 =
        (f.handle text).2.2 ++ ((f.handle text).1.handleAll rest).2 :=
  ⟨rfl, rfl⟩

theorem handleAll_append (f : Feed) (first second : List String) :
    (f.handleAll (first ++ second)).1 = ((f.handleAll first).1.handleAll second).1 ∧
      (f.handleAll (first ++ second)).2 =
        (f.handleAll first).2 ++ ((f.handleAll first).1.handleAll second).2 := by
  induction first generalizing f with
  | nil => exact ⟨rfl, rfl⟩
  | cons text rest ih =>
    obtain ⟨hfeed, heffects⟩ := ih (f.handle text).1
    rw [List.cons_append, (f.handleAll_cons text _).1, (f.handleAll_cons text _).2,
      (f.handleAll_cons text rest).1, (f.handleAll_cons text rest).2, Effects.append_assoc]
    exact ⟨hfeed, congrArg (_ ++ ·) heffects⟩

theorem handleAll_new (c : Coordinator) (frames : List String) :
    ((new c).handleAll frames).1 = new ((new c).handleAll frames).1.coordinator := by
  induction frames generalizing c with
  | nil => rfl
  | cons text rest ih =>
    rw [((new c).handleAll_cons text rest).1, handle_new]
    exact ih _

theorem handleAll_new_cons (c : Coordinator) (text : String) (rest : List String) :
    ((new c).handleAll (text :: rest)).1 =
        ((new ((new c).handle text).1.coordinator).handleAll rest).1 ∧
      ((new c).handleAll (text :: rest)).2 =
        ((new c).handle text).2.2 ++
          ((new ((new c).handle text).1.coordinator).handleAll rest).2 := by
  rw [← handle_new]
  exact (new c).handleAll_cons text rest

/-- The frames that a run has left. -/
def left (r : RunResult) : List String := r.feed.backlog ++ r.inbound

/-- No frame fails to get its snapshot when they are handled in order. -/
def Served (f : Feed) : List String → Prop
  | [] => True
  | text :: rest =>
    (∀ e, (f.handle text).2.1 ≠ .error (.fetch e)) ∧ (f.handle text).1.Served rest

/-- How a run from `c` ends that has `frames` before it, after effects `done`. -/
inductive Ends (c : Coordinator) (frames : List String) (done : Effects) : RunResult → Prop
  /-- All frames have been taken. -/
  | finished {effects : Effects} (hserved : (new c).Served frames)
      (heffects : settled effects = settled (done ++ ((new c).handleAll frames).2)) :
      Ends c frames done ⟨⟨((new c).handleAll frames).1.coordinator, []⟩, none, [], effects⟩
  /-- A frame has failed to get its snapshot, and those behind it wait. -/
  | stopped (before : List String) {text : String} {q : Queues} {d : Coordinator} {b : Batch}
      {e : FetchError} {effects : Effects} (hframes : frames = before ++ text :: q.frames)
      (hserved : (new c).Served before) (hd : ((new c).handleAll before).1.coordinator = d)
      (hb : batchOf? (Content.parse text) = some b) (hnone : d.book? b.symbol = none)
      (ha : d.answer b.symbol = .error e)
      (heffects : settled effects = settled (done ++ ((new c).handleAll before).2)) :
      Ends c frames done ⟨⟨d.fetched b.symbol, q.backlog⟩, some e, q.inbound, effects⟩

/-- One more frame in front that is taken. -/
theorem Ends.cons {c : Coordinator} {text : String} {frames : List String} {done done' : Effects}
    {r : RunResult} (h : Ends ((new c).handle text).1.coordinator frames done' r)
    (he : ∀ e, ((new c).handle text).2.1 ≠ .error (.fetch e))
    (hdone : settled done' = settled (done ++ ((new c).handle text).2.2)) :
    Ends c (text :: frames) done r := by
  have hsettled : ∀ l, settled (done' ++ ((new ((new c).handle text).1.coordinator).handleAll l).2) =
      settled (done ++ ((new c).handleAll (text :: l)).2) := fun l => by
    rw [settled_append, hdone, ← settled_append, Effects.append_assoc, (handleAll_new_cons c text l).2]
  have hserves : ∀ l, (new ((new c).handle text).1.coordinator).Served l →
      (new c).Served (text :: l) := fun l hl => ⟨he, by rw [handle_new]; exact hl⟩
  cases h with
  | finished hserved heffects =>
    rw [← (handleAll_new_cons c text frames).1]
    exact .finished (hserves _ hserved) (heffects.trans (hsettled _))
  | @stopped before _ _ _ _ _ _ hframes hserved hd hb hnone ha heffects =>
    rw [← (handleAll_new_cons c text before).1] at hd
    exact .stopped (text :: before) (congrArg (text :: ·) hframes) (hserves _ hserved)
      hd hb hnone ha (heffects.trans (hsettled _))

/-- A run takes the frame in front and goes on, or stops at it with all others
left. -/
theorem Ends.uncons {c : Coordinator} {text : String} {frames : List String} {done : Effects}
    {r : RunResult} (h : Ends c (text :: frames) done r) :
    ((∀ e, ((new c).handle text).2.1 ≠ .error (.fetch e)) ∧
        Ends ((new c).handle text).1.coordinator frames (done ++ ((new c).handle text).2.2) r) ∨
      ∃ e, (new c).handle text = (new r.feed.coordinator, .error (.fetch e), .none) ∧
        r.error = some e ∧ left r = frames ∧
        settled r.effects = settled done := by
  cases h with
  | finished hserved heffects =>
    rw [(handleAll_new_cons c text frames).2, ← Effects.append_assoc] at heffects
    rw [(handleAll_new_cons c text frames).1]
    exact Or.inl ⟨hserved.1, .finished (handle_new c text ▸ hserved.2) heffects⟩
  | @stopped before text' q d b e effects hframes hserved hd hb hnone ha heffects =>
    cases before with
    | nil =>
      obtain ⟨rfl, rfl⟩ := List.cons.inj hframes
      obtain rfl : c = d := hd
      exact Or.inr ⟨e, handle_of_answer_eq_error hb hnone ha, rfl, rfl,
        heffects.trans (congrArg settled (Effects.append_none done))⟩
    | cons _ before =>
      obtain ⟨rfl, hrest⟩ := List.cons.inj hframes
      rw [(handleAll_new_cons c text before).1] at hd
      rw [(handleAll_new_cons c text before).2, ← Effects.append_assoc] at heffects
      exact Or.inl ⟨hserved.1, .stopped before hrest (handle_new c text ▸ hserved.2) hd hb hnone ha
        heffects⟩

/-- **Every run takes a first part of the frames,** all of them or those up to
one that fails to get its snapshot. -/
theorem ends (fuel : ℕ) (c : Coordinator) (q : Queues) (done : Effects) (h : q.size ≤ fuel) :
    Ends c q.frames done (runFor fuel c q done) := by
  induction fuel generalizing c q done with
  | zero =>
    -- the fuel bounds the frames, so it does not run out before they do
    obtain ⟨hbacklog, hinbound⟩ : q.backlog = [] ∧ q.inbound = [] := by
      have hsize : q.backlog.length + q.inbound.length ≤ 0 := h
      exact ⟨List.eq_nil_of_length_eq_zero (by omega), List.eq_nil_of_length_eq_zero (by omega)⟩
    rw [runFor, Queues.frames, hbacklog, hinbound]
    exact .finished trivial (congrArg settled (Effects.append_none done).symm)
  | succ fuel ih =>
    cases hq : q.next? with
    | none =>
      rw [runFor, hq, Queues.frames_of_next?_eq_none hq]
      exact .finished trivial (congrArg settled (Effects.append_none done).symm)
    | some next =>
      obtain ⟨text, q'⟩ := next
      have hframes := Queues.frames_of_next?_eq_some hq
      have hround := round fuel c done hq
      generalize runFor (fuel + 1) c q done = r at hround
      rw [hframes]
      cases hround with
      | failed n hb hnone ha =>
        rw [← q'.frames_move n]
        exact .stopped [] rfl trivial rfl hb hnone ha
          (congrArg settled (Effects.append_none done).symm)
      | taken n done' he heffects =>
        have hsize : (q'.move n).size ≤ fuel := by
          have hlength := congrArg List.length hframes
          rw [List.length_cons, q.length_frames, ← q'.frames_move n, (q'.move n).length_frames]
            at hlength
          omega
        have htaken := ih ((new c).handle text).1.coordinator (q'.move n) done' hsize
        rw [q'.frames_move n] at htaken
        exact htaken.cons he heffects

theorem run_ends (f : Feed) (inbound : List String) :
    Ends f.coordinator (f.backlog ++ inbound) .none (f.run inbound) :=
  ends _ f.coordinator ⟨f.backlog, inbound⟩ .none le_rfl

/-- Without batches there is no fetch that could fail. -/
theorem run_error_eq_none {f : Feed} {inbound : List String}
    (h : ∀ text ∈ f.backlog ++ inbound, batchOf? (Content.parse text) = none) :
    (f.run inbound).error = none := by
  have hends := f.run_ends inbound
  generalize f.run inbound = r at hends ⊢
  cases hends with
  | finished => rfl
  | stopped before hframes _ _ hb =>
    have hnone := h _ (hframes ▸ List.mem_append_right before List.mem_cons_self)
    exact absurd (hnone.symm.trans hb) (by simp)

/-- **No frame is lost, repeated or moved but one whose fetch has failed.** A
run that ends well leaves no frame, and each has been handled once, in the order
in which they waited. A run that fails does so because of a fetch: the frames
before the one that needed it have been handled, the frame itself has changed
nothing but the count of fetches, and those behind it are left in order. -/
theorem run_takes_in_order (f : Feed) (inbound : List String) :
    let r := f.run inbound
    let start := new f.coordinator
    match r.error with
    | none =>
      r.feed.backlog = [] ∧ r.inbound = [] ∧ start.Served (f.backlog ++ inbound) ∧
        r.feed = (start.handleAll (f.backlog ++ inbound)).1 ∧
        settled r.effects = settled (start.handleAll (f.backlog ++ inbound)).2
    | some e =>
      ∃ before text batch,
        f.backlog ++ inbound = before ++ text :: (r.feed.backlog ++ r.inbound) ∧
        start.Served before ∧ Content.parse text = .ok (.batch batch) ∧
        let c := (start.handleAll before).1.coordinator
        c.book? batch.symbol = none ∧ c.answer batch.symbol = .error e ∧
        r.feed.coordinator = c.fetched batch.symbol ∧
        r.feed.coordinator.books = c.books ∧ r.feed.coordinator.stats = c.stats ∧
        settled r.effects = settled (start.handleAll before).2 := by
  intro r start
  have hends : Ends f.coordinator (f.backlog ++ inbound) .none r := f.run_ends inbound
  generalize r = result at hends
  cases hends with
  | finished hserved heffects =>
    refine ⟨rfl, rfl, hserved, (handleAll_new _ _).symm, heffects⟩
  | @stopped before text q d b e effects hframes hserved hd hb hnone ha heffects =>
    subst hd
    exact ⟨before, text, b, hframes, hserved, parse_of_batchOf?_eq_some hb, hnone, ha, rfl, rfl,
      rfl, heffects⟩

/-- From `c` a run has taken a first part of `frames`, after events `done`. -/
structure RunsTo (c : Coordinator) (frames : List String) (done : List Event) (r : RunResult)
    (taken : List String) : Prop where
  split : frames = taken ++ left r
  coordinator : r.feed.coordinator = ((new c).handleAll taken).1.coordinator
  events : r.effects.events = done ++ ((new c).handleAll taken).2.events
  /-- A run that ends well leaves nothing. -/
  finished : r.error = none → left r = []
  /-- A run that fails does so on the last frame that it took. -/
  failed : ∀ e, r.error = some e → ∃ before text, taken = before ++ [text] ∧
    (((new c).handleAll before).1.handle text).2.1 = .error (.fetch e)

/-- However a run ends, it has taken a first part of the frames. -/
theorem Ends.runsTo {c : Coordinator} {frames : List String} {done : Effects} {r : RunResult}
    (h : Ends c frames done r) : ∃ taken, RunsTo c frames done.events r taken := by
  cases h with
  | finished _ heffects =>
    exact ⟨frames, (List.append_nil frames).symm, rfl, events_of_settled_eq heffects, fun _ => rfl,
      fun e he => absurd he (by simp)⟩
  | @stopped before text q d b e effects hframes _ hd hb hnone ha heffects =>
    -- the frame that fails counts as taken, it leaves a fetch behind and nothing else
    have hhandle : ((new c).handleAll before).1.handle text =
        (new (d.fetched b.symbol), .error (.fetch e), .none) := by
      rw [handleAll_new, hd]
      exact handle_of_answer_eq_error hb hnone ha
    have hlast : ((((new c).handleAll before).1).handleAll [text]) =
        (new (d.fetched b.symbol), .none ++ .none) := by
      rw [handleAll, hhandle]
      rfl
    refine ⟨before ++ [text], ?_, ?_, ?_, fun he => absurd he (by simp), ?_⟩
    · rw [hframes, List.append_assoc]
      rfl
    · rw [((new c).handleAll_append before [text]).1, hlast]
      rfl
    · rw [((new c).handleAll_append before [text]).2, hlast, Effects.append_none,
        Effects.append_none]
      exact events_of_settled_eq heffects
    · intro e' he'
      obtain rfl := Option.some_inj.mp he'
      exact ⟨before, text, rfl, congrArg (·.2.1) hhandle⟩

theorem run_runsTo (f : Feed) (inbound : List String) :
    ∃ taken, RunsTo f.coordinator (f.backlog ++ inbound) [] (f.run inbound) taken :=
  (f.run_ends inbound).runsTo

/-! ### Running again after failures -/

/-- Call `run` again while it fails, at most `n` times, on what is left of the
channel. -/
def retry : ℕ → RunResult → RunResult
  | 0, r => r
  | n + 1, r =>
    match r.error with
    | none => r
    | some _ =>
      let next := r.feed.run r.inbound
      retry n { next with effects := r.effects ++ next.effects }

section

variable {c : Coordinator} {frames taken : List String} {done : List Event} {r : RunResult}

theorem RunsTo.taken_ne_nil (h : RunsTo c frames done r taken) {e : FetchError}
    (he : r.error = some e) : taken ≠ [] := by
  obtain ⟨before, text, rfl, -⟩ := h.failed e he
  simp

/-- Two runs, one after the other, are a run. -/
theorem RunsTo.run_again (h : RunsTo c frames done r taken) :
    ∃ more, RunsTo c frames done
        { r.feed.run r.inbound with effects := r.effects ++ (r.feed.run r.inbound).effects }
        (taken ++ more) ∧
      ((r.feed.run r.inbound).error = none ∨ more ≠ []) := by
  obtain ⟨more, hmore⟩ := run_runsTo r.feed r.inbound
  have hnew : ((new c).handleAll taken).1 = new r.feed.coordinator := by
    rw [h.coordinator]
    exact handleAll_new c taken
  refine ⟨more, ⟨?_, ?_, ?_, hmore.finished, ?_⟩, ?_⟩
  · rw [h.split, List.append_assoc]
    exact congrArg (taken ++ ·) hmore.split
  · rw [((new c).handleAll_append taken more).1, hnew]
    exact hmore.coordinator
  · rw [((new c).handleAll_append taken more).2, hnew, Effects.append_events,
      Effects.append_events, h.events, hmore.events, List.nil_append, List.append_assoc]
  · intro e he
    obtain ⟨before, text, rfl, hlast⟩ := hmore.failed e he
    refine ⟨taken ++ before, text, (List.append_assoc _ _ _).symm, ?_⟩
    rw [((new c).handleAll_append taken before).1, hnew]
    exact hlast
  · cases he : (r.feed.run r.inbound).error with
    | none => exact Or.inl rfl
    | some e => exact Or.inr (hmore.taken_ne_nil he)

/-- Each failure has taken a frame, so the failures come to an end. -/
theorem RunsTo.retry (n : ℕ) (h : RunsTo c frames done r taken)
    (hn : r.error = none ∨ (left r).length < n) :
    (retry n r).error = none ∧ RunsTo c frames done (Feed.retry n r) frames := by
  induction n generalizing r taken with
  | zero =>
    have he : r.error = none := hn.resolve_right (by omega)
    have hsplit := h.split
    rw [h.finished he, List.append_nil] at hsplit
    exact ⟨he, hsplit ▸ h⟩
  | succ n ih =>
    rw [Feed.retry]
    cases he : r.error with
    | none =>
      have hsplit := h.split
      rw [h.finished he, List.append_nil] at hsplit
      exact ⟨he, hsplit ▸ h⟩
    | some e =>
      -- the next run ends well or takes at least the frame that it fails on
      obtain ⟨more, hagain, hmore⟩ := h.run_again
      refine ih hagain (hmore.imp_right fun hne => ?_)
      have hlength := congrArg List.length (h.split.symm.trans hagain.split)
      have hpos := List.length_pos_iff.mpr hne
      have hleft := hn.resolve_left (by simp [he])
      simp only [List.length_append] at hlength
      omega

end

/-- **Running is handling the frames in order.** Whatever arrives during the
fetches, a feed that is run again after each failure comes to an end, at the
latest after as many calls as there are frames, with nothing left over. Books,
statistics, fetches and events are then those of the frames handled one by one. -/
theorem retry_eq_handleAll (f : Feed) (inbound : List String) :
    let r := retry (f.backlog.length + inbound.length) (f.run inbound)
    let handled := (new f.coordinator).handleAll (f.backlog ++ inbound)
    r.error = none ∧ r.inbound = [] ∧ r.feed = handled.1 ∧
      r.effects.events = handled.2.events := by
  obtain ⟨taken, hrun⟩ := run_runsTo f inbound
  have hn : (f.run inbound).error = none ∨
      (left (f.run inbound)).length < f.backlog.length + inbound.length := by
    cases he : (f.run inbound).error with
    | none => exact Or.inl rfl
    | some e =>
      have hpos := List.length_pos_iff.mpr (hrun.taken_ne_nil he)
      have hlength := congrArg List.length hrun.split
      simp only [List.length_append] at hlength
      exact Or.inr (by omega)
  obtain ⟨herror, hr⟩ := hrun.retry _ hn
  obtain ⟨hbacklog, hinbound⟩ := List.append_eq_nil_iff.mp (hr.finished herror)
  refine ⟨herror, hinbound, ?_, ?_⟩
  · rw [handleAll_new, ← hr.coordinator, new, ← hbacklog]
  · rw [hr.events, List.nil_append]

end BookSync.Feed
