/-
Frames without a batch leave the books alone.

A frame that is refused changes nothing and tells nothing. Other frames without
a batch may have events of the market to tell, but they reach no book, no count
and no source. Put into a stream anywhere, they make no difference to the books:

* `Padded`: a stream, and the same stream with such frames put in;
* `handleAll_padded`: handled one by one, both lead to the same feed;
* `Alongside`: two results that the books cannot tell apart;
* `Padded.run`, `Alongside.retry`: nor can they tell apart what runs over both
  streams lead to, however often a run has to be called again;
* `idle_frames_leave_books`: all of this, and which frames are meant.

The frames put in take their places in the queues, so that during a fetch others
may arrive than without them. Runs are therefore compared whatever arrives while
they fetch (`Coordinator.Retimed`).
-/
import BookSync.Proofs.Sync.Content
import BookSync.Proofs.Sync.Frames
import BookSync.Proofs.Sync.Protocol

namespace BookSync

namespace Coordinator

/-! ### What arrives during fetches -/

/-- Two coordinators that differ at most in what arrives while they fetch. -/
structure Retimed (c c' : Coordinator) : Prop where
  scope : c.scope = c'.scope
  books : c.books = c'.books
  stats : c.stats = c'.stats
  fetched : c.fetcher.fetched = c'.fetcher.fetched
  answer : c.fetcher.source.answer = c'.fetcher.source.answer

theorem Retimed.refl (c : Coordinator) : c.Retimed c := ⟨rfl, rfl, rfl, rfl, rfl⟩

variable {c c' : Coordinator}

theorem Retimed.apply (h : c.Retimed c') (batch : Batch) :
    (c.apply batch).1.Retimed (c'.apply batch).1 ∧ (c.apply batch).2 = (c'.apply batch).2 := by
  have hc' : c' = { c with fetcher := c'.fetcher } := by
    obtain ⟨scope, fetcher, books, stats⟩ := c
    obtain ⟨scope', fetcher', books', stats'⟩ := c'
    obtain ⟨rfl, rfl, rfl, -, -⟩ := h
    rfl
  have hfetcher := (c.applies batch).fetcher_eq
  have happly := apply_with_fetcher c c'.fetcher batch
  rw [← hc'] at happly
  rw [happly]
  refine ⟨⟨rfl, rfl, rfl, ?_, ?_⟩, rfl⟩
  · rw [hfetcher]
    exact h.fetched
  · rw [hfetcher]
    exact h.answer

theorem Retimed.install (h : c.Retimed c') (book : Book) :
    (c.install book).1.Retimed (c'.install book).1 where
  scope := h.scope
  books := congrArg (·.insert book.symbol book) h.books
  stats := congrArg (fun s => { s with snapshotsLoaded := s.snapshotsLoaded + 1 }) h.stats
  fetched := h.fetched
  answer := h.answer

/-- A batch takes no notice of what arrives during its fetch. -/
theorem Retimed.process (h : c.Retimed c') (batch : Batch) :
    (c.process batch).1.Retimed (c'.process batch).1 ∧
      (c.process batch).2 = (c'.process batch).2 := by
  have hneeds : c.needsSnapshot batch.symbol = c'.needsSnapshot batch.symbol := by
    rw [needsSnapshot, h.books, needsSnapshot]
  have hanswer : c.answer batch.symbol = c'.answer batch.symbol := by
    rw [Coordinator.answer, Coordinator.answer, Fetcher.count, Fetcher.count, h.fetched, h.answer]
  have hfetched : (c.fetched batch.symbol).Retimed (c'.fetched batch.symbol) :=
    ⟨h.scope, h.books, h.stats, congrArg (· ++ [batch.symbol]) h.fetched, h.answer⟩
  rw [Coordinator.process, Coordinator.process, ← hneeds, c.fetch_eq, c'.fetch_eq, ← hanswer]
  split
  · cases c.answer batch.symbol with
    | error e => exact ⟨hfetched, rfl⟩
    | ok book =>
      obtain ⟨happlied, hsame⟩ := (hfetched.install book).apply batch
      exact ⟨happlied, congrArg
        (fun r : Outcome × Effects => (Except.ok r.1, (c.install book).2 ++ r.2)) hsame⟩
  · obtain ⟨happlied, hsame⟩ := h.apply batch
    exact ⟨happlied, congrArg (fun r : Outcome × Effects => (Except.ok r.1, r.2)) hsame⟩

end Coordinator

namespace Feed

/-! ### Streams with frames put in -/

/-- The second stream is the first with frames without a batch put in. -/
inductive Padded : List String → List String → Prop
  | nil : Padded [] []
  /-- A frame of both streams. -/
  | keep (text : String) {stream padded : List String} (h : Padded stream padded) :
      Padded (text :: stream) (text :: padded)
  /-- A frame that has been put in. -/
  | idle {text : String} {stream padded : List String} (ht : Content.Idle text)
      (h : Padded stream padded) : Padded stream (text :: padded)

/-- The events about books. -/
def bookEvents (effects : Effects) : List Event := effects.events.filter Event.ofBook

theorem bookEvents_append (first second : Effects) :
    bookEvents (first ++ second) = bookEvents first ++ bookEvents second :=
  List.filter_append _ _

theorem bookEvents_of_settled_eq {first second : Effects}
    (h : settled first = settled second) : bookEvents first = bookEvents second := by
  rw [bookEvents, events_of_settled_eq h, bookEvents]

theorem handle_eq_decode_error_iff (f : Feed) (text : String) :
    (∃ error, (f.handle text).2.1 = .error (.decode error)) ↔
      ∃ error, Content.parse text = .error error := by
  rw [handle]
  cases hc : Content.parse text with
  | error error => exact ⟨fun _ => ⟨error, rfl⟩, fun _ => ⟨error, rfl⟩⟩
  | ok content =>
    -- what has been decoded fails at most in a fetch
    refine iff_of_false ?_ (by simp)
    cases content with
    | batch b =>
      dsimp only
      split <;> simp
    | _ => simp

/-- A frame that is refused changes nothing and tells nothing. -/
theorem handle_of_decode_error {f : Feed} {text : String} {error : DecodeError}
    (h : (f.handle text).2.1 = .error (.decode error)) :
    (f.handle text).1 = f ∧ (f.handle text).2.2.events = [] := by
  obtain ⟨error', hc⟩ := (f.handle_eq_decode_error_iff text).mp ⟨error, h⟩
  rw [handle, hc]
  exact ⟨rfl, rfl⟩

/-- A frame without a batch changes nothing and tells nothing about books. -/
theorem handle_of_idle (f : Feed) {text : String} (h : Content.Idle text) :
    (f.handle text).1 = f ∧ bookEvents (f.handle text).2.2 = [] ∧
      ∀ e, (f.handle text).2.1 ≠ .error (.fetch e) := by
  have hb : batchOf? (Content.parse text) = none := by
    cases hb : batchOf? (Content.parse text) with
    | none => rfl
    | some b => exact absurd (parse_of_batchOf?_eq_some hb) (h b)
  obtain ⟨hfeed, heffects, herror⟩ := handle_of_batchOf?_eq_none (f := f) hb
  refine ⟨hfeed, ?_, herror⟩
  rw [heffects, bookEvents, List.filter_eq_nil_iff]
  cases hc : Content.parse text with
  | error error => exact fun _ he => absurd he List.not_mem_nil
  | ok content =>
    intro event he
    rw [Content.not_ofBook hc event he]
    exact Bool.false_ne_true

/-- Handled one by one, the frames put in make no difference. -/
theorem handleAll_padded (f : Feed) {stream padded : List String} (h : Padded stream padded) :
    (f.handleAll padded).1 = (f.handleAll stream).1 ∧
      bookEvents (f.handleAll padded).2 = bookEvents (f.handleAll stream).2 := by
  induction h generalizing f with
  | nil => exact ⟨rfl, rfl⟩
  | @keep text stream padded _ ih =>
    obtain ⟨hfeed, hevents⟩ := ih (f.handle text).1
    refine ⟨hfeed, ?_⟩
    rw [(f.handleAll_cons text padded).2, (f.handleAll_cons text stream).2, bookEvents_append,
      bookEvents_append, hevents]
  | @idle text stream padded ht _ ih =>
    obtain ⟨hsame, hnone, -⟩ := f.handle_of_idle ht
    obtain ⟨hfeed, hevents⟩ := ih f
    rw [(f.handleAll_cons text padded).1, (f.handleAll_cons text padded).2, bookEvents_append, hnone,
      hsame]
    exact ⟨hfeed, hevents⟩

/-! ### Runs side by side -/

/-- Two results of runs that the books cannot tell apart. -/
structure Alongside (r r' : RunResult) : Prop where
  error : r.error = r'.error
  coordinator : r.feed.coordinator.Retimed r'.feed.coordinator
  events : bookEvents r.effects = bookEvents r'.effects
  left : Padded (left r) (left r')

/-- A frame takes no notice of what arrives while it is handled. -/
theorem handle_retimed {c c' : Coordinator} (h : c.Retimed c') (text : String) :
    ((new c).handle text).1.coordinator.Retimed ((new c').handle text).1.coordinator ∧
      ((new c).handle text).2 = ((new c').handle text).2 := by
  rw [handle, handle]
  cases Content.parse text with
  | error _ => exact ⟨h, rfl⟩
  | ok content =>
    cases content with
    | batch b =>
      obtain ⟨hafter, hsame⟩ := h.process b
      dsimp only [new]
      generalize c.process b = p at hafter hsame ⊢
      generalize c'.process b = p' at hafter hsame ⊢
      obtain ⟨d, result, effects⟩ := p
      obtain ⟨d', _, _⟩ := p'
      obtain ⟨rfl, rfl⟩ := Prod.mk.inj hsame
      cases result <;> exact ⟨hafter, rfl⟩
    | _ => exact ⟨h, rfl⟩

/-- However two runs over such streams end, they end alongside. -/
theorem Padded.ends {stream padded : List String} (h : Padded stream padded)
    {c c' : Coordinator} (hc : c.Retimed c') {done done' : Effects} {r r' : RunResult}
    (hr : Ends c stream done r) (hr' : Ends c' padded done' r')
    (hdone : bookEvents done = bookEvents done') : Alongside r r' := by
  induction h generalizing c c' done done' with
  | nil =>
    cases hr with
    | stopped before hframes => exact absurd hframes (by simp)
    | finished _ heffects =>
      cases hr' with
      | stopped before hframes => exact absurd hframes (by simp)
      | finished _ heffects' =>
        refine ⟨rfl, hc, ?_, .nil⟩
        rw [bookEvents_of_settled_eq heffects, bookEvents_of_settled_eq heffects',
          bookEvents_append, bookEvents_append, hdone]
        rfl
  | @keep text stream padded hp ih =>
    obtain ⟨hafter, hsame⟩ := handle_retimed hc text
    rcases hr.uncons with ⟨he, htaken⟩ | ⟨e, hfail, herror, hleft, heffects⟩
    · rcases hr'.uncons with ⟨-, htaken'⟩ | ⟨e, hfail, -⟩
      · refine ih hafter htaken htaken' ?_
        rw [bookEvents_append, bookEvents_append, hdone, hsame]
      · exact absurd (congrArg (·.2.1) hfail) (hsame ▸ he e)
    · rcases hr'.uncons with ⟨he', -⟩ | ⟨e', hfail', herror', hleft', heffects'⟩
      · exact absurd (congrArg (·.2.1) hfail) (hsame ▸ he' e)
      · -- both fail on this frame, and have the frames behind it left
        rw [hfail, hfail'] at hsame hafter
        have hsame := Except.error.inj (congrArg (·.1) hsame)
        refine ⟨?_, hafter, ?_, ?_⟩
        · rw [herror, herror', Error.fetch.inj hsame]
        · rw [bookEvents_of_settled_eq heffects, bookEvents_of_settled_eq heffects', hdone]
        · rw [hleft, hleft']
          exact hp
  | @idle text stream padded ht hp ih =>
    -- only the second run has this frame, and it goes on from where it was
    obtain ⟨hsame, hnone, herror⟩ := (new c').handle_of_idle ht
    rcases hr'.uncons with ⟨-, htaken'⟩ | ⟨e, hfail, -⟩
    · refine ih hc hr (hsame ▸ htaken') ?_
      rw [bookEvents_append, hnone, List.append_nil, hdone]
    · exact absurd (congrArg (·.2.1) hfail) (herror e)

theorem Padded.run {f f' : Feed} {inbound inbound' : List String}
    (h : Padded (f.backlog ++ inbound) (f'.backlog ++ inbound'))
    (hc : f.coordinator.Retimed f'.coordinator) : Alongside (f.run inbound) (f'.run inbound') :=
  h.ends hc (f.run_ends inbound) (f'.run_ends inbound') rfl

/-- Called again as often as need be, runs stay alongside. -/
theorem Alongside.retry {r r' : RunResult} (h : Alongside r r') (n : ℕ) :
    Alongside (retry n r) (retry n r') := by
  induction n generalizing r r' with
  | zero => exact h
  | succ n ih =>
    rw [Feed.retry, Feed.retry, ← h.error]
    cases r.error with
    | none => exact h
    | some e =>
      have hnext := h.left.run h.coordinator
      refine ih ⟨hnext.error, hnext.coordinator, ?_, hnext.left⟩
      rw [bookEvents_append, bookEvents_append, h.events, hnext.events]

/-- **Frames without a batch leave the books alone.** A frame that is refused,
for one bad entry as for anything else, changes nothing and tells nothing. All
frames without a batch may be put into a stream anywhere: books, counts, fetches
and the events about books are those of the stream without them. This holds for
frames handled one by one, and for runs that are called again `n` times, with
any part of the stream in the backlog and whatever arrives during the fetches. -/
theorem idle_frames_leave_books (f : Feed) :
    (∀ text error, (f.handle text).2.1 = .error (.decode error) →
      (f.handle text).1 = f ∧ (f.handle text).2.2.events = []) ∧
    (∀ text, Content.Spoiled text → ∃ error, (f.handle text).2.1 = .error (.decode error)) ∧
    (∀ text, Content.Idle text ↔ (∃ error, (f.handle text).2.1 = .error (.decode error)) ∨
      ∃ e, Envelope.parse text = .ok e ∧
        (e.venueError?.isSome ∨ e.isAck ∨ e.kind ≠ some .bookUpdate)) ∧
    (∀ stream padded, Padded stream padded →
      (f.handleAll padded).1 = (f.handleAll stream).1 ∧
        bookEvents (f.handleAll padded).2 = bookEvents (f.handleAll stream).2) ∧
    ∀ (g : Feed) (stream padded : List String), f.coordinator.Retimed g.coordinator →
      Padded (f.backlog ++ stream) (g.backlog ++ padded) →
      ∀ n, Alongside (retry n (f.run stream)) (retry n (g.run padded)) := by
  refine ⟨fun _ _ => handle_of_decode_error, fun text h => ?_, fun text => ?_,
    fun _ _ => f.handleAll_padded, fun _ _ _ hc h n => (h.run hc).retry n⟩
  · exact (f.handle_eq_decode_error_iff text).mpr h.refused
  · rw [f.handle_eq_decode_error_iff]
    exact Content.idle_iff text

/-! ### A list with a bad entry -/

/-- A trade without any fields. -/
def shortTrade : String := "[1,\"futures.trades\",\"update\",null,[[]]]"

/-- An update of a book without levels. -/
def emptyUpdate : String := "[1,\"futures.order_book_update\",\"update\",null,[1,\"X\",1,1]]"

theorem spoiled_shortTrade : Content.Spoiled shortTrade := by
  have hchars : shortTrade.toList = ['[', '1', ',', '"', 'f', 'u', 't', 'u', 'r', 'e', 's', '.',
      't', 'r', 'a', 'd', 'e', 's', '"', ',', '"', 'u', 'p', 'd', 'a', 't', 'e', '"', ',', 'n', 'u',
      'l', 'l', ',', '[', '[', ']', ']', ']'] := by simp [shortTrade]
  have hparse : Envelope.parse shortTrade = .ok ⟨some 1, some "futures.trades", some "update", none,
      some (.array [.array []])⟩ := by
    rw [Envelope.parse, Json.ofText?, hchars]
    rfl
  have hcarries : Content.Carries shortTrade _ .trades := ⟨hparse, rfl, rfl, rfl⟩
  refine .entry hcarries rfl List.mem_cons_self ?_
  rintro ⟨r, t, hr, -⟩
  have hshort : Trade.entry (Json.Value.array []).toDraft =
      .error (.invalidLength 0 "struct TradeResult with 6 elements") := rfl
  exact absurd (hr.symm.trans hshort) (by simp)

theorem idle_frames_leave_books_shortTrade :
    let f := new (.new gapSource .global)
    let padded := [shortTrade, emptyUpdate, shortTrade]
    (f.handle shortTrade).2.2.events = [] ∧
      (f.handleAll padded).1 = (f.handleAll [emptyUpdate]).1 ∧
      Alongside (retry 2 (f.run [emptyUpdate])) (retry 2 (f.run padded)) := by
  intro f padded
  obtain ⟨hrefused, hspoiled, hidle, hhandled, hrun⟩ := idle_frames_leave_books f
  obtain ⟨error, herror⟩ := hspoiled shortTrade spoiled_shortTrade
  have ht : Content.Idle shortTrade := (hidle shortTrade).mpr (Or.inl ⟨error, herror⟩)
  have hpadded : Padded [emptyUpdate] padded := .idle ht (.keep emptyUpdate (.idle ht .nil))
  exact ⟨(hrefused shortTrade error herror).2, (hhandled _ _ hpadded).1,
    hrun f [emptyUpdate] padded (.refl _) hpadded 2⟩

end Feed

end BookSync
