/-
What is told about a contract.

A run mixes the contracts: a reset may name many of them, and a batch may fetch
or be dropped. `Coordinator.told` picks out what the events of a run tell about
one contract.

* `AccountsFor.perform`: no call that hands over a batch in order breaks that
  what has been told accounts for the book that is held;
* `nodup_of_reset_events`: a reset names no contract twice;
* `told_in_segments`: so what is told about a contract falls into seamless
  segments, whatever happens to the other contracts.
-/
import BookSync.Proofs.Sync.Run
import BookSync.Proofs.Sync.Segment

namespace BookSync

/-- A source answers with a book of the symbol that awaits its bridge, or fails. -/
def Source.Answers (source : Source) : Prop :=
  ∀ symbol k book, source.answer symbol k = .ok book →
    book.symbol = symbol ∧ book.state = .awaitingBridge

/-- The batch that a call hands over. -/
def Call.batch? : Call → Option Batch
  | .process batch => some batch
  | .apply batch => some batch
  | _ => none

/-! ### What calls tell -/

/-- What an event tells about a contract; an update is of the batch handed over. -/
def Event.entries (batch : Batch) (symbol : String) : Event → List Entry
  | .snapshot book => if book.symbol = symbol then [.snapshot book] else []
  | .update u => if u.book.symbol = symbol then [.update ⟨batch, u⟩] else []
  | .reset symbols => if symbol ∈ symbols then [.reset] else []
  | .ticker _ | .trade _ | .candle _ | .funding _ => []

/-- What a call tells about a contract that hands a batch over. -/
def Call.told (symbol : String) (call : Call) (events : List Event) : List Entry :=
  call.batch?.elim [] fun batch => events.flatMap (·.entries batch symbol)

/-- What calls tell about a contract. -/
def Coordinator.told (c : Coordinator) (symbol : String) (calls : List Call) : List Entry :=
  (c.trace calls).flatMap fun (call, events) => call.told symbol events

namespace AccountsFor

variable {c : Coordinator} {told : List Entry} {symbol : String}

theorem applies (h : AccountsFor told (c.book? symbol)) (hk : c.Keyed) {batch : Batch}
    (hb : batch.InOrder) {r : Coordinator × Outcome × Effects} (happ : c.Applies batch r) :
    AccountsFor (told ++ r.2.2.events.flatMap (·.entries batch symbol)) (r.1.book? symbol) := by
  cases happ with
  | untracked =>
    show AccountsFor (told ++ []) _
    rwa [List.append_nil]
  | discarded =>
    show AccountsFor (told ++ []) _
    rwa [List.append_nil]
  | @gapped book expected =>
    obtain ⟨hcoordinator, hevents⟩ := c.resetOnGap_eq book batch expected
    rw [hcoordinator, hevents, c.events_reset, c.book?_reset, List.flatMap_singleton,
      Event.entries]
    by_cases hs : symbol ∈ c.clearedBy batch.symbol
    · -- a contract that the reset names has had a book, and so an open segment
      rw [if_pos hs, if_pos hs]
      obtain ⟨dropped, hd⟩ := Option.isSome_iff_exists.mp (c.isSome_of_mem_clearedBy hs)
      rw [hd] at h
      exact h.reset
    · rw [if_neg hs, if_neg hs, List.append_nil]
      exact h
  | @committed book bridge hbook hv =>
    have hsymbol : (book.updateBy batch).book.symbol = batch.symbol := hk _ book hbook
    rw [c.events_commit, c.book?_commit, List.flatMap_singleton, Event.entries, hsymbol]
    by_cases hs : batch.symbol = symbol
    · rw [if_pos hs, if_pos hs]
      rw [← hs, hbook] at h
      exact h.update hb hv
    · rw [if_neg hs, if_neg hs, List.append_nil]
      exact h

theorem processes (h : AccountsFor told (c.book? symbol)) (hk : c.Keyed)
    (hs : c.fetcher.source.Answers) {batch : Batch} (hb : batch.InOrder)
    {r : Coordinator × Except FetchError Outcome × Effects} (hp : c.Processes batch r) :
    AccountsFor (told ++ r.2.2.events.flatMap (·.entries batch symbol)) (r.1.book? symbol) := by
  have hstart : AccountsFor (told ++ []) (c.book? symbol) := by rwa [List.append_nil]
  have hfetched : (c.fetched batch.symbol).Keyed := hk
  refine (hp.keeps (P := fun c events => c.Keyed ∧
    AccountsFor (told ++ events.flatMap (·.entries batch symbol)) (c.book? symbol))
    [] ⟨hk, hstart⟩ ⟨hk, hstart⟩ ?_ ?_).2
  · intro book hnone ha
    obtain ⟨hbook, hstate⟩ := hs _ _ _ ha
    refine ⟨hfetched.install book, ?_⟩
    rw [List.nil_append, List.flatMap_singleton, Coordinator.book?_install, Event.entries, hbook]
    by_cases hs : batch.symbol = symbol
    · rw [if_pos hs, if_pos hs]
      rw [← hs, hnone] at h
      exact h.snapshot hstate
    · rw [if_neg hs, if_neg hs, List.append_nil]
      exact h
  · intro c' events r h happ
    obtain ⟨hkeyed, htold⟩ := h
    rw [List.flatMap_append, ← List.append_assoc]
    exact ⟨hkeyed.applies happ, htold.applies hkeyed hb happ⟩

theorem perform (h : AccountsFor told (c.book? symbol)) (hk : c.Keyed)
    (hs : c.fetcher.source.Answers) {call : Call}
    (hcall : ∃ batch ∈ call.batch?, batch.InOrder) :
    AccountsFor (told ++ call.told symbol (c.perform call).2.events)
      ((c.perform call).1.book? symbol) := by
  obtain ⟨batch, hbatch, hb⟩ := hcall
  cases call with
  | process b =>
    obtain rfl := Option.some_inj.mp hbatch
    exact h.processes hk hs hb (c.processes b)
  | apply b =>
    obtain rfl := Option.some_inj.mp hbatch
    exact h.applies hk hb (c.applies b)
  | _ => exact absurd hbatch (by simp [Call.batch?])

end AccountsFor

namespace Coordinator

/-- What has been told after any run accounts for the book that is held. -/
theorem accountsFor_told (source : Source) (scope : ResetScope) (hs : source.Answers)
    (calls : List Call) (hcalls : ∀ call ∈ calls, ∃ batch ∈ call.batch?, batch.InOrder)
    (symbol : String) :
    AccountsFor ((new source scope).told symbol calls)
      (((new source scope).after calls).book? symbol) := by
  have hrun := run_induction (c := new source scope)
    (P := fun c trace => c.fetcher.source = source ∧ c.Keyed ∧
      AccountsFor (trace.flatMap fun (call, events) => call.told symbol events) (c.book? symbol))
    ⟨rfl, keyed_new source scope, .vacant [] (by simp)⟩ calls ?_
  · exact hrun.2.2
  · intro c trace call hcall h
    obtain ⟨hsource, hkeyed, htold⟩ := h
    refine ⟨(source_perform call).trans hsource, hkeyed.perform call, ?_⟩
    rw [List.flatMap_append, List.flatMap_singleton]
    exact htold.perform hkeyed (hsource ▸ hs) (hcalls call hcall)

theorem nodup_of_mem_reset {c : Coordinator} {gapped : String} {symbols : List String}
    (hr : .reset symbols ∈ (c.reset gapped).2.2.events) : symbols.Nodup := by
  rw [c.events_reset] at hr
  obtain rfl := Event.reset.inj (List.mem_singleton.mp hr)
  exact c.nodup_clearedBy gapped

theorem Applies.nodup_of_reset {c : Coordinator} {batch : Batch}
    {r : Coordinator × Outcome × Effects} (happ : c.Applies batch r) {symbols : List String}
    (hr : .reset symbols ∈ r.2.2.events) : symbols.Nodup := by
  cases happ with
  | untracked => exact absurd hr List.not_mem_nil
  | discarded => exact absurd hr List.not_mem_nil
  | @gapped book expected =>
    rw [(c.resetOnGap_eq book batch expected).2] at hr
    exact nodup_of_mem_reset hr
  | committed => exact absurd (List.mem_singleton.mp hr) (by simp)

/-- A reset does not name a contract twice. -/
theorem nodup_of_reset_perform {c : Coordinator} (call : Call)
    {symbols : List String} (hr : .reset symbols ∈ (c.perform call).2.events) :
    symbols.Nodup := by
  cases call with
  | process batch =>
    have hnil : ∀ symbols, Event.reset symbols ∈ [] → symbols.Nodup :=
      fun _ h => absurd h List.not_mem_nil
    refine (c.processes batch).keeps
      (P := fun _ events => ∀ symbols, .reset symbols ∈ events → symbols.Nodup)
      [] hnil hnil ?_ ?_ symbols hr
    · intro book _ _ symbols hr
      exact absurd (List.mem_singleton.mp hr) (by simp)
    · intro c' events r h happ symbols hr
      rcases List.mem_append.mp hr with hr | hr
      · exact h symbols hr
      · exact happ.nodup_of_reset hr
  | install book => exact absurd (List.mem_singleton.mp hr) (by simp)
  | apply batch => exact (c.applies batch).nodup_of_reset hr
  | reset symbol => exact nodup_of_mem_reset hr
  | clear => exact absurd hr List.not_mem_nil

theorem nodup_of_reset_events (source : Source) (scope : ResetScope) (calls : List Call)
    {symbols : List String} (hr : .reset symbols ∈ (new source scope).events calls) :
    symbols.Nodup := by
  have hrun := run_induction (c := new source scope)
    (P := fun _ trace => ∀ symbols, .reset symbols ∈ trace.flatMap (·.2) → symbols.Nodup)
    (fun _ h => absurd h List.not_mem_nil) calls ?_
  · exact hrun symbols hr
  · intro c trace call _ hnodup symbols hr
    rw [List.flatMap_append, List.flatMap_singleton] at hr
    rcases List.mem_append.mp hr with hr | hr
    · exact hnodup symbols hr
    · exact nodup_of_reset_perform call hr

/-- **What is told about a contract.** Whatever batches in order are handed over
for whatever contracts, with fetches that may fail, the events about a contract
form seamless segments closed by resets, and a reset names it at most once. -/
theorem told_in_segments (source : Source) (scope : ResetScope) (hs : source.Answers)
    (calls : List Call) (hcalls : ∀ call ∈ calls, ∃ batch ∈ call.batch?, batch.InOrder)
    (symbol : String) :
    (∀ symbols, .reset symbols ∈ (new source scope).events calls → symbols.count symbol ≤ 1) ∧
      ∃ closed current,
        (new source scope).told symbol calls = Entry.ofSegments closed current ∧
          ∀ g ∈ closed ++ current.toList, g.Seamless := by
  refine ⟨fun symbols hr => ?_, (accountsFor_told source scope hs calls hcalls symbol).seamless⟩
  exact List.nodup_iff_count_le_one.mp (nodup_of_reset_events source scope calls hr) symbol

end Coordinator

/-! ### A gap between two segments -/

/-- A source that fails once and then answers with an empty book at step 10. -/
def gapSource : Source where
  answer symbol k := if k = 0 then .error .transport else .ok (.empty symbol 10)
  pending _ _ := 0

/-- A batch without changes. -/
def gapBatch (first last : SequenceId) : Batch := ⟨"X", first, last, 0, [], [], none⟩

/-- A failed fetch, a segment with two updates, a gap, and a segment with one. -/
def gapCalls : List Call :=
  [.process (gapBatch 5 9), .apply (gapBatch 5 9), .process (gapBatch 9 11),
    .apply (gapBatch 12 12), .apply (gapBatch 14 15), .process (gapBatch 11 11)]

theorem gapSource_answers : gapSource.Answers := by
  intro symbol k book h
  simp only [gapSource] at h
  split at h
  · exact absurd h (by simp)
  · injection h with h
    rw [← h]
    exact ⟨rfl, rfl⟩

open Coordinator in
theorem told_in_segments_gap :
    gapSource.Answers ∧ (∀ call ∈ gapCalls, ∃ batch ∈ call.batch?, batch.InOrder) ∧
      ((new gapSource .perSymbol).told "X" gapCalls).length = 6 ∧
      ∃ closed current,
        (new gapSource .perSymbol).told "X" gapCalls = Entry.ofSegments closed current ∧
          ∀ g ∈ closed ++ current.toList, g.Seamless := by
  have hcalls : ∀ call ∈ gapCalls, ∃ batch ∈ call.batch?, batch.InOrder := by
    intro call hcall
    simp only [gapCalls, List.mem_cons, List.not_mem_nil, or_false] at hcall
    rcases hcall with rfl | rfl | rfl | rfl | rfl | rfl <;> exact ⟨_, rfl, by decide⟩
  refine ⟨gapSource_answers, hcalls, rfl, ?_⟩
  exact (told_in_segments gapSource .perSymbol gapSource_answers gapCalls hcalls "X").2

end BookSync
