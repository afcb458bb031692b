/-
The counts of a run.

A coordinator counts batches, resets and snapshots while it works. The same numbers
can be had from the outside, in three ways: from the outcomes of the batches, from the
answers of the source, and from what has been told.

* `Counts`: what a part of a run adds to each count, and which events go with it;
  parts that follow each other add up (`Counts.trans`);
* `counts_perform`: a call adds what its outcome and its installation say;
* `answers_perform`: a call asks the source for the book of its batch or not at all,
  and installs the answer if it is one;
* `stats_balance`: so for a whole run all three ways agree with the counts, and no
  count is greater than the number of calls.
-/
import BookSync.Proofs.Sync.Installed
import BookSync.Proofs.Sync.Protocol

namespace BookSync

/-! ### Kinds of outcomes, events and calls -/

namespace Outcome

/-- The batch has changed its book. -/
def isTaken : Outcome → Bool
  | .applied _ | .bridged _ => true
  | _ => false

def isDiscarded : Outcome → Bool
  | .discarded => true
  | _ => false

def isReset : Outcome → Bool
  | .reset _ => true
  | _ => false

/-- A batch that has found a book counts once. -/
theorem length_eq_of_untracked_not_mem {outcomes : List Outcome} (h : .untracked ∉ outcomes) :
    outcomes.length =
      outcomes.countP isTaken + outcomes.countP isDiscarded + outcomes.countP isReset := by
  induction outcomes with
  | nil => rfl
  | cons outcome rest ih =>
    rw [List.mem_cons, not_or] at h
    have hrest := ih h.2
    rw [List.length_cons, List.countP_cons, List.countP_cons, List.countP_cons]
    cases outcome with
    | untracked => exact absurd rfl h.1
    | _ =>
      simp only [isTaken, isDiscarded, isReset, if_true, if_false, Bool.false_eq_true]
      omega

end Outcome

namespace Event

def isSnapshot : Event → Bool
  | .snapshot _ => true
  | _ => false

def isUpdate : Event → Bool
  | .update _ => true
  | _ => false

def isReset : Event → Bool
  | .reset _ => true
  | _ => false

end Event

namespace Call

def isProcess : Call → Bool
  | .process _ => true
  | _ => false

def isInstall : Call → Bool
  | .install _ => true
  | _ => false

def isReset : Call → Bool
  | .reset _ => true
  | _ => false

end Call

/-! ### Answers of a source -/

/-- The answers to fetches in order, behind earlier ones. -/
def Source.answersTo (source : Source) (earlier : List String) :
    List String → List (Except FetchError Book)
  | [] => []
  | symbol :: rest =>
    source.answer symbol (earlier.count symbol) :: source.answersTo (earlier ++ [symbol]) rest

theorem Source.answersTo_append (source : Source) (earlier first second : List String) :
    source.answersTo earlier (first ++ second) =
      source.answersTo earlier first ++ source.answersTo (earlier ++ first) second := by
  induction first generalizing earlier with
  | nil => rw [List.append_nil]; rfl
  | cons symbol rest ih =>
    rw [List.cons_append, answersTo, ih, answersTo, List.append_assoc]
    rfl

/-- The answers that a fetcher has got so far. -/
def Fetcher.answers (f : Fetcher) : List (Except FetchError Book) :=
  f.source.answersTo [] f.fetched

/-- A source answers with a book of the contract that it is asked for, or fails. -/
def Source.AnswersAsAsked (source : Source) : Prop :=
  ∀ symbol k book, source.answer symbol k = .ok book → book.symbol = symbol

namespace Coordinator

/-! ### Outcomes of a run -/

/-- What comes of the batch that a call hands over, if it is not refused. -/
def outcome? (c : Coordinator) : Call → Option Outcome
  | .process batch => (c.process batch).2.1.toOption
  | .apply batch => some (c.apply batch).2.1
  | .install _ | .reset _ | .clear => none

/-- The outcomes of a run, each with the call that it comes from. -/
def outcomes (c : Coordinator) : List Call → List (Call × Outcome)
  | [] => []
  | call :: rest => (c.outcome? call).toList.map (call, ·) ++ (c.perform call).1.outcomes rest

/-- What has become of the batches of a run that were handed over to be processed. -/
def processed (c : Coordinator) (calls : List Call) : List Outcome :=
  ((c.outcomes calls).filter (·.1.isProcess)).map (·.2)

/-- The answer that a call asks for, if it does. -/
def asked? (c : Coordinator) : Call → Option (Except FetchError Book)
  | .process batch => if c.needsSnapshot batch.symbol then some (c.answer batch.symbol) else none
  | .install _ | .apply _ | .reset _ | .clear => none

/-! ### What a part of a run adds -/

/-- On the way from `c` to `c'` some batches have had outcomes, some resets have come
without a batch, and some books have been loaded. This is what the counts say, and
what has been told. -/
structure Counts (c c' : Coordinator) (outcomes : List Outcome) (cleared loaded : ℕ)
    (events : List Event) : Prop where
  batchesApplied :
    c'.stats.batchesApplied = c.stats.batchesApplied + outcomes.countP Outcome.isTaken
  staleDiscarded :
    c'.stats.staleDiscarded = c.stats.staleDiscarded + outcomes.countP Outcome.isDiscarded
  resets : c'.stats.resets = c.stats.resets + (outcomes.countP Outcome.isReset + cleared)
  snapshotsLoaded : c'.stats.snapshotsLoaded = c.stats.snapshotsLoaded + loaded
  updatesTold : events.countP Event.isUpdate = outcomes.countP Outcome.isTaken
  resetsTold : events.countP Event.isReset = outcomes.countP Outcome.isReset + cleared
  snapshotsTold : events.countP Event.isSnapshot = loaded

variable {c c' c'' : Coordinator} {batch : Batch}

theorem Counts.nothing (h : c'.stats = c.stats) : Counts c c' [] 0 0 [] := by
  constructor <;> simp [h]

theorem Counts.trans {outcomes outcomes' : List Outcome} {cleared cleared' loaded loaded' : ℕ}
    {events events' : List Event} (h : Counts c c' outcomes cleared loaded events)
    (h' : Counts c' c'' outcomes' cleared' loaded' events') :
    Counts c c'' (outcomes ++ outcomes') (cleared + cleared') (loaded + loaded')
      (events ++ events') where
  batchesApplied := by rw [h'.batchesApplied, h.batchesApplied, List.countP_append, Nat.add_assoc]
  staleDiscarded := by rw [h'.staleDiscarded, h.staleDiscarded, List.countP_append, Nat.add_assoc]
  resets := by
    have hfirst := h.resets
    have hsecond := h'.resets
    rw [List.countP_append]
    omega
  snapshotsLoaded := by rw [h'.snapshotsLoaded, h.snapshotsLoaded, Nat.add_assoc]
  updatesTold := by rw [List.countP_append, List.countP_append, h.updatesTold, h'.updatesTold]
  resetsTold := by
    have hfirst := h.resetsTold
    have hsecond := h'.resetsTold
    rw [List.countP_append, List.countP_append]
    omega
  snapshotsTold := by rw [List.countP_append, h.snapshotsTold, h'.snapshotsTold]

theorem counts_install (c : Coordinator) (book : Book) :
    Counts c (c.install book).1 [] 0 1 (c.install book).2.events := by
  constructor <;> rfl

theorem counts_reset (c : Coordinator) (symbol : String) :
    Counts c (c.reset symbol).1 [] 1 0 (c.reset symbol).2.2.events := by
  constructor <;> rfl

/-- A batch adds to one count at most, and its outcome says which. -/
theorem Applies.counts {r : Coordinator × Outcome × Effects} (h : c.Applies batch r) :
    Counts c r.1 [r.2.1] 0 0 r.2.2.events := by
  cases h with
  | untracked => constructor <;> rfl
  | discarded => constructor <;> rfl
  | gapped => constructor <;> rfl
  | committed bridge => cases bridge <;> constructor <;> rfl

/-! ### What a call adds -/

theorem asked?_of_book?_eq_none (hb : c.book? batch.symbol = none) :
    c.asked? (.process batch) = some (c.answer batch.symbol) :=
  if_pos ((c.needsSnapshot_iff batch.symbol).mpr hb)

theorem asked?_of_book?_eq_some {book : Book} (hb : c.book? batch.symbol = some book) :
    c.asked? (.process batch) = none :=
  if_neg (c.not_needsSnapshot_of_book?_eq_some hb)

/-- Of the answers those that are books are installed. -/
theorem installedBy?_process (c : Coordinator) (batch : Batch) :
    c.installedBy? (.process batch) = (c.asked? (.process batch)).bind Except.toOption := by
  simp only [installedBy?, asked?]
  split <;> rfl

theorem Processes.counts {r : Coordinator × Except FetchError Outcome × Effects}
    (hp : c.Processes batch r) :
    Counts c r.1 r.2.1.toOption.toList 0 (c.installedBy? (.process batch)).toList.length
      r.2.2.events := by
  rw [installedBy?_process]
  cases hp with
  | tracked hb happ =>
    rw [asked?_of_book?_eq_some hb]
    exact happ.counts
  | failed hb ha =>
    rw [asked?_of_book?_eq_none hb, ha]
    exact .nothing rfl
  | @fetched book r hb ha happ =>
    rw [asked?_of_book?_eq_none hb, ha]
    -- the fetch itself counts for nothing, its book is one that has been loaded
    have hfetch : Counts c (c.fetched batch.symbol) [] 0 0 [] := .nothing rfl
    exact (hfetch.trans (counts_install _ book)).trans happ.counts

theorem counts_perform (c : Coordinator) (call : Call) :
    Counts c (c.perform call).1 (c.outcome? call).toList call.isReset.toNat
      (c.installedBy? call).toList.length (c.perform call).2.events := by
  cases call with
  | process batch => exact (c.processes batch).counts
  | install book => exact c.counts_install book
  | apply batch => exact (c.applies batch).counts
  | reset symbol => exact c.counts_reset symbol
  | clear => exact .nothing rfl

/-- A run adds what its calls add. -/
theorem counts_after (c : Coordinator) (calls : List Call) :
    Counts c (c.after calls) ((c.outcomes calls).map (·.2)) (calls.countP Call.isReset)
      (c.installed calls).length (c.events calls) := by
  induction calls generalizing c with
  | nil => exact .nothing rfl
  | cons call rest ih =>
    have hrun := (c.counts_perform call).trans (ih (c.perform call).1)
    have hcleared : (call :: rest).countP Call.isReset =
        call.isReset.toNat + rest.countP Call.isReset := by
      rw [List.countP_cons, Nat.add_comm]
      cases call.isReset <;> rfl
    rw [hcleared, outcomes, installed, List.length_append, List.map_append]
    have hsame : ((c.outcome? call).toList.map (call, ·)).map (·.2) = (c.outcome? call).toList := by
      simp
    rw [hsame]
    exact hrun

/-! ### What a run asks its source -/

/-- A call asks its source once, for the book of its batch, or not at all. -/
theorem answers_perform (c : Coordinator) (call : Call) :
    (c.perform call).1.fetcher.answers = c.fetcher.answers ++ (c.asked? call).toList := by
  cases call with
  | process batch =>
    show (c.process batch).1.fetcher.answers = _
    rw [(c.processes batch).fetcher_eq, Fetcher.answers, Source.answersTo_append]
    cases hb : c.book? batch.symbol with
    | none =>
      rw [asked?_of_book?_eq_none hb]
      rfl
    | some book =>
      rw [asked?_of_book?_eq_some hb]
      rfl
  | apply batch =>
    show (c.apply batch).1.fetcher.answers = c.fetcher.answers ++ []
    rw [(c.applies batch).fetcher_eq, List.append_nil]
  | install | reset | clear => exact (List.append_nil c.fetcher.answers).symm

/-- What a call installs has been handed over, or is an answer that is a book. -/
theorem length_installedBy? (c : Coordinator) (call : Call) :
    (c.installedBy? call).toList.length =
      (c.asked? call).toList.countP Except.isOk + call.isInstall.toNat := by
  cases call with
  | process batch =>
    rw [installedBy?_process]
    cases c.asked? (.process batch) with
    | none => rfl
    | some answer => cases answer <;> rfl
  | install | apply | reset | clear => rfl

/-- A batch is processed unless the answer that it asks for is an error. -/
theorem length_outcome?_process (c : Coordinator) (batch : Batch) :
    (c.outcome? (.process batch)).toList.length +
      (c.asked? (.process batch)).toList.countP (!·.isOk) = 1 := by
  show (c.process batch).2.1.toOption.toList.length + _ = 1
  have hp := c.processes batch
  generalize c.process batch = r at hp
  cases hp with
  | tracked hb happ =>
    rw [asked?_of_book?_eq_some hb]
    rfl
  | failed hb ha =>
    rw [asked?_of_book?_eq_none hb, ha]
    rfl
  | fetched hb ha happ =>
    rw [asked?_of_book?_eq_none hb, ha]
    rfl

theorem length_installed (c : Coordinator) (calls : List Call) :
    (c.installed calls).length + c.fetcher.answers.countP Except.isOk =
      (c.after calls).fetcher.answers.countP Except.isOk + calls.countP Call.isInstall := by
  induction calls generalizing c with
  | nil => exact Nat.zero_add _
  | cons call rest ih =>
    have hrest := ih (c.perform call).1
    have hfirst := c.length_installedBy? call
    have hcount : (call :: rest).countP Call.isInstall =
        rest.countP Call.isInstall + call.isInstall.toNat := by
      rw [List.countP_cons]
      cases call.isInstall <;> rfl
    rw [c.answers_perform, List.countP_append] at hrest
    rw [installed, List.length_append, hcount]
    show _ = ((c.perform call).1.after rest).fetcher.answers.countP Except.isOk + _
    omega

theorem processed_cons (c : Coordinator) (call : Call) (rest : List Call) :
    c.processed (call :: rest) =
      (if call.isProcess then (c.outcome? call).toList else []) ++
        (c.perform call).1.processed rest := by
  rw [processed, outcomes, List.filter_append, List.map_append, processed]
  congr 1
  cases c.outcome? call with
  | none => simp
  | some o => cases h : call.isProcess <;> simp [h]

theorem length_processed (c : Coordinator) (calls : List Call) :
    (c.processed calls).length + (c.after calls).fetcher.answers.countP (!·.isOk) =
      calls.countP Call.isProcess + c.fetcher.answers.countP (!·.isOk) := by
  induction calls generalizing c with
  | nil => rfl
  | cons call rest ih =>
    have hrest := ih (c.perform call).1
    rw [c.answers_perform, List.countP_append] at hrest
    rw [processed_cons, List.length_append, List.countP_cons]
    show _ + ((c.perform call).1.after rest).fetcher.answers.countP _ = _
    cases call with
    | process batch =>
      have hfirst := c.length_outcome?_process batch
      simp only [Call.isProcess, if_true] at hrest ⊢
      omega
    | install | apply | reset | clear =>
      simp only [Call.isProcess, asked?, Option.toList_none, List.countP_nil] at hrest ⊢
      simpa using hrest

/-- A batch that has been processed has found a book, if only that of its fetch. -/
theorem process_ne_untracked (hs : c.fetcher.source.AnswersAsAsked) (batch : Batch) :
    (c.process batch).2.1.toOption ≠ some .untracked := by
  have hfound : ∀ {d : Coordinator} {r : Coordinator × Outcome × Effects}, d.Applies batch r →
      (d.book? batch.symbol).isSome = true → r.2.1 ≠ .untracked := by
    intro d r happ hbook
    cases happ with
    | untracked hb => exact absurd hbook (by simp [hb])
    | discarded => exact fun h => nomatch h
    | gapped => exact fun h => nomatch h
    | committed bridge => cases bridge <;> exact fun h => nomatch h
  have hp := c.processes batch
  generalize c.process batch = r at hp
  cases hp with
  | tracked hb happ => exact fun h => hfound happ (by simp [hb]) (Option.some_inj.mp h)
  | failed => exact fun h => nomatch h
  | fetched hb ha happ =>
    -- the book that has been fetched is the one that the batch asks for
    refine fun h => hfound happ ?_ (Option.some_inj.mp h)
    rw [book?_install, if_pos (hs _ _ _ ha)]
    rfl

theorem untracked_not_mem_processed (hs : c.fetcher.source.AnswersAsAsked) (calls : List Call) :
    .untracked ∉ c.processed calls := by
  induction calls generalizing c with
  | nil => exact List.not_mem_nil
  | cons call rest ih =>
    have hsource : (c.perform call).1.fetcher.source.AnswersAsAsked := by
      rw [source_perform]
      exact hs
    rw [processed_cons, List.mem_append]
    rintro (hfirst | hrest)
    · cases call with
      | process batch => exact process_ne_untracked hs batch (Option.mem_toList.mp hfirst)
      | install | apply | reset | clear => exact List.not_mem_nil hfirst
    · exact ih hsource hrest

/-! ### No count outgrows the calls -/

/-- A call adds one to each count at most. -/
theorem stats_perform_le (c : Coordinator) (call : Call) :
    (c.perform call).1.stats.batchesApplied ≤ c.stats.batchesApplied + 1 ∧
      (c.perform call).1.stats.staleDiscarded ≤ c.stats.staleDiscarded + 1 ∧
      (c.perform call).1.stats.resets ≤ c.stats.resets + 1 ∧
      (c.perform call).1.stats.snapshotsLoaded ≤ c.stats.snapshotsLoaded + 1 := by
  have hcounts := c.counts_perform call
  have hone : ∀ kind : Outcome → Bool, (c.outcome? call).toList.countP kind ≤ 1 := by
    intro kind
    refine List.countP_le_length.trans ?_
    cases c.outcome? call <;> simp
  -- a call that resets without a batch has no outcome
  have hreset : (c.outcome? call).toList.countP Outcome.isReset + call.isReset.toNat ≤ 1 := by
    cases call with
    | reset symbol => exact le_rfl
    | process | install | apply | clear => exact hone Outcome.isReset
  have hloaded : (c.installedBy? call).toList.length ≤ 1 := by
    cases c.installedBy? call <;> simp
  have htaken := hone Outcome.isTaken
  have hstale := hone Outcome.isDiscarded
  rw [hcounts.batchesApplied, hcounts.staleDiscarded, hcounts.resets, hcounts.snapshotsLoaded]
  omega

theorem stats_after_le (c : Coordinator) (calls : List Call) :
    (c.after calls).stats.batchesApplied ≤ c.stats.batchesApplied + calls.length ∧
      (c.after calls).stats.staleDiscarded ≤ c.stats.staleDiscarded + calls.length ∧
      (c.after calls).stats.resets ≤ c.stats.resets + calls.length ∧
      (c.after calls).stats.snapshotsLoaded ≤ c.stats.snapshotsLoaded + calls.length := by
  induction calls generalizing c with
  | nil => exact ⟨le_rfl, le_rfl, le_rfl, le_rfl⟩
  | cons call rest ih =>
    obtain ⟨htaken, hstale, hresets, hloaded⟩ := c.stats_perform_le call
    obtain ⟨htaken', hstale', hresets', hloaded'⟩ := ih (c.perform call).1
    rw [List.length_cons, show c.after (call :: rest) = (c.perform call).1.after rest from rfl]
    omega

/-! ### The whole run -/

/-- **The counts of a run.** What has been applied, dropped, reset and loaded is what
the outcomes, the direct calls and the answers of the source say, and what has been
told. Each batch that was handed over to be processed has one of these outcomes, or
the source has failed to answer it. No count is greater than the number of calls. -/
theorem stats_balance (source : Source) (scope : ResetScope) (hs : source.AnswersAsAsked)
    (calls : List Call) :
    let start := new source scope
    let stats := (start.after calls).stats
    let outcomes := (start.outcomes calls).map (·.2)
    let answers := (start.after calls).fetcher.answers
    let told := start.events calls
    (stats.batchesApplied = outcomes.countP Outcome.isTaken ∧
        stats.batchesApplied = told.countP Event.isUpdate) ∧
      stats.staleDiscarded = outcomes.countP Outcome.isDiscarded ∧
      (stats.resets = outcomes.countP Outcome.isReset + calls.countP Call.isReset ∧
        stats.resets = told.countP Event.isReset) ∧
      (stats.snapshotsLoaded = answers.countP Except.isOk + calls.countP Call.isInstall ∧
        stats.snapshotsLoaded = told.countP Event.isSnapshot) ∧
      (calls.countP Call.isProcess =
          (start.processed calls).countP Outcome.isTaken +
            (start.processed calls).countP Outcome.isDiscarded +
            (start.processed calls).countP Outcome.isReset + answers.countP (!·.isOk) ∧
        .untracked ∉ start.processed calls) ∧
      stats.batchesApplied ≤ calls.length ∧ stats.staleDiscarded ≤ calls.length ∧
        stats.resets ≤ calls.length ∧ stats.snapshotsLoaded ≤ calls.length := by
  intro start stats outcomes answers told
  have hcounts : Counts start (start.after calls) outcomes (calls.countP Call.isReset)
      (start.installed calls).length told := start.counts_after calls
  -- a new coordinator has counted nothing and fetched nothing
  have hstart : start.stats = ⟨0, 0, 0, 0⟩ := rfl
  have hunasked : start.fetcher.answers = [] := rfl
  have hloaded := start.length_installed calls
  have hprocessed := start.length_processed calls
  have htracked : .untracked ∉ start.processed calls := untracked_not_mem_processed hs calls
  have hsplit := Outcome.length_eq_of_untracked_not_mem htracked
  have hbounds := start.stats_after_le calls
  have htaken := hcounts.batchesApplied
  have hstale := hcounts.staleDiscarded
  have hresets := hcounts.resets
  have hsnapshots := hcounts.snapshotsLoaded
  rw [hstart] at hbounds htaken hstale hresets hsnapshots
  rw [hunasked, List.countP_nil] at hloaded hprocessed
  simp only [Nat.zero_add, Nat.add_zero] at hbounds htaken hstale hresets hsnapshots hloaded hprocessed
  refine ⟨⟨htaken, htaken.trans hcounts.updatesTold.symm⟩, hstale,
    ⟨hresets, hresets.trans hcounts.resetsTold.symm⟩,
    ⟨hsnapshots.trans hloaded, hsnapshots.trans hcounts.snapshotsTold.symm⟩, ⟨?_, htracked⟩,
    hbounds⟩
  rw [← hsplit, hprocessed]

/-- A failed fetch, a bridge, an applied batch, a gap, a stale batch, and calls without
a batch that is processed. -/
def countedCalls : List Call :=
  [.process (gapBatch 5 9), .process (gapBatch 9 11), .process (gapBatch 12 12),
    .apply (gapBatch 14 15), .process (gapBatch 3 4), .reset "X", .apply (gapBatch 1 1),
    .install (.empty "Y" 3), .clear]

theorem stats_balance_counted :
    gapSource.AnswersAsAsked ∧
      ((new gapSource .global).after countedCalls).stats = ⟨2, 1, 2, 3⟩ ∧
      countedCalls.countP Call.isProcess = 4 ∧
      ((new gapSource .global).processed countedCalls).countP Outcome.isTaken = 2 ∧
      ((new gapSource .global).after countedCalls).fetcher.answers.countP (!·.isOk) = 1 ∧
      ((new gapSource .global).events countedCalls).countP Event.isUpdate = 2 ∧
      .untracked ∉ (new gapSource .global).processed countedCalls := by
  have hs : gapSource.AnswersAsAsked := fun symbol k book h => (gapSource_answers symbol k book h).1
  have hstats : ((new gapSource .global).after countedCalls).stats = ⟨2, 1, 2, 3⟩ := rfl
  obtain ⟨⟨-, hupdates⟩, -, -, -, ⟨-, htracked⟩, -⟩ :=
    stats_balance gapSource .global hs countedCalls
  rw [hstats] at hupdates
  exact ⟨hs, hstats, rfl, rfl, rfl, hupdates.symm, htracked⟩

end Coordinator

end BookSync
