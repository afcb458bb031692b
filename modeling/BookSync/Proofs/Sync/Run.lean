/-
Runs of the coordinator.

A run is a list of calls. `Coordinator.after` is the state it leads to and
`Coordinator.trace` pairs each call with the events that it told.

* `run_induction`: what holds at the start and is kept by each call, as a
  property of state and trace together, holds after every run;
* `Keyed.perform`: each book stays under its own contract;
* `source_perform`: no call exchanges the source of the snapshots;
* `Processes.fetcher_eq`: how often a batch asks it;
* `apply_with_fetcher`: only a batch that fetches looks at the source.
-/
import BookSync.Proofs.Sync.Step

namespace BookSync

/-- A call of the coordinator. -/
inductive Call
  | process (batch : Batch)
  | install (book : Book)
  | apply (batch : Batch)
  | reset (symbol : String)
  | clear

namespace Coordinator

/-- Do a call. -/
def perform (c : Coordinator) : Call → Coordinator × Effects
  | .process batch => let (c, _, effects) := c.process batch; (c, effects)
  | .install book => c.install book
  | .apply batch => let (c, _, effects) := c.apply batch; (c, effects)
  | .reset symbol => let (c, _, effects) := c.reset symbol; (c, effects)
  | .clear => (c.clear, .none)

/-- The coordinator after calls. -/
def after (c : Coordinator) (calls : List Call) : Coordinator :=
  calls.foldl (fun c call => (c.perform call).1) c

/-- The calls of a run, each with the events that it tells. -/
def trace (c : Coordinator) : List Call → List (Call × List Event)
  | [] => []
  | call :: calls => (call, (c.perform call).2.events) :: (c.perform call).1.trace calls

/-- The events of a run. -/
def events (c : Coordinator) (calls : List Call) : List Event := (c.trace calls).flatMap (·.2)

/-- Batches processed in order, each with what comes of it. -/
def results (c : Coordinator) : List Batch → List (Batch × Except FetchError Outcome)
  | [] => []
  | batch :: rest => (batch, (c.process batch).2.1) :: (c.process batch).1.results rest

variable (c : Coordinator)

theorem after_concat (calls : List Call) (call : Call) :
    c.after (calls ++ [call]) = ((c.after calls).perform call).1 := by
  rw [after, List.foldl_append]
  rfl

theorem trace_concat (calls : List Call) (call : Call) :
    c.trace (calls ++ [call]) =
      c.trace calls ++ [(call, ((c.after calls).perform call).2.events)] := by
  induction calls generalizing c with
  | nil => rfl
  | cons first rest ih => exact congrArg (_ :: ·) (ih (c.perform first).1)

/-- **Induction over a run.** What holds at the start and is kept by each call
holds after every run. -/
theorem run_induction {P : Coordinator → List (Call × List Event) → Prop} {c : Coordinator}
    (start : P c []) (calls : List Call)
    (step : ∀ c trace, ∀ call ∈ calls, P c trace →
      P (c.perform call).1 (trace ++ [(call, (c.perform call).2.events)])) :
    P (c.after calls) (c.trace calls) := by
  -- from the right end: the last call is made in the state that the others lead to
  induction calls using List.reverseRecOn with
  | nil => exact start
  | append_singleton calls call ih =>
    rw [after_concat, trace_concat]
    refine step _ _ call (List.mem_append_right calls List.mem_cons_self) (ih ?_)
    intro c trace call' hc
    exact step c trace call' (List.mem_append_left [call] hc)

/-! ### Where the books stand -/

/-- Each book stands under its own contract. -/
def Keyed (c : Coordinator) : Prop :=
  ∀ symbol book, c.book? symbol = some book → book.symbol = symbol

theorem keyed_new (source : Source) (scope : ResetScope) : (new source scope).Keyed :=
  fun _ _ h => absurd h (by simp)

theorem keyed_clear : c.clear.Keyed := fun _ _ h => absurd h (by simp)

variable {c}

theorem Keyed.install (h : c.Keyed) (book : Book) : (c.install book).1.Keyed := by
  intro symbol b hb
  rcases c.of_book?_install hb with ⟨hsymbol, rfl⟩ | ⟨-, hb⟩
  · exact hsymbol
  · exact h symbol b hb

theorem Keyed.reset (h : c.Keyed) (gapped : String) : (c.reset gapped).1.Keyed :=
  fun symbol b hb => h symbol b (c.of_book?_reset hb)

theorem Keyed.applies (h : c.Keyed) {batch : Batch} {r : Coordinator × Outcome × Effects}
    (happ : c.Applies batch r) : r.1.Keyed := by
  intro symbol b hb
  rcases happ.of_book? hb with hb | ⟨-, book, -, hbook, -, rfl⟩
  · exact h symbol b hb
  · exact h symbol book hbook

theorem Keyed.processes (h : c.Keyed) {batch : Batch}
    {r : Coordinator × Except FetchError Outcome × Effects} (hp : c.Processes batch r) :
    r.1.Keyed := by
  have hfetched : (c.fetched batch.symbol).Keyed := h
  refine hp.keeps (P := fun c _ => c.Keyed) [] h hfetched ?_ ?_
  · exact fun book _ _ => hfetched.install book
  · exact fun _ _ _ h happ => h.applies happ

theorem Keyed.perform (h : c.Keyed) (call : Call) : (c.perform call).1.Keyed := by
  cases call with
  | process batch => exact h.processes (c.processes batch)
  | install book => exact h.install book
  | apply batch => exact h.applies (c.applies batch)
  | reset symbol => exact h.reset symbol
  | clear => exact c.keyed_clear

/-! ### What no call touches -/

theorem Applies.fetcher_eq {batch : Batch} {r : Coordinator × Outcome × Effects}
    (h : c.Applies batch r) : r.1.fetcher = c.fetcher := by
  cases h <;> rfl

theorem Applies.scope_eq {batch : Batch} {r : Coordinator × Outcome × Effects}
    (h : c.Applies batch r) : r.1.scope = c.scope := by
  cases h <;> rfl

/-- Applying a batch takes no notice of what has been fetched. -/
theorem apply_with_fetcher (c : Coordinator) (f : Fetcher) (batch : Batch) :
    ({ c with fetcher := f } : Coordinator).apply batch =
      ({ (c.apply batch).1 with fetcher := f }, (c.apply batch).2) := by
  have hbook : ({ c with fetcher := f } : Coordinator).book? batch.symbol =
      c.book? batch.symbol := rfl
  rw [apply, apply, hbook]
  cases c.book? batch.symbol with
  | none => rfl
  | some book =>
    dsimp only
    split <;> rfl

variable (c) in
theorem scope_process (batch : Batch) : (c.process batch).1.scope = c.scope := by
  refine (c.processes batch).keeps (P := fun c' _ => c'.scope = c.scope) [] rfl rfl
    (fun _ _ _ => rfl) ?_
  intro c' _ r hc' happ
  rw [happ.scope_eq]
  exact hc'

/-- The source is asked once if there is no book for the batch, and not at all if
there is one. -/
theorem Processes.fetcher_eq {batch : Batch}
    {r : Coordinator × Except FetchError Outcome × Effects} (h : c.Processes batch r) :
    r.1.fetcher = ⟨c.fetcher.source,
      c.fetcher.fetched ++ if (c.book? batch.symbol).isNone then [batch.symbol] else []⟩ := by
  cases h with
  | tracked hb happ =>
    rw [happ.fetcher_eq, hb]
    show c.fetcher = ⟨_, c.fetcher.fetched ++ []⟩
    rw [List.append_nil]
  | failed hb _ =>
    rw [hb]
    rfl
  | fetched hb _ happ =>
    rw [happ.fetcher_eq, hb]
    rfl

theorem Processes.source_eq {batch : Batch}
    {r : Coordinator × Except FetchError Outcome × Effects} (h : c.Processes batch r) :
    r.1.fetcher.source = c.fetcher.source := by
  rw [h.fetcher_eq]

/-- A batch of a contract without a book fetches. -/
theorem fetched_process_of_book?_eq_none {batch : Batch} {symbol : String}
    (hb : c.book? symbol = none) (hsymbol : batch.symbol = symbol) :
    (c.process batch).1.fetcher.fetched = c.fetcher.fetched ++ [symbol] := by
  rw [(c.processes batch).fetcher_eq, hsymbol, hb]
  rfl

theorem source_perform (call : Call) : (c.perform call).1.fetcher.source = c.fetcher.source := by
  cases call with
  | process batch => exact (c.processes batch).source_eq
  | install book => rfl
  | apply batch => exact congrArg Fetcher.source (c.applies batch).fetcher_eq
  | reset symbol => rfl
  | clear => rfl

end Coordinator

end BookSync
