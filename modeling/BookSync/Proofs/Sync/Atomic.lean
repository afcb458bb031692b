/-
A batch is processed whole or not at all.

A batch for a contract without a book asks for one first, once
(`Processes.fetcher_eq`), and that is the only way to an error. What the batch does
otherwise is the work of two calls, so:

* `Processes.eq_error_iff`: a batch is refused exactly with the error of its fetch;
* `Forgotten`: nothing is then left of the batch but the count of the fetch, and
  the next batch of its contract fetches again. Batches of other contracts may come
  in between (`book?_after_eq_none`);
* `process_eq_prepared`: in all other cases the book that has been fetched is
  installed, if one had to be, and the batch applied.

`processed_whole_or_not` puts this together, with all causes for which a loader
fails.
-/
import BookSync.Proofs.Fetch.Failure
import BookSync.Proofs.Sync.Installed
import BookSync.Proofs.Sync.Isolation

namespace BookSync.Coordinator

variable {c : Coordinator} {batch : Batch} {symbol : String}
  {r : Coordinator × Except FetchError Outcome × Effects}

theorem Processes.eq_error_iff (hp : c.Processes batch r) {e : FetchError} :
    r.2.1 = .error e ↔ c.book? batch.symbol = none ∧ c.answer batch.symbol = .error e := by
  cases hp with
  | tracked hb happ => simp [hb]
  | failed hb ha => simp [hb, ha]
  | fetched hb ha happ => simp [hb, ha]

/-! ### Batches of other contracts -/

/-- A batch of another contract brings no book for this one. -/
theorem Processes.book?_eq_none (hp : c.Processes batch r) (hb : c.book? symbol = none)
    (hs : c.fetcher.source.KeepsApart symbol) (hne : batch.symbol ≠ symbol) :
    r.1.book? symbol = none := by
  rw [Option.eq_none_iff_forall_ne_some]
  intro b hheld
  -- a book that is held now has been held before, or is that of the batch
  have hnew : ∀ {d : Coordinator} {s : Coordinator × Outcome × Effects}, d.Applies batch s →
      s.1.book? symbol = some b → d.book? symbol = some b := by
    intro d s happ hs
    rcases happ.of_book? hs with h | ⟨h, -⟩
    · exact h
    · exact absurd h hne
  cases hp with
  | tracked _ happ => exact absurd ((hnew happ hheld).symm.trans hb) (by simp)
  | failed => exact absurd (hheld.symm.trans hb) (by simp)
  | fetched _ ha happ =>
    rcases of_book?_install _ (hnew happ hheld) with ⟨hsymbol, -⟩ | ⟨-, h⟩
    · exact hne (hs _ _ _ ha hsymbol)
    · exact absurd (h.symm.trans hb) (by simp)

/-- Nor do many of them. -/
theorem book?_after_eq_none (hb : c.book? symbol = none)
    (hs : c.fetcher.source.KeepsApart symbol) {others : List Batch}
    (hne : ∀ b ∈ others, b.symbol ≠ symbol) :
    (c.after (others.map .process)).book? symbol = none := by
  induction others generalizing c with
  | nil => exact hb
  | cons b rest ih =>
    have hfirst := (c.processes b).book?_eq_none hb hs (hne b List.mem_cons_self)
    have hsource : (c.process b).1.fetcher.source.KeepsApart symbol := by
      rw [(c.processes b).source_eq]
      exact hs
    exact ih hfirst hsource fun b' hb' => hne b' (List.mem_cons_of_mem b hb')

/-! ### A fetch that fails -/

/-- A batch has left nothing behind, and its contract is as unknown as it was. -/
structure Forgotten (c : Coordinator) (symbol : String) (c' : Coordinator) (effects : Effects) :
    Prop where
  books : c'.books = c.books
  stats : c'.stats = c.stats
  scope : c'.scope = c.scope
  untold : effects = .none
  unseen : c'.needsSnapshot symbol = true
  again : ∀ next : Batch, next.symbol = symbol →
    (c'.process next).1.fetcher.fetched = c'.fetcher.fetched ++ [symbol]
  againLater : c.fetcher.source.KeepsApart symbol →
    ∀ others : List Batch, (∀ b ∈ others, b.symbol ≠ symbol) →
      ∀ next : Batch, next.symbol = symbol →
        ((c'.after (others.map .process)).process next).1.fetcher.fetched =
          (c'.after (others.map .process)).fetcher.fetched ++ [symbol]

theorem Processes.forgotten (hp : c.Processes batch r) {e : FetchError}
    (he : r.2.1 = .error e) : c.Forgotten batch.symbol r.1 r.2.2 := by
  cases hp with
  | tracked => exact absurd he (by simp)
  | fetched => exact absurd he (by simp)
  | failed hb ha =>
    -- what has been fetched counts, but it is no book
    have hunseen : (c.fetched batch.symbol).book? batch.symbol = none := hb
    exact
      { books := rfl
        stats := rfl
        scope := rfl
        untold := rfl
        unseen := ((c.fetched batch.symbol).needsSnapshot_iff batch.symbol).mpr hunseen
        again := fun next => fetched_process_of_book?_eq_none hunseen
        againLater := fun hs others hne next =>
          fetched_process_of_book?_eq_none (book?_after_eq_none hunseen hs hne) }

/-! ### A fetch that succeeds -/

/-- The coordinator with the book that a batch has fetched, if it had to fetch one,
and what is told of its installation. -/
def prepared (c : Coordinator) (batch : Batch) : Coordinator × Effects :=
  match c.installedBy? (.process batch) with
  | some book => c.install book
  | none => (c, .none)

/-- A batch that is not refused is processed in two steps. -/
theorem process_eq_prepared {outcome : Outcome} (ho : (c.process batch).2.1 = .ok outcome) :
    (c.process batch).1 =
        { ((c.prepared batch).1.apply batch).1 with fetcher := (c.process batch).1.fetcher } ∧
      outcome = ((c.prepared batch).1.apply batch).2.1 ∧
      (c.process batch).2.2 = (c.prepared batch).2 ++ ((c.prepared batch).1.apply batch).2.2 := by
  cases hneeds : c.needsSnapshot batch.symbol with
  | false =>
    -- there is a book already, and nothing to install
    have hprepared : c.prepared batch = (c, .none) := by
      rw [prepared, installedBy?, hneeds]
      rfl
    rw [process, hneeds] at ho ⊢
    rw [hprepared]
    exact ⟨rfl, (Except.ok.inj ho).symm, rfl⟩
  | true =>
    rw [process, hneeds, if_pos rfl, fetch_eq] at ho ⊢
    cases ha : c.answer batch.symbol with
    | error e =>
      rw [ha] at ho
      exact absurd ho (by simp)
    | ok book =>
      have hprepared : c.prepared batch = c.install book := by
        rw [prepared, installedBy?, hneeds, if_pos rfl, ha]
        rfl
      -- the fetch has changed nothing that the two steps look at
      have hinstall : ((c.fetched batch.symbol).install book).1 =
          { (c.install book).1 with fetcher := (c.fetched batch.symbol).fetcher } := rfl
      rw [ha] at ho
      rw [hprepared]
      dsimp only at ho ⊢
      rw [hinstall, apply_with_fetcher] at ho ⊢
      exact ⟨rfl, (Except.ok.inj ho).symm, rfl⟩

/-! ### Both together -/

/-- **Whole or not at all.** The source is asked once by a batch without a book and
not at all by any other. The batch is refused exactly with the error of this fetch,
and then forgotten; otherwise the book that was fetched is installed and the batch
applied. A loader has an error for each stage of a fetch. -/
theorem processed_whole_or_not (c : Coordinator) (batch : Batch) :
    (c.process batch).1.fetcher = ⟨c.fetcher.source,
        c.fetcher.fetched ++ if (c.book? batch.symbol).isNone then [batch.symbol] else []⟩ ∧
      (∀ e, (c.process batch).2.1 = .error e ↔
        c.book? batch.symbol = none ∧ c.answer batch.symbol = .error e) ∧
      (∀ e, (c.process batch).2.1 = .error e →
        c.Forgotten batch.symbol (c.process batch).1 (c.process batch).2.2) ∧
      (∀ outcome, (c.process batch).2.1 = .ok outcome →
        (c.process batch).1 =
            { ((c.prepared batch).1.apply batch).1 with fetcher := (c.process batch).1.fetcher } ∧
          outcome = ((c.prepared batch).1.apply batch).2.1 ∧
          (c.process batch).2.2 =
            (c.prepared batch).2 ++ ((c.prepared batch).1.apply batch).2.2) ∧
      ∀ (l : Loader) replies pending, c.fetcher.source = l.source replies pending →
        ∀ e, (c.process batch).2.1 = .error e ↔ c.book? batch.symbol = none ∧
          l.Fails (replies batch.symbol (c.fetcher.count batch.symbol)) batch.symbol e := by
  have hp := c.processes batch
  refine ⟨hp.fetcher_eq, fun e => hp.eq_error_iff, fun e => hp.forgotten,
    fun outcome => process_eq_prepared, fun l replies pending hsource e => ?_⟩
  rw [hp.eq_error_iff, ← Loader.book_eq_error_iff, answer, hsource]
  rfl

end BookSync.Coordinator
