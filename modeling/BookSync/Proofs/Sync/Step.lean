/-
What one call of the coordinator does.

Each call is told once, with everything it can do:

* `applies`: a batch finds no book, is dropped, is answered with a reset, or
  is committed, each under its condition;
* `processes`: a batch finds its book, or its fetch fails, or its fetch gives
  a book that is installed first. So whatever the small steps keep is kept by
  the whole (`Processes.keeps`).

The equations `book?_*` say what the single changes do to the books, and the
facts `of_book?_*` where a book comes from that is held afterwards; no proof about
runs opens a definition of the coordinator again.
-/
import BookSync.Proofs.Book.Changes
import BookSync.Proofs.Book.Verdict
import BookSync.Proofs.Table
import BookSync.Sync.Coordinator

namespace BookSync

namespace Book

/-- A book after a batch, at the end of its range. -/
def after (b : Book) (batch : Batch) : Book := (b.apply batch).1.advance batch.lastSeq

/-- The update that a batch makes of a book. -/
def updateBy (b : Book) (batch : Batch) : Update :=
  ⟨b.after batch, (b.apply batch).2, batch.timestamp, batch.lastSeq, batch.raw⟩

@[simp] theorem cursor_after (b : Book) (batch : Batch) :
    (b.after batch).cursor = batch.lastSeq := rfl

@[simp] theorem state_after (b : Book) (batch : Batch) : (b.after batch).state = .synced := rfl

theorem side_after (b : Book) (batch : Batch) (side : Side) :
    (b.after batch).side side = (b.side side).replay (batch.changes side) :=
  b.side_apply batch side

/-- A batch that a book takes starts at or before the change after the cursor,
and if it is in order it does not lead backwards. -/
theorem range_of_check {b : Book} {batch : Batch} {bridge : Bool}
    (h : b.check batch.firstSeq batch.lastSeq = if bridge then .bridge else .apply)
    (hle : batch.firstSeq.toNat ≤ batch.lastSeq.toNat) :
    batch.firstSeq.toNat ≤ b.cursor.toNat + 1 ∧ b.cursor.toNat ≤ batch.lastSeq.toNat := by
  cases bridge with
  | true =>
    obtain ⟨-, hlt, hfirst⟩ := Verdict.evaluate_eq_bridge_iff.mp h
    exact ⟨hfirst, hlt.le⟩
  | false =>
    obtain ⟨-, hfirst⟩ := Verdict.evaluate_eq_apply_iff.mp h
    have hnext := Verdict.toNat_next b.cursor
    have hcursor := b.cursor.toNat_lt
    rw [← hfirst, UInt64.size] at hnext
    exact ⟨by omega, by omega⟩

end Book

namespace Coordinator

variable (c : Coordinator)

/-! ### The books after a single change -/

@[simp] theorem book?_new (source : Source) (scope : ResetScope) (symbol : String) :
    (new source scope).book? symbol = none := rfl

@[simp] theorem book?_clear (symbol : String) : c.clear.book? symbol = none := rfl

theorem book?_install (book : Book) (symbol : String) :
    (c.install book).1.book? symbol =
      if book.symbol = symbol then some book else c.book? symbol :=
  c.books.get?_insert book.symbol symbol book

theorem book?_commit (book : Book) (batch : Batch) (bridge : Bool) (symbol : String) :
    (c.commit book batch bridge).1.book? symbol =
      if batch.symbol = symbol then some (book.after batch) else c.book? symbol :=
  c.books.get?_insert batch.symbol symbol (book.after batch)

theorem events_install (book : Book) : (c.install book).2.events = [.snapshot book] := rfl

theorem events_reset (symbol : String) :
    (c.reset symbol).2.2.events = [.reset (c.clearedBy symbol)] := rfl

theorem events_commit (book : Book) (batch : Batch) (bridge : Bool) :
    (c.commit book batch bridge).2.2.events = [.update (book.updateBy batch)] := rfl

/-- A gap is answered with a reset and nothing else but a notice. -/
theorem resetOnGap_eq (book : Book) (batch : Batch) (expected : SequenceId) :
    (c.resetOnGap book batch expected).1 = (c.reset batch.symbol).1 ∧
      (c.resetOnGap book batch expected).2.2.events = (c.reset batch.symbol).2.2.events :=
  ⟨rfl, rfl⟩

/-- A reset drops the books of the contracts that it clears and no others. -/
theorem book?_reset (gapped symbol : String) :
    (c.reset gapped).1.book? symbol =
      if symbol ∈ c.clearedBy gapped then none else c.book? symbol := by
  show (c.booksAfterReset gapped).get? symbol = if _ then _ else c.books.get? symbol
  rw [booksAfterReset, clearedBy]
  cases c.scope with
  | global =>
    dsimp only
    rw [Table.get?_empty]
    split
    · rfl
    · rename_i h
      rw [Table.mem_names_iff, Option.not_isSome_iff_eq_none] at h
      exact h.symm
  | perSymbol =>
    dsimp only
    rw [Table.get?_erase]
    by_cases hg : gapped = symbol
    · subst hg
      by_cases hc : c.books.contains gapped = true
      · simp [hc]
      · rw [Bool.not_eq_true] at hc
        simp [hc, (Table.contains_eq_false_iff _ _).mp hc]
    · have hs : symbol ∉ if c.books.contains gapped = true then [gapped] else [] := by
        split
        · simpa using Ne.symm hg
        · simp
      rw [if_neg hg, if_neg hs]

/-- A book that is held after an installation is the new one or was held before. -/
theorem of_book?_install {book b : Book} {symbol : String}
    (h : (c.install book).1.book? symbol = some b) :
    (book.symbol = symbol ∧ book = b) ∨ (book.symbol ≠ symbol ∧ c.book? symbol = some b) := by
  rw [book?_install] at h
  split at h
  · rename_i hsymbol
    exact Or.inl ⟨hsymbol, Option.some_inj.mp h⟩
  · rename_i hsymbol
    exact Or.inr ⟨hsymbol, h⟩

/-- A book that is held after a reset was held before. -/
theorem of_book?_reset {gapped symbol : String} {b : Book}
    (h : (c.reset gapped).1.book? symbol = some b) : c.book? symbol = some b := by
  rw [book?_reset] at h
  split at h
  · exact absurd h (by simp)
  · exact h

/-- What a gap drops is named in ascending order. -/
theorem ascending_clearedBy (symbol : String) : (c.clearedBy symbol).Pairwise (· < ·) := by
  rw [clearedBy]
  cases c.scope with
  | global => exact c.books.ascending
  | perSymbol =>
    dsimp only
    split
    · exact List.pairwise_singleton _ symbol
    · exact .nil

theorem nodup_clearedBy (symbol : String) : (c.clearedBy symbol).Nodup :=
  (c.ascending_clearedBy symbol).imp ne_of_lt

/-- Only a book that is held can be dropped. -/
theorem isSome_of_mem_clearedBy {gapped symbol : String} (h : symbol ∈ c.clearedBy gapped) :
    (c.book? symbol).isSome = true := by
  rw [clearedBy] at h
  cases hs : c.scope with
  | global =>
    rw [hs] at h
    exact (Table.mem_names_iff _ _).mp h
  | perSymbol =>
    rw [hs] at h
    dsimp only at h
    split at h
    · rename_i hc
      rw [List.mem_singleton.mp h]
      exact hc
    · exact absurd h (by simp)

/-- A contract that has a gap loses its own book at least. -/
theorem mem_clearedBy_self {symbol : String} (h : (c.book? symbol).isSome = true) :
    symbol ∈ c.clearedBy symbol := by
  rw [clearedBy]
  cases c.scope with
  | global => exact (Table.mem_names_iff _ _).mpr h
  | perSymbol =>
    dsimp only
    rw [if_pos (show c.books.contains symbol = true from h)]
    exact List.mem_singleton_self symbol

/-- Where a gap drops one book only, it is not that of another contract. -/
theorem not_mem_clearedBy (hscope : c.scope = .perSymbol) {gapped symbol : String}
    (h : gapped ≠ symbol) : symbol ∉ c.clearedBy gapped := by
  rw [clearedBy, hscope]
  dsimp only
  split
  · exact fun hs => h (List.mem_singleton.mp hs).symm
  · exact List.not_mem_nil

theorem book?_reset_self {symbol : String} (h : (c.book? symbol).isSome = true) :
    (c.reset symbol).1.book? symbol = none := by
  rw [book?_reset, if_pos (c.mem_clearedBy_self h)]

/-! ### Applying a batch -/

/-- All that applying a batch can do. -/
inductive Applies (batch : Batch) : Coordinator × Outcome × Effects → Prop
  /-- There is no book for the batch. -/
  | untracked (hb : c.book? batch.symbol = none) : Applies batch (c, .untracked, .none)
  /-- The snapshot already holds the batch. -/
  | discarded {book : Book} (hb : c.book? batch.symbol = some book)
      (hs : book.state = .awaitingBridge) (hle : batch.lastSeq.toNat ≤ book.cursor.toNat) :
      Applies batch (c.discard book batch)
  /-- The batch leaves a gap. -/
  | gapped {book : Book} {expected : SequenceId} (hb : c.book? batch.symbol = some book)
      (hv : book.check batch.firstSeq batch.lastSeq = .gap expected) :
      Applies batch (c.resetOnGap book batch expected)
  /-- The batch bridges to the stream or continues it. -/
  | committed {book : Book} (bridge : Bool) (hb : c.book? batch.symbol = some book)
      (hv : book.check batch.firstSeq batch.lastSeq = if bridge then .bridge else .apply) :
      Applies batch (c.commit book batch bridge)

theorem applies (batch : Batch) : c.Applies batch (c.apply batch) := by
  rw [apply]
  cases hb : c.book? batch.symbol with
  | none => exact .untracked hb
  | some book =>
    dsimp only
    cases hv : book.check batch.firstSeq batch.lastSeq with
    | discard =>
      obtain ⟨hs, hle⟩ := Verdict.evaluate_eq_discard_iff.mp hv
      exact .discarded hb hs hle
    | gap expected => exact .gapped hb hv
    | bridge => exact .committed true hb hv
    | apply => exact .committed false hb hv

variable {c}

/-- A book that is held after a batch was held before, or is the one that the
batch has been applied to. -/
theorem Applies.of_book? {batch : Batch} {r : Coordinator × Outcome × Effects}
    (happ : c.Applies batch r) {symbol : String} {b : Book} (h : r.1.book? symbol = some b) :
    c.book? symbol = some b ∨ (batch.symbol = symbol ∧ ∃ (book : Book) (bridge : Bool),
      c.book? symbol = some book ∧
      book.check batch.firstSeq batch.lastSeq = (if bridge then .bridge else .apply) ∧
      book.after batch = b) := by
  cases happ with
  | untracked => exact Or.inl h
  | discarded => exact Or.inl h
  | gapped => exact Or.inl (c.of_book?_reset h)
  | @committed book bridge hb hv =>
    rw [book?_commit] at h
    split at h
    · rename_i hsymbol
      rw [hsymbol] at hb
      exact Or.inr ⟨hsymbol, book, bridge, hb, hv, Option.some_inj.mp h⟩
    · exact Or.inl h

variable (c)

/-! ### Processing a batch -/

/-- The answer that a fetch for a symbol would get now. -/
def answer (symbol : String) : Except FetchError Book :=
  c.fetcher.source.answer symbol (c.fetcher.count symbol)

/-- The coordinator once it has fetched the book of a symbol. -/
def fetched (symbol : String) : Coordinator := (c.fetch symbol).1

theorem fetch_eq (symbol : String) : c.fetch symbol = (c.fetched symbol, c.answer symbol) := rfl

theorem needsSnapshot_iff (symbol : String) :
    c.needsSnapshot symbol = true ↔ c.book? symbol = none := by
  rw [needsSnapshot, Bool.not_eq_true', Table.contains_eq_false_iff, book?]

theorem not_needsSnapshot_of_book?_eq_some {symbol : String} {book : Book}
    (h : c.book? symbol = some book) : ¬ c.needsSnapshot symbol = true := by
  rw [c.needsSnapshot_iff, h]
  simp

/-- All that processing a batch can do. -/
inductive Processes (batch : Batch) : Coordinator × Except FetchError Outcome × Effects → Prop
  /-- The batch finds its book. -/
  | tracked {book : Book} {r : Coordinator × Outcome × Effects}
      (hb : c.book? batch.symbol = some book) (hr : c.Applies batch r) :
      Processes batch (r.1, .ok r.2.1, r.2.2)
  /-- The fetch fails. -/
  | failed {e : FetchError} (hb : c.book? batch.symbol = none)
      (ha : c.answer batch.symbol = .error e) :
      Processes batch (c.fetched batch.symbol, .error e, .none)
  /-- The fetch gives a book. -/
  | fetched {book : Book} {r : Coordinator × Outcome × Effects}
      (hb : c.book? batch.symbol = none) (ha : c.answer batch.symbol = .ok book)
      (hr : ((c.fetched batch.symbol).install book).1.Applies batch r) :
      Processes batch (r.1, .ok r.2.1, ((c.fetched batch.symbol).install book).2 ++ r.2.2)

theorem processes (batch : Batch) : c.Processes batch (c.process batch) := by
  rw [process]
  cases hb : c.book? batch.symbol with
  | none =>
    rw [if_pos ((c.needsSnapshot_iff _).mpr hb), fetch_eq]
    cases ha : c.answer batch.symbol with
    | error e => exact .failed hb ha
    | ok book => exact .fetched hb ha (applies _ batch)
  | some book =>
    rw [if_neg (c.not_needsSnapshot_of_book?_eq_some hb)]
    exact .tracked hb (c.applies batch)

variable {c}

/-- **Processing in small steps.** What is kept by a fetch, by the installation
of its answer and by an application is kept by processing. The property is one
of the state together with the events so far. -/
theorem Processes.keeps {P : Coordinator → List Event → Prop} {batch : Batch}
    {r : Coordinator × Except FetchError Outcome × Effects} (hp : c.Processes batch r)
    (events : List Event) (start : P c events) (fetch : P (c.fetched batch.symbol) events)
    (install : ∀ book, c.book? batch.symbol = none → c.answer batch.symbol = .ok book →
      P ((c.fetched batch.symbol).install book).1 (events ++ [.snapshot book]))
    (apply : ∀ c' events r, P c' events → c'.Applies batch r → P r.1 (events ++ r.2.2.events)) :
    P r.1 (events ++ r.2.2.events) := by
  cases hp with
  | tracked _ hr => exact apply c events _ start hr
  | failed =>
    show P _ (events ++ [])
    rwa [List.append_nil]
  | @fetched book r hb ha hr =>
    have happly := apply _ _ r (install book hb ha) hr
    rwa [List.append_assoc] at happly

end Coordinator

end BookSync
