/-
Books are faithful images of the venue.

A venue changes its book in numbered steps. Its history is given for each
contract as what is on offer after step `n`, and nothing is asked of the stream
but that each batch tells the truth about the steps it covers: it names every
price that one of them has touched, last with the size on offer at its end.

`books_show_venue`: under any loss, repetition and reordering of such batches,
with fetches that fail or answer with the book of any step, each book that the
coordinator holds shows exactly the levels that the venue had at its cursor.

The step from one cursor to the next is `Shows.replay`. A batch may overlap
what the book already holds, since its sizes replace and do not add up; it must
not leave out a step, and this is what the verdict sees to.
-/
import BookSync.Proofs.Sync.Run
import Mathlib.Data.Finsupp.Single
import Mathlib.Data.NNRat.Defs

namespace BookSync

/-- What is on offer on one side: a positive size at finitely many prices. -/
abbrev Depth := ℚ →₀ ℚ≥0

/-- What a contract has on offer after each step of the venue. -/
abbrev History := ℕ → Side → Depth

namespace Levels

/-- The levels of a side are exactly those of `d`, strictly best first. -/
structure Shows {side : Side} (l : Levels side) (d : Depth) : Prop where
  ordered : l.toList.Pairwise fun x y => side.Better x.price y.price
  mem_iff : ∀ p s, (∃ x ∈ l.toList, x.price.value = p ∧ x.size.value = s) ↔
    0 < s ∧ (d p : ℚ) = s

end Levels

/-- A list of levels tells the truth about `d`: the last size it names for a
price is the one on offer there. -/
def Level.Truthful (xs : List Level) (d : Depth) : Prop :=
  ∀ p s, Level.lastSize? xs p = some s → s.value = d p

/-- A list of levels names a price. -/
def Level.Names (xs : List Level) (p : ℚ) : Prop := ∃ x ∈ xs, x.price.value = p

/-- A batch reports the steps of a history from its first to its last. -/
structure Batch.Reports (b : Batch) (history : History) : Prop where
  le : b.firstSeq ≤ b.lastSeq
  truthful : ∀ side, Level.Truthful (b.changes side) (history b.lastSeq.toNat side)
  complete : ∀ side p n, b.firstSeq.toNat ≤ n → n ≤ b.lastSeq.toNat →
    history n side p ≠ history (n - 1) side p → Level.Names (b.changes side) p

/-- A snapshot depicts a history at the step that it carries. -/
structure BookSnapshot.Depicts (s : BookSnapshot) (history : History) : Prop where
  truthful : ∀ side, Level.Truthful (s.levels side) (history s.id.toNat side)
  complete : ∀ side p, history s.id.toNat side p ≠ 0 → Level.Names (s.levels side) p

/-- A source answers with snapshots of the history of the contract, or fails. -/
def Source.Honest (source : Source) (venue : String → History) : Prop :=
  ∀ symbol k book, source.answer symbol k = .ok book →
    ∃ s : BookSnapshot, Book.ofSnapshot symbol s = .ok book ∧ s.Depicts (venue symbol)

/-- The size that a price without level counts for is zero. -/
def Decimal.amount (s : Option Decimal) : ℚ := s.elim 0 Decimal.value

theorem Level.truthful_nil (d : Depth) : Truthful [] d := fun p s h => absurd h (by simp)

theorem Level.truthful_singleton {x : Level} {d : Depth} (h : x.size.value = d x.price.value) :
    Truthful [x] d := by
  intro p s hs
  obtain ⟨y, hy, rfl, rfl⟩ := exists_of_lastSize? hs
  obtain rfl := List.mem_singleton.mp hy
  exact h

theorem Level.names_of_lastSize?_eq_none {xs : List Level} {p : ℚ}
    (h : lastSize? xs p = none) : ¬ Names xs p := by
  rintro ⟨x, hx, hp⟩
  rw [lastSize?, Option.map_eq_none_iff, List.find?_eq_none] at h
  exact h x (List.mem_reverse.mpr hx) (decide_eq_true hp)

theorem Decimal.amount_positive? {d : Decimal} {a : ℚ≥0} (h : d.value = a) :
    amount d.positive? = a := by
  rw [Decimal.positive?]
  split
  · exact h
  · rename_i hd
    rw [Decimal.isPositive_iff_value, not_lt] at hd
    exact le_antisymm a.2 (h ▸ hd)

namespace Levels

variable {side : Side} {l : Levels side} {d : Depth}

/-- A side shows `d` if it is well formed and has the right size at each price. -/
theorem WellFormed.shows_iff (hl : l.WellFormed) :
    l.Shows d ↔ ∀ p, Decimal.amount (l.sizeAt? p) = d p := by
  constructor
  · intro h p
    cases hs : l.sizeAt? p with
    | none =>
      by_contra hne
      have hpos : (0 : ℚ) < d p := lt_of_le_of_ne (d p).2 hne
      obtain ⟨x, hx, hp, -⟩ := (h.mem_iff p (d p)).mpr ⟨hpos, rfl⟩
      have hx' := hl.sizeAt?_eq_some_iff.mpr ⟨x, hx, hp, rfl⟩
      rw [hs] at hx'
      exact absurd hx' (by simp)
    | some s =>
      obtain ⟨x, hx, hp, rfl⟩ := hl.sizeAt?_eq_some_iff.mp hs
      exact ((h.mem_iff p x.size.value).mp ⟨x, hx, hp, rfl⟩).2.symm
  · intro h
    refine ⟨hl.ordered, fun p s => ?_⟩
    constructor
    · rintro ⟨x, hx, hp, rfl⟩
      have hs := hl.sizeAt?_eq_some_iff.mpr ⟨x, hx, hp, rfl⟩
      refine ⟨hl.positive x hx, ?_⟩
      rw [← h p, hs]
      rfl
    · rintro ⟨hs, hd⟩
      rw [← h p] at hd
      cases hp : l.sizeAt? p with
      | none =>
        rw [hp] at hd
        exact absurd hd hs.ne
      | some size =>
        rw [hp] at hd
        obtain ⟨x, hx, hxp, rfl⟩ := hl.sizeAt?_eq_some_iff.mp hp
        exact ⟨x, hx, hxp, hd⟩

/-- **The step of the mirror.** Changes that tell the truth about `d'`, and
name each price where it differs from `d`, lead from `d` to `d'`. -/
theorem Shows.replay {d' : Depth} {xs : List Level} (hl : l.WellFormed) (h : l.Shows d)
    (htrue : Level.Truthful xs d') (hall : ∀ p, d' p ≠ d p → Level.Names xs p) :
    (l.replay xs).Shows d' := by
  rw [(hl.replay xs).shows_iff]
  intro p
  rw [sizeAt?_replay]
  cases hs : Level.lastSize? xs p with
  | some s => exact Decimal.amount_positive? (htrue p s hs)
  | none =>
    have hp : d' p = d p := by
      by_contra hne
      exact Level.names_of_lastSize?_eq_none hs (hall p hne)
    rw [hp]
    exact hl.shows_iff.mp h p

theorem shows_empty : (empty : Levels side).Shows 0 :=
  WellFormed.empty.shows_iff.mpr fun _ => rfl

end Levels

/-! ### From one step to the next -/

/-- Between two steps only the named prices can differ. -/
theorem Batch.Reports.names_of_ne {b : Batch} {history : History} (h : b.Reports history)
    {cursor : ℕ} (hfirst : b.firstSeq.toNat ≤ cursor + 1) (hlast : cursor ≤ b.lastSeq.toNat)
    {side : Side} {p : ℚ} (hne : history b.lastSeq.toNat side p ≠ history cursor side p) :
    Level.Names (b.changes side) p := by
  by_contra hno
  -- without an entry for `p` none of the steps behind the cursor has touched it
  have hstep : ∀ n, cursor ≤ n → n ≤ b.lastSeq.toNat →
      history n side p = history cursor side p := by
    intro n hn
    induction n, hn using Nat.le_induction with
    | base => exact fun _ => rfl
    | succ n hn ih =>
      intro hle
      rw [← ih (by omega)]
      by_contra hne
      exact hno (h.complete side p (n + 1) (by omega) hle hne)
  exact hne (hstep _ hlast le_rfl)

/-- The books of a coordinator show the venue at their cursors. -/
def Coordinator.Mirrors (c : Coordinator) (venue : String → History) : Prop :=
  ∀ symbol book, c.book? symbol = some book → book.WellFormed ∧
    ∀ side, (book.side side).Shows (venue symbol book.cursor.toNat side)

theorem Book.shows_ofSnapshot {symbol : String} {s : BookSnapshot} {book : Book}
    {history : History} (hb : Book.ofSnapshot symbol s = .ok book) (hs : s.Depicts history)
    (side : Side) : (book.side side).Shows (history book.cursor.toNat side) := by
  obtain ⟨-, hcursor, -, -, hside⟩ := Book.ofSnapshot_eq_ok hb
  rw [hside, hcursor]
  exact Levels.Shows.replay .empty Levels.shows_empty (hs.truthful side) (hs.complete side)

theorem Book.shows_after {book : Book} {batch : Batch} {bridge : Bool} {history : History}
    (hv : book.check batch.firstSeq batch.lastSeq = if bridge then .bridge else .apply)
    (hw : book.WellFormed) (hr : batch.Reports history)
    (h : ∀ side, (book.side side).Shows (history book.cursor.toNat side)) (side : Side) :
    ((book.after batch).side side).Shows (history (book.after batch).cursor.toNat side) := by
  obtain ⟨hfirst, hlast⟩ := Book.range_of_check hv (UInt64.le_iff_toNat_le.mp hr.le)
  rw [Book.side_after, Book.cursor_after]
  exact (h side).replay (hw side) (hr.truthful side)
    fun p hne => hr.names_of_ne hfirst hlast hne

namespace Coordinator

variable {c : Coordinator} {venue : String → History}

theorem Mirrors.applies {batch : Batch} {r : Coordinator × Outcome × Effects}
    (h : c.Mirrors venue) (hr : batch.Reports (venue batch.symbol)) (happ : c.Applies batch r) :
    r.1.Mirrors venue := by
  intro symbol b hb
  rcases happ.of_book? hb with hb | ⟨rfl, book, bridge, hbook, hv, rfl⟩
  · exact h symbol b hb
  · obtain ⟨hw, hshows⟩ := h batch.symbol book hbook
    exact ⟨hw.apply batch, Book.shows_after hv hw hr hshows⟩

theorem Mirrors.install {book : Book} {s : BookSnapshot} {symbol : String}
    (h : c.Mirrors venue) (hb : Book.ofSnapshot symbol s = .ok book)
    (hs : s.Depicts (venue symbol)) : (c.install book).1.Mirrors venue := by
  intro symbol' b hheld
  rcases c.of_book?_install hheld with ⟨hsymbol, rfl⟩ | ⟨-, hheld⟩
  · obtain rfl := (Book.ofSnapshot_eq_ok hb).1.symm.trans hsymbol
    exact ⟨.ofSnapshot hb, Book.shows_ofSnapshot hb hs⟩
  · exact h symbol' b hheld

theorem Mirrors.processes {batch : Batch} {r : Coordinator × Except FetchError Outcome × Effects}
    (h : c.Mirrors venue) (hs : c.fetcher.source.Honest venue)
    (hr : batch.Reports (venue batch.symbol)) (hp : c.Processes batch r) : r.1.Mirrors venue := by
  have hfetched : (c.fetched batch.symbol).Mirrors venue := h
  refine hp.keeps (P := fun c _ => c.Mirrors venue) [] h hfetched ?_ ?_
  · intro book _ ha
    obtain ⟨s, hbook, hdepicts⟩ := hs _ _ _ ha
    exact hfetched.install hbook hdepicts
  · exact fun _ _ _ h happ => h.applies hr happ

/-- **Each book shows the venue at its cursor.** The run is any list of batches
that report the history of their contract, so that it may be stopped after any
of its steps. -/
theorem books_show_venue (venue : String → History) (source : Source) (scope : ResetScope)
    (hs : source.Honest venue) (batches : List Batch)
    (hr : ∀ batch ∈ batches, batch.Reports (venue batch.symbol)) (symbol : String) (book : Book)
    (hb : ((new source scope).after (batches.map .process)).book? symbol = some book)
    (side : Side) : (book.side side).Shows (venue symbol book.cursor.toNat side) := by
  have hrun := run_induction (c := new source scope)
    (P := fun c _ => c.fetcher.source = source ∧ c.Mirrors venue)
    ⟨rfl, fun symbol book h => absurd h (by simp)⟩ (batches.map .process) ?_
  · exact (hrun.2 symbol book hb).2 side
  · intro c trace call hcall h
    obtain ⟨batch, hbatch, rfl⟩ := List.mem_map.mp hcall
    obtain ⟨hsource, hmirrors⟩ := h
    refine ⟨(source_perform _).trans hsource, ?_⟩
    exact hmirrors.processes (hsource ▸ hs) (hr batch hbatch) (c.processes batch)

end Coordinator

/-! ### A batch that overlaps the snapshot -/

/-- A price of 100, where 3 come on offer in step 1 and 5 in step 2. -/
noncomputable def overlapHistory : History := fun n side =>
  match side with
  | .bid => Finsupp.single 100 (if n = 0 then 0 else if n = 1 then 3 else 5)
  | .ask => 0

/-- The snapshot of step 1. -/
def overlapSnapshot : BookSnapshot :=
  ⟨1, none, none, [⟨.ofInt 100 (by decide), .ofInt 3 (by decide)⟩], []⟩

/-- A source that fails once and then answers with the snapshot of step 1. -/
def overlapSource : Source where
  answer symbol k :=
    if k = 0 then .error .transport
    else (Book.ofSnapshot symbol overlapSnapshot).mapError .malformed
  pending _ _ := 0

/-- A batch that reports steps 1 and 2. -/
def overlapBatch : Batch :=
  ⟨"X", 1, 2, 0, [⟨.ofInt 100 (by decide), .ofInt 5 (by decide)⟩], [], none⟩

theorem eq_of_overlapHistory_ne {m n : ℕ} {side : Side} {p : ℚ}
    (h : overlapHistory m side p ≠ overlapHistory n side p) : side = .bid ∧ 100 = p := by
  cases side with
  | bid =>
    refine ⟨rfl, ?_⟩
    by_contra hp
    refine h ?_
    simp only [overlapHistory]
    rw [Finsupp.single_eq_of_ne (Ne.symm hp), Finsupp.single_eq_of_ne (Ne.symm hp)]
  | ask => exact absurd rfl h

theorem overlapSnapshot_depicts : overlapSnapshot.Depicts overlapHistory := by
  constructor
  · intro side
    cases side with
    | bid => exact Level.truthful_singleton (by simp [overlapHistory, overlapSnapshot])
    | ask => exact Level.truthful_nil _
  · intro side p hp
    have hzero : overlapHistory 0 side p = 0 := by
      cases side <;> simp [overlapHistory]
    have hne : overlapHistory 1 side p ≠ overlapHistory 0 side p := by
      rw [hzero]
      exact hp
    obtain ⟨rfl, rfl⟩ := eq_of_overlapHistory_ne hne
    exact ⟨_, List.mem_singleton_self _, by simp⟩

theorem overlapBatch_reports : overlapBatch.Reports overlapHistory := by
  refine ⟨by decide, fun side => ?_, fun side p n _ _ hne => ?_⟩
  · cases side with
    | bid => exact Level.truthful_singleton (by simp [overlapHistory, overlapBatch])
    | ask => exact Level.truthful_nil _
  · obtain ⟨rfl, rfl⟩ := eq_of_overlapHistory_ne hne
    exact ⟨_, List.mem_singleton_self _, by simp⟩

theorem overlapSource_honest : overlapSource.Honest fun _ => overlapHistory := by
  intro symbol k book h
  refine ⟨overlapSnapshot, ?_, overlapSnapshot_depicts⟩
  simp only [overlapSource] at h
  split at h
  · exact absurd h (by simp)
  · exact mapError_eq_ok h

open Coordinator in
/-- The first fetch fails and loses its batch; the same batch again finds the
snapshot of step 1, which it overlaps. -/
theorem books_show_venue_overlap :
    overlapSource.Honest (fun _ => overlapHistory) ∧
      (∀ batch ∈ [overlapBatch, overlapBatch], batch.Reports overlapHistory) ∧
      ∃ book, ((new overlapSource .global).after
          ([overlapBatch, overlapBatch].map .process)).book? "X" = some book ∧
        book.cursor = 2 ∧ ∀ side, (book.side side).Shows (overlapHistory 2 side) := by
  have hr : ∀ batch ∈ [overlapBatch, overlapBatch], batch.Reports overlapHistory := by
    intro batch hbatch
    obtain rfl | rfl := List.mem_pair.mp hbatch <;> exact overlapBatch_reports
  refine ⟨overlapSource_honest, hr, _, rfl, rfl, ?_⟩
  exact books_show_venue (fun _ => overlapHistory) overlapSource .global overlapSource_honest
    [overlapBatch, overlapBatch] hr "X" _ rfl

end BookSync
