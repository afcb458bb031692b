/-
Lists of changes and what is left of them.

A list of changes is applied from the left, so that the last entry for a price
decides its level. `Level.lastSize? xs p` is the size that this entry names.
Applying a batch, replaying a record and filling a side from a snapshot are one
and the same walk through the list, `Levels.replay`:

* `applyAll_fst` and `fill_eq` say so;
* `sizeAt?_replay`: after the walk the last entry for a price decides, and a
  price without an entry is as before;
* `replay_applyAll_snd`: the record of a batch, replayed on a copy of the side
  that it was applied to, gives the same side. What the record leaves out are
  removals that found nothing;
* `Batch.ofUpdate_eq_ok` and `Book.ofSnapshot_eq_ok`: what a message has passed
  that has become a batch or a book. A snapshot does not pass if one of its sizes is
  below zero, and the first such level is named (`Book.ofSnapshot_eq_error_iff`).
-/
import BookSync.Book.Delta
import BookSync.Book.Snapshot
import BookSync.Proofs.Book.Depth
import BookSync.Proofs.Results

namespace BookSync

/-- The size that the last entry for the price of value `p` names. -/
def Level.lastSize? (xs : List Level) (p : ℚ) : Option Decimal :=
  (xs.reverse.find? fun x => x.price.value = p).map (·.size)

namespace Level

@[simp] theorem lastSize?_nil (p : ℚ) : lastSize? [] p = none := rfl

theorem lastSize?_concat (xs : List Level) (x : Level) (p : ℚ) :
    lastSize? (xs ++ [x]) p = if x.price.value = p then some x.size else lastSize? xs p := by
  rw [lastSize?, List.reverse_append, List.reverse_singleton, List.singleton_append,
    List.find?_cons]
  by_cases h : x.price.value = p
  · simp [h]
  · simp [h, lastSize?]

theorem exists_of_lastSize? {xs : List Level} {p : ℚ} {s : Decimal}
    (h : lastSize? xs p = some s) : ∃ x ∈ xs, x.price.value = p ∧ x.size = s := by
  obtain ⟨x, hx, rfl⟩ := Option.map_eq_some_iff.mp h
  have hp := List.find?_some hx
  exact ⟨x, List.mem_reverse.mp (List.mem_of_find?_eq_some hx), of_decide_eq_true hp, rfl⟩

/-! ### Sizes below zero -/

theorem firstNegative?_eq_none_iff {xs : List Level} :
    firstNegative? xs = none ↔ ∀ x ∈ xs, 0 ≤ x.size.value := by
  simp only [firstNegative?, Option.map_eq_none_iff, List.find?_eq_none,
    Decimal.isNegative_iff_value, not_lt]

/-- The first level with a size below zero stands behind others without one. -/
theorem firstNegative?_eq_some_iff {xs : List Level} {e : DecodeError} :
    firstNegative? xs = some e ↔ ∃ before x after, xs = before ++ x :: after ∧
      (∀ y ∈ before, 0 ≤ y.size.value) ∧ x.size.value < 0 ∧
      .negativeSize x.size x.price = e := by
  rw [firstNegative?, Option.map_eq_some_iff]
  constructor
  · rintro ⟨x, hx, he⟩
    obtain ⟨hneg, before, after, hxs, hbefore⟩ := List.find?_eq_some_iff_append.mp hx
    refine ⟨before, x, after, hxs, fun y hy => ?_, Decimal.isNegative_iff_value.mp hneg, he⟩
    rw [← not_lt, ← Decimal.isNegative_iff_value]
    simpa using hbefore y hy
  · rintro ⟨before, x, after, hxs, hbefore, hneg, he⟩
    refine ⟨x, List.find?_eq_some_iff_append.mpr
      ⟨Decimal.isNegative_iff_value.mpr hneg, before, after, hxs, fun y hy => ?_⟩, he⟩
    have hy := hbefore y hy
    rw [← not_lt, ← Decimal.isNegative_iff_value] at hy
    simpa using hy

theorem firstNegative?_append (xs ys : List Level) :
    firstNegative? (xs ++ ys) = (firstNegative? xs).or (firstNegative? ys) := by
  rw [firstNegative?, List.find?_append, Option.map_or]
  rfl

end Level

namespace Levels

variable {side : Side}

/-! ### One walk for batches, records and snapshots -/

@[simp] theorem replay_nil (l : Levels side) : l.replay [] = l := rfl

theorem replay_cons (l : Levels side) (x : Level) (xs : List Level) :
    l.replay (x :: xs) = (l.insert x.price x.size).2.replay xs := rfl

theorem replay_append (l : Levels side) (xs ys : List Level) :
    l.replay (xs ++ ys) = (l.replay xs).replay ys := List.foldl_append

/-- Apart from its record, applying a change is an insertion. -/
theorem applyChange_fst (l : Levels side) (x : Level) :
    (l.applyChange x).1 = (l.insert x.price x.size).2 := by
  rw [applyChange, insert]
  split <;> rfl

theorem applyAll_fst (l : Levels side) (xs : List Level) : (l.applyAll xs).1 = l.replay xs := by
  induction xs generalizing l with
  | nil => rfl
  | cons x xs ih => rw [applyAll, replay_cons, ← applyChange_fst, ← ih]

theorem applyAll_cons_snd (l : Levels side) (x : Level) (xs : List Level) :
    (l.applyAll (x :: xs)).2 =
      (l.applyChange x).2 ++ ((l.insert x.price x.size).2.applyAll xs).2 := by
  rw [applyAll, ← applyChange_fst]

/-- The record of a change repeats it. -/
theorem replay_applyChange_snd (l : Levels side) (x : Level) :
    l.replay (l.applyChange x).2 = (l.insert x.price x.size).2 := by
  by_cases hs : x.size.isPositive = true
  · rw [applyChange, if_pos hs, replay_cons, replay_nil]
  · -- a removal is recorded as a size of zero, and only if it finds a level
    have hz : ¬ Decimal.zero.isPositive = true := by decide
    rw [applyChange, if_neg hs, insert, if_neg hs, remove]
    dsimp only
    cases hg : l.get? x.price with
    | none => exact (erase_eq_self hg).symm
    | some old => rw [Option.isSome_some, if_pos rfl, replay_cons, replay_nil, insert, if_neg hz,
        remove]

theorem replay_applyAll_snd (l : Levels side) (xs : List Level) :
    l.replay (l.applyAll xs).2 = l.replay xs := by
  induction xs generalizing l with
  | nil => rfl
  | cons x xs ih => rw [applyAll_cons_snd, replay_append, replay_applyChange_snd, ih, replay_cons]

/-- A side is filled unless a size is below zero. -/
theorem fill_eq (l : Levels side) (xs : List Level) :
    l.fill xs = (Level.firstNegative? xs).elim (.ok (l.replay xs)) .error := by
  induction xs generalizing l with
  | nil => rfl
  | cons x xs ih =>
    rw [fill, Level.firstNegative?, List.find?_cons]
    cases x.size.isNegative with
    | true => rfl
    | false => exact ih (l.insert x.price x.size).2

/-! ### The last entry decides -/

theorem sizeAt?_replay (l : Levels side) (xs : List Level) (p : ℚ) :
    (l.replay xs).sizeAt? p =
      match Level.lastSize? xs p with
      | some s => s.positive?
      | none => l.sizeAt? p := by
  -- from the right end, since the entry there is the one that decides
  induction xs using List.reverseRecOn with
  | nil => rfl
  | append_singleton xs x ih =>
    rw [replay_append, replay_cons, replay_nil, sizeAt?_insert, ih, Level.lastSize?_concat]
    split <;> rfl

theorem WellFormed.replay {l : Levels side} (h : l.WellFormed) (xs : List Level) :
    (l.replay xs).WellFormed := by
  induction xs generalizing l with
  | nil => exact h
  | cons x xs ih => exact ih (h.insert x.price x.size)

end Levels

/-! ### Books -/

/-- The changes of a batch to one side. -/
def Batch.changes (b : Batch) : Side → List Level
  | .bid => b.bids
  | .ask => b.asks

/-- The recorded changes of one side. -/
def Record.changes (r : Record) : Side → List Level
  | .bid => r.bids
  | .ask => r.asks

/-- An update becomes a batch with its lists, unless its range or a size spoils it. -/
theorem Batch.ofUpdate_eq (u : BookUpdate) :
    Batch.ofUpdate u =
      if u.lastSeq < u.firstSeq then .error (.invertedRange u.firstSeq u.lastSeq)
      else (Level.firstNegative? (u.bids ++ u.asks)).elim
        (.ok ⟨u.symbol, u.firstSeq, u.lastSeq, u.timestamp, u.bids, u.asks, none⟩) .error := by
  rw [ofUpdate, Level.firstNegative?_append]
  cases (Level.firstNegative? u.bids).or (Level.firstNegative? u.asks) <;> rfl

/-- The batch of an update that is accepted: its range does not end before it
starts, and no size is below zero. -/
theorem Batch.ofUpdate_eq_ok {u : BookUpdate} {b : Batch} (h : Batch.ofUpdate u = .ok b) :
    u.firstSeq ≤ u.lastSeq ∧ (∀ x ∈ u.bids ++ u.asks, 0 ≤ x.size.value) ∧
      b = ⟨u.symbol, u.firstSeq, u.lastSeq, u.timestamp, u.bids, u.asks, none⟩ := by
  rw [ofUpdate_eq] at h
  split at h
  · exact absurd h (by simp)
  · rename_i hrange
    cases hnone : Level.firstNegative? (u.bids ++ u.asks) with
    | some e =>
      rw [hnone] at h
      exact absurd h (by simp)
    | none =>
      rw [hnone] at h
      exact ⟨UInt64.not_lt.mp hrange, Level.firstNegative?_eq_none_iff.mp hnone,
        (Except.ok.inj h).symm⟩

/-- The levels of a snapshot on one side. -/
def BookSnapshot.levels (s : BookSnapshot) : Side → List Level
  | .bid => s.bids
  | .ask => s.asks

namespace Book

/-- One side of a book. -/
def side (b : Book) : (side : Side) → Levels side
  | .bid => b.bids
  | .ask => b.asks

/-- Both sides of a book are well formed. -/
def WellFormed (b : Book) : Prop := ∀ side, (b.side side).WellFormed

theorem side_apply (b : Book) (batch : Batch) (side : Side) :
    (b.apply batch).1.side side = (b.side side).replay (batch.changes side) := by
  cases side with
  | bid => exact Levels.applyAll_fst b.bids batch.bids
  | ask => exact Levels.applyAll_fst b.asks batch.asks

theorem changes_apply_snd (b : Book) (batch : Batch) (side : Side) :
    (b.apply batch).2.changes side = ((b.side side).applyAll (batch.changes side)).2 := by
  cases side <;> rfl

/-- The record of a batch, replayed on a copy of the book, gives the book after
the batch. -/
theorem replay_apply_snd (b : Book) (batch : Batch) :
    b.replay (b.apply batch).2 = (b.apply batch).1 := by
  show ({ b with bids := _, asks := _ } : Book) = { b with bids := _, asks := _ }
  congr 1
  · exact (Levels.replay_applyAll_snd b.bids batch.bids).trans
      (Levels.applyAll_fst b.bids batch.bids).symm
  · exact (Levels.replay_applyAll_snd b.asks batch.asks).trans
      (Levels.applyAll_fst b.asks batch.asks).symm

theorem WellFormed.apply {b : Book} (h : b.WellFormed) (batch : Batch) :
    (b.apply batch).1.WellFormed := by
  intro side
  rw [side_apply]
  exact (h side).replay (batch.changes side)

/-- The book of a snapshot has its levels, unless one of them spoils it. -/
theorem ofSnapshot_eq (symbol : String) (s : BookSnapshot) :
    ofSnapshot symbol s = (Level.firstNegative? (s.bids ++ s.asks)).elim
      (.ok ⟨symbol, Levels.empty.replay s.bids, Levels.empty.replay s.asks, s.id, .awaitingBridge⟩)
      .error := by
  rw [ofSnapshot, Levels.fill_eq, Levels.fill_eq, Level.firstNegative?_append]
  cases Level.firstNegative? s.bids with
  | some e => rfl
  | none => cases Level.firstNegative? s.asks <;> rfl

/-- What a book from a snapshot looks like. -/
theorem ofSnapshot_eq_ok {symbol : String} {s : BookSnapshot} {b : Book}
    (h : ofSnapshot symbol s = .ok b) :
    b.symbol = symbol ∧ b.cursor = s.id ∧ b.state = .awaitingBridge ∧
      (∀ side, ∀ x ∈ s.levels side, 0 ≤ x.size.value) ∧
      ∀ side, b.side side = Levels.empty.replay (s.levels side) := by
  rw [ofSnapshot_eq] at h
  cases hnone : Level.firstNegative? (s.bids ++ s.asks) with
  | some e =>
    rw [hnone] at h
    exact absurd h (by simp)
  | none =>
    rw [hnone] at h
    obtain rfl := Except.ok.inj h
    have hsizes := Level.firstNegative?_eq_none_iff.mp hnone
    refine ⟨rfl, rfl, rfl, fun side x hx => hsizes x ?_, fun side => ?_⟩
    · cases side with
      | bid => exact List.mem_append_left s.asks hx
      | ask => exact List.mem_append_right s.bids hx
    · cases side <;> rfl

theorem ofSnapshot_eq_error_iff {symbol : String} {s : BookSnapshot} {e : DecodeError} :
    ofSnapshot symbol s = .error e ↔ Level.firstNegative? (s.bids ++ s.asks) = some e := by
  rw [ofSnapshot_eq]
  cases Level.firstNegative? (s.bids ++ s.asks) <;> simp

open Decimal in
/-- A level below zero spoils a snapshot also behind good ones. -/
example : Book.ofSnapshot "X" ⟨1, none, none, [⟨ofCoeff 9 0, ofCoeff 1 0⟩],
    [⟨ofCoeff 10 0, ofCoeff 2 0⟩, ⟨ofCoeff 11 0, ofCoeff (-1) 0⟩]⟩ =
      .error (.negativeSize (ofCoeff (-1) 0) (ofCoeff 11 0)) := rfl

theorem WellFormed.ofSnapshot {symbol : String} {s : BookSnapshot} {b : Book}
    (h : Book.ofSnapshot symbol s = .ok b) : b.WellFormed := by
  obtain ⟨-, -, -, -, hside⟩ := ofSnapshot_eq_ok h
  intro side
  rw [hside]
  exact Levels.WellFormed.empty.replay (s.levels side)

end Book

end BookSync
