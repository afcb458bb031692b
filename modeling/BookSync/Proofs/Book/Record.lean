/-
What the record of a batch holds.

A change has no effect only if it takes away a level that is not there
(`Levels.misses`). Whether it does so depends on all changes in front of it, so the
entries of a list are looked at together with those (`Level.preceded`):

* `applyChange_snd`: a change is recorded unless it misses, a removal with size
  zero (`Level.recorded`);
* `applyAll_snd`: so the record of a list is the list itself, in order, without
  the entries that miss where they stand;
* `applyAll_snd_eq_nil_iff`: it is empty if all entries miss from the start. An
  entry that misses changes nothing for those behind it (`insert_of_misses`).

`record_lists_effects` says this of both sides of a book, together with what a
record is for: replayed on a copy of the book it gives the book after the batch.
-/
import BookSync.Proofs.Book.Changes
import Mathlib.Data.List.Infix

namespace BookSync

namespace Level

/-- A change as it is recorded: a removal has size zero. -/
def recorded (x : Level) : Level := if x.size.isPositive then x else ⟨x.price, .zero⟩

/-- The entries of a list, each with those in front of it. -/
def preceded (xs : List Level) : List (List Level × Level) := xs.inits.zip xs

theorem preceded_cons (x : Level) (xs : List Level) :
    preceded (x :: xs) = ([], x) :: (preceded xs).map fun e => (x :: e.1, e.2) := by
  rw [preceded, List.inits_cons, List.zip_cons_cons, preceded, List.zip_map_left]
  rfl

end Level

namespace Levels

variable {side : Side}

/-- The change takes away a level that is not there. -/
def misses (l : Levels side) (x : Level) : Bool := !x.size.isPositive && !l.contains x.price

theorem misses_iff {l : Levels side} {x : Level} :
    l.misses x = true ↔ ¬ x.size.isPositive = true ∧ l.get? x.price = none := by
  simp [misses, contains]

/-- A change that misses leaves the side as it is. -/
theorem insert_of_misses {l : Levels side} {x : Level} (h : l.misses x = true) :
    (l.insert x.price x.size).2 = l := by
  obtain ⟨hsize, hnone⟩ := misses_iff.mp h
  rw [insert, if_neg hsize]
  exact erase_eq_self hnone

theorem applyChange_snd (l : Levels side) (x : Level) :
    (l.applyChange x).2 = if l.misses x then [] else [x.recorded] := by
  by_cases hsize : x.size.isPositive = true
  · rw [applyChange, Level.recorded, if_pos hsize, if_pos hsize, misses, hsize]
    rfl
  · rw [applyChange, Level.recorded, if_neg hsize, if_neg hsize, misses, contains]
    show (if (l.get? x.price).isSome = true then _ else _) = _
    rw [Bool.not_eq_true] at hsize
    rw [hsize]
    cases l.get? x.price <;> rfl

/-- **The record of a list.** It holds the entries that do not miss where they
stand, in order. -/
theorem applyAll_snd (l : Levels side) (xs : List Level) :
    (l.applyAll xs).2 = ((Level.preceded xs).filter fun e =>
      !(l.applyAll e.1).1.misses e.2).map fun e => e.2.recorded := by
  induction xs generalizing l with
  | nil => rfl
  | cons x xs ih =>
    -- behind the first entry the side is the one that it has left
    have hrest : ∀ before, (l.applyAll (x :: before)).1 =
        ((l.insert x.price x.size).2.applyAll before).1 := by
      intro before
      rw [applyAll_fst, applyAll_fst, replay_cons]
    rw [applyAll_cons_snd, applyChange_snd, ih, Level.preceded_cons, List.filter_cons,
      List.filter_map, Function.comp_def]
    simp only [hrest]
    show _ = (if (!l.misses x) = true then _ else _ : List (List Level × Level)).map _
    cases l.misses x <;> simp [Function.comp_def]

open Decimal in
/-- A removal is recorded if it takes away what an entry in front of it has set. -/
example : ((empty : Levels .bid).applyAll [⟨ofCoeff 9 0, zero⟩, ⟨ofCoeff 9 0, ofCoeff 1 0⟩,
    ⟨ofCoeff 90 1, ofCoeff (-1) 0⟩]).2 = [⟨ofCoeff 9 0, ofCoeff 1 0⟩, ⟨ofCoeff 90 1, zero⟩] := rfl

theorem applyAll_snd_eq_nil_iff {l : Levels side} {xs : List Level} :
    (l.applyAll xs).2 = [] ↔ ∀ x ∈ xs, l.misses x = true := by
  induction xs generalizing l with
  | nil => exact ⟨fun _ x hx => absurd hx List.not_mem_nil, fun _ => rfl⟩
  | cons x xs ih =>
    rw [applyAll_cons_snd, List.append_eq_nil_iff, applyChange_snd, List.forall_mem_cons]
    by_cases hx : l.misses x = true
    · -- an entry that misses leaves the side as it was for the others
      rw [insert_of_misses hx, ih, if_pos hx]
      exact and_congr_left' ⟨fun _ => hx, fun _ => rfl⟩
    · rw [if_neg hx]
      exact ⟨fun h => absurd h.1 (by simp), fun h => absurd h.1 hx⟩

end Levels

theorem Record.isEmpty_iff {r : Record} : r.isEmpty = true ↔ ∀ side, r.changes side = [] := by
  rw [isEmpty, Bool.and_eq_true, List.isEmpty_iff, List.isEmpty_iff]
  constructor
  · rintro ⟨hbids, hasks⟩ side
    cases side with
    | bid => exact hbids
    | ask => exact hasks
  · intro h
    exact ⟨h .bid, h .ask⟩

namespace Book

/-- **The record of a batch.** It lists the changes that had an effect, in order
and with nothing else, and replayed on a copy of the book it has the effect of the
batch. It is empty only for a batch that takes away nothing but levels that the
book does not have, and such a batch leaves the book as it is. -/
theorem record_lists_effects (b : Book) (batch : Batch) :
    (∀ side, (b.apply batch).2.changes side =
        ((Level.preceded (batch.changes side)).filter fun e =>
          !((b.side side).applyAll e.1).1.misses e.2).map fun e => e.2.recorded) ∧
      b.replay (b.apply batch).2 = (b.apply batch).1 ∧
      ((b.apply batch).2.isEmpty = true ↔
        ∀ side, ∀ x ∈ batch.changes side, (b.side side).misses x = true) ∧
      ((b.apply batch).2.isEmpty = true → (b.apply batch).1 = b) := by
  refine ⟨fun side => ?_, b.replay_apply_snd batch, ?_, fun hempty => ?_⟩
  · rw [changes_apply_snd, Levels.applyAll_snd]
  · rw [Record.isEmpty_iff]
    refine forall_congr' fun side => ?_
    rw [changes_apply_snd, Levels.applyAll_snd_eq_nil_iff]
  · -- an empty record repeats nothing
    have hchanges := Record.isEmpty_iff.mp hempty
    have hbids : (b.apply batch).2.bids = [] := hchanges .bid
    have hasks : (b.apply batch).2.asks = [] := hchanges .ask
    rw [← replay_apply_snd, replay, hbids, hasks]
    rfl

end Book

end BookSync
