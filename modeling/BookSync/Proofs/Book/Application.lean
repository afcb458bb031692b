/-
What a batch makes of a book.

The entries of a list for one price change the level at this price one after the
other, and no other entry touches it:

* `WellFormed.levelAt?_replay` says so;
* `Level.foldl_change_foldl_change`: changes made a second time change nothing.
  A removal among them forgets how the price was spelled, and without one the
  spelling is kept;
* `replay_replay`: so a list that is applied again leaves its side as it is;
* `applyAll_append`: a list in two parts is applied part by part, and so is its
  record.

`apply_decides_levels` says what this comes to for both sides of a book.
-/
import BookSync.Proofs.Book.Changes

namespace BookSync

namespace Level

/-! ### The changes of one level -/

/-- Where a level is removed, it does not matter what was there before. -/
theorem foldl_change_of_removal {xs : List Level} (h : ∃ x ∈ xs, ¬ x.size.isPositive)
    (old old' : Option Level) : xs.foldl change old = xs.foldl change old' := by
  induction xs generalizing old old' with
  | nil =>
    obtain ⟨x, hx, -⟩ := h
    exact absurd hx List.not_mem_nil
  | cons x xs ih =>
    rw [List.foldl_cons, List.foldl_cons]
    by_cases hx : x.size.isPositive = true
    · obtain ⟨y, hy, hremoval⟩ := h
      rcases List.mem_cons.mp hy with rfl | hy
      · exact absurd hx hremoval
      · exact ih ⟨y, hy, hremoval⟩ _ _
    · have hgone : ∀ o, change o x = none := fun _ => if_neg hx
      rw [hgone, hgone]

/-- Where no level is removed, the spelling is kept. -/
theorem foldl_change_of_kept {xs : List Level} (h : ∀ x ∈ xs, x.size.isPositive) (old : Level) :
    ∃ size, xs.foldl change (some old) = some ⟨old.price, size⟩ := by
  induction xs generalizing old with
  | nil => exact ⟨old.size, rfl⟩
  | cons x xs ih =>
    have hchange : change (some old) x = some ⟨old.price, x.size⟩ :=
      if_pos (h x List.mem_cons_self)
    rw [List.foldl_cons, hchange]
    exact ih (fun y hy => h y (List.mem_cons_of_mem x hy)) ⟨old.price, x.size⟩

/-- Changes made a second time change nothing. -/
theorem foldl_change_foldl_change (xs : List Level) (old : Option Level) :
    xs.foldl change (xs.foldl change old) = xs.foldl change old := by
  by_cases hremoval : ∃ x ∈ xs, ¬ x.size.isPositive
  · exact foldl_change_of_removal hremoval _ _
  · have hkept : ∀ x ∈ xs, x.size.isPositive := fun x hx =>
      Decidable.not_not.mp fun hs => hremoval ⟨x, hx, hs⟩
    cases xs using List.reverseRecOn with
    | nil => rfl
    | append_singleton ys x =>
      -- the last entry decides the size, and the second time finds a spelling to keep
      have hlast : ∀ o, (ys ++ [x]).foldl change o =
          some ⟨((ys.foldl change o).map (·.price)).getD x.price, x.size⟩ := by
        intro o
        rw [List.foldl_append]
        exact if_pos (hkept x (List.mem_append_right ys List.mem_cons_self))
      rw [hlast old]
      generalize ((ys.foldl change old).map (·.price)).getD x.price = price
      obtain ⟨size, hsize⟩ := foldl_change_of_kept hkept ⟨price, x.size⟩
      rw [hsize]
      have hsame : size = x.size := by
        rw [hlast] at hsize
        injection hsize with hsize
        injection hsize with _ hsize
        exact hsize.symm
      rw [hsame]

end Level

namespace Levels

variable {side : Side}

/-! ### A list of changes -/

/-- **The level at a price.** It is what the entries for this price make of it. -/
theorem WellFormed.levelAt?_replay {l : Levels side} (h : l.WellFormed) (xs : List Level)
    (p : ℚ) : (l.replay xs).levelAt? p =
      (xs.filter fun x => x.price.value = p).foldl Level.change (l.levelAt? p) := by
  induction xs generalizing l with
  | nil => rfl
  | cons x xs ih =>
    rw [replay_cons, ih (h.insert x.price x.size), h.levelAt?_insert]
    by_cases hp : x.price.value = p
    · rw [if_pos hp, List.filter_cons_of_pos (by simpa using hp), List.foldl_cons]
    · rw [if_neg hp, List.filter_cons_of_neg (by simpa using hp)]

/-- A list of changes that is applied again changes nothing. -/
theorem WellFormed.replay_replay {l : Levels side} (h : l.WellFormed) (xs : List Level) :
    (l.replay xs).replay xs = l.replay xs := by
  have hl := h.replay xs
  refine (hl.replay xs).eq_of_levelAt?_eq hl fun p => ?_
  rw [hl.levelAt?_replay, h.levelAt?_replay]
  exact Level.foldl_change_foldl_change _ _

/-- The record of a list in two parts is that of one part behind the other. -/
theorem applyAll_append_snd (l : Levels side) (xs ys : List Level) :
    (l.applyAll (xs ++ ys)).2 = (l.applyAll xs).2 ++ ((l.replay xs).applyAll ys).2 := by
  induction xs generalizing l with
  | nil => rfl
  | cons x xs ih =>
    rw [List.cons_append, applyAll_cons_snd, ih, applyAll_cons_snd, replay_cons, List.append_assoc]

end Levels

/-! ### Batches -/

namespace Book

/-- A book is told by its sides and by what stands beside them. -/
theorem eq_of_side_eq {b b' : Book} (hsymbol : b.symbol = b'.symbol) (hcursor : b.cursor = b'.cursor)
    (hstate : b.state = b'.state) (hside : ∀ side, b.side side = b'.side side) : b = b' := by
  obtain ⟨symbol, bids, asks, cursor, state⟩ := b
  obtain ⟨symbol', bids', asks', cursor', state'⟩ := b'
  obtain rfl : symbol = symbol' := hsymbol
  obtain rfl : cursor = cursor' := hcursor
  obtain rfl : state = state' := hstate
  obtain rfl : bids = bids' := hside .bid
  obtain rfl : asks = asks' := hside .ask
  rfl

/-- **The levels after a batch.** At each price the last entry for it decides,
and a price without an entry keeps its level. So a batch that is applied again
changes nothing, and a batch in two parts is applied part by part. -/
theorem apply_decides_levels {b : Book} (hb : b.WellFormed) (batch : Batch) :
    (∀ side (price size : Decimal), Level.lastSize? (batch.changes side) price.value = some size →
        ((b.apply batch).1.side side).get? price = size.positive?) ∧
      (∀ side (price : Decimal), (∀ x ∈ batch.changes side, ¬ x.price ≈ price) →
        ((b.apply batch).1.side side).get? price = (b.side side).get? price ∧
        ((b.apply batch).1.side side).levelAt? price.value =
          (b.side side).levelAt? price.value) ∧
      ((b.apply batch).1.symbol = b.symbol ∧ (b.apply batch).1.cursor = b.cursor ∧
        (b.apply batch).1.state = b.state) ∧
      ((b.apply batch).1.apply batch).1 = (b.apply batch).1 ∧
      ∀ first second : Batch,
        (∀ side, batch.changes side = first.changes side ++ second.changes side) →
          (b.apply batch).1 = ((b.apply first).1.apply second).1 ∧
          ∀ side, (b.apply batch).2.changes side =
            (b.apply first).2.changes side ++ ((b.apply first).1.apply second).2.changes side := by
  refine ⟨fun side price size hsize => ?_, fun side price hne => ?_, ⟨rfl, rfl, rfl⟩, ?_, ?_⟩
  · rw [Levels.get?_eq_sizeAt?, side_apply, Levels.sizeAt?_replay, hsize]
  · have hfilter : (batch.changes side).filter (fun x => x.price.value = price.value) = [] :=
      List.filter_eq_nil_iff.mpr fun x hx => by
        simpa [← Decimal.equiv_iff_value] using hne x hx
    have hlevel : ((b.apply batch).1.side side).levelAt? price.value =
        (b.side side).levelAt? price.value := by
      rw [side_apply, (hb side).levelAt?_replay, hfilter, List.foldl_nil]
    refine ⟨?_, hlevel⟩
    rw [Levels.get?_eq_sizeAt?, Levels.get?_eq_sizeAt?, Levels.sizeAt?_eq_map, hlevel,
      ← Levels.sizeAt?_eq_map]
  · refine eq_of_side_eq rfl rfl rfl fun side => ?_
    rw [side_apply, side_apply, (hb side).replay_replay]
  · intro first second h
    refine ⟨eq_of_side_eq rfl rfl rfl fun side => ?_, fun side => ?_⟩
    · rw [side_apply, side_apply, side_apply, h, Levels.replay_append]
    · rw [changes_apply_snd, changes_apply_snd, changes_apply_snd, side_apply, h,
        Levels.applyAll_append_snd]

/-! ### Prices in several spellings -/

open Decimal in
/-- A book with two bids. -/
def twoBids : Book :=
  { Book.empty "X" 5 with
    bids := ⟨[⟨ofCoeff 101 0, ofCoeff 3 0⟩, ⟨ofCoeff 100 0, ofCoeff 7 0⟩]⟩ }

open Decimal in
/-- A level is removed and set in other spellings, and one is set and removed. -/
def spelledBatch : Batch :=
  ⟨"X", 6, 6, 0, [⟨ofCoeff 1000 1, zero⟩, ⟨ofCoeff 10000 2, ofCoeff 2 0⟩, ⟨ofCoeff 99 0, ofCoeff 4 0⟩,
    ⟨ofCoeff 990 1, ofCoeff (-1) 0⟩], [], none⟩

theorem twoBids_wellFormed : twoBids.WellFormed := by
  have hsnapshot : ofSnapshot "X" ⟨5, none, none, twoBids.bids.toList, []⟩ = .ok twoBids := rfl
  exact .ofSnapshot hsnapshot

open Decimal in
/-- The price is found under each of its spellings, and the bid above it stays. -/
theorem apply_decides_levels_spelled :
    twoBids.WellFormed ∧
      ((twoBids.apply spelledBatch).1.side .bid).get? (ofCoeff 100 0) = some (ofCoeff 2 0) ∧
      ((twoBids.apply spelledBatch).1.side .bid).get? (ofCoeff 99 0) = none ∧
      ((twoBids.apply spelledBatch).1.side .bid).get? (ofCoeff 101 0) = some (ofCoeff 3 0) ∧
      ((twoBids.apply spelledBatch).1.apply spelledBatch).1 = (twoBids.apply spelledBatch).1 := by
  obtain ⟨hnamed, hunnamed, -, htwice, -⟩ := apply_decides_levels twoBids_wellFormed spelledBatch
  have hset : Level.lastSize? (spelledBatch.changes .bid) (ofCoeff 100 0).value =
      some (ofCoeff 2 0) := by decide +kernel
  have hremoved : Level.lastSize? (spelledBatch.changes .bid) (ofCoeff 99 0).value =
      some (ofCoeff (-1) 0) := by decide +kernel
  exact ⟨twoBids_wellFormed, hnamed .bid _ _ hset, hnamed .bid _ _ hremoved,
    (hunnamed .bid (ofCoeff 101 0) (by decide)).1, htwice⟩

end Book

end BookSync
