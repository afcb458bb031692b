/-
What a snapshot makes of a book.

A snapshot is put on an empty book entry by entry, and so is a batch. Both are the
same walk through their lists, so that a snapshot without sizes below zero leads to
the book that a batch with its lists leads to. Beyond that:

* `exists_ofSnapshot_eq_error_iff`: a snapshot is refused exactly if one of its sizes
  is below zero;
* `WellFormed.replay_eq_of_perm`: if no price stands twice in a list, then each level
  is decided by one entry, and the order of the entries does not count;
* `ofSnapshot_eq_of_perm`: so it is for snapshots.

`ofSnapshot_decides_levels` puts this together with the level at each price.
-/
import BookSync.Proofs.Book.Application

namespace BookSync

namespace Level

/-! ### Lists in another order -/

/-- If no price stands twice, then a price has one entry at most, wherever it stands. -/
theorem filter_eq_of_perm {xs ys : List Level} (h : xs.Perm ys)
    (hnodup : (xs.map (·.price.value)).Nodup) (p : ℚ) :
    xs.filter (fun x => x.price.value = p) = ys.filter (fun x => x.price.value = p) := by
  have halone : ∀ zs : List Level, (zs.map (·.price.value)).Nodup →
      (zs.filter fun x => x.price.value = p).Pairwise fun _ _ => False := by
    intro zs hzs
    rw [List.nodup_iff_pairwise_ne, List.pairwise_map] at hzs
    refine (hzs.sublist List.filter_sublist).imp_of_mem fun hx hy hne => ?_
    have hxp := (List.mem_filter.mp hx).2
    have hyp := (List.mem_filter.mp hy).2
    exact hne ((of_decide_eq_true hxp).trans (of_decide_eq_true hyp).symm)
  have hnodup' : (ys.map (·.price.value)).Nodup := (h.map _).nodup_iff.mp hnodup
  exact (h.filter _).eq_of_pairwise (fun _ _ _ _ hf => hf.elim) (halone xs hnodup)
    (halone ys hnodup')

end Level

namespace Levels

variable {side : Side}

theorem WellFormed.replay_eq_of_perm {l : Levels side} (h : l.WellFormed) {xs ys : List Level}
    (hperm : xs.Perm ys) (hnodup : (xs.map (·.price.value)).Nodup) :
    l.replay xs = l.replay ys := by
  refine (h.replay xs).eq_of_levelAt?_eq (h.replay ys) fun p => ?_
  rw [h.levelAt?_replay, h.levelAt?_replay, Level.filter_eq_of_perm hperm hnodup]

/-- On an empty side there is nothing but what the last entries name. -/
theorem get?_replay_empty (xs : List Level) (price : Decimal) :
    ((empty : Levels side).replay xs).get? price =
      (Level.lastSize? xs price.value).bind Decimal.positive? := by
  rw [get?_eq_sizeAt?, sizeAt?_replay]
  cases Level.lastSize? xs price.value <;> rfl

end Levels

theorem BookSnapshot.mem_levels_iff {s : BookSnapshot} {x : Level} :
    x ∈ s.bids ++ s.asks ↔ ∃ side, x ∈ s.levels side := by
  rw [List.mem_append]
  constructor
  · rintro (h | h)
    · exact ⟨.bid, h⟩
    · exact ⟨.ask, h⟩
  · rintro ⟨side, h⟩
    cases side with
    | bid => exact Or.inl h
    | ask => exact Or.inr h

namespace Book

/-! ### Snapshots -/

theorem exists_ofSnapshot_eq_error_iff {symbol : String} {s : BookSnapshot} :
    (∃ e, ofSnapshot symbol s = .error e) ↔ ∃ side, ∃ x ∈ s.levels side, x.size.value < 0 := by
  simp only [ofSnapshot_eq_error_iff]
  constructor
  · rintro ⟨e, he⟩
    obtain ⟨before, x, after, hsplit, -, hneg, -⟩ := Level.firstNegative?_eq_some_iff.mp he
    have hx : x ∈ s.bids ++ s.asks := by
      rw [hsplit]
      exact List.mem_append_right before List.mem_cons_self
    obtain ⟨side, hside⟩ := BookSnapshot.mem_levels_iff.mp hx
    exact ⟨side, x, hside, hneg⟩
  · rintro ⟨side, x, hx, hneg⟩
    rw [← Option.isSome_iff_exists, ← Option.ne_none_iff_isSome]
    intro hnone
    have hsizes := Level.firstNegative?_eq_none_iff.mp hnone
    exact absurd hneg (not_lt.mpr (hsizes x (BookSnapshot.mem_levels_iff.mpr ⟨side, hx⟩)))

/-- A snapshot that does not spoil is put on an empty book as a batch would be. -/
theorem apply_empty_eq_of_ofSnapshot {symbol : String} {s : BookSnapshot} {b : Book}
    (h : ofSnapshot symbol s = .ok b) {batch : Batch}
    (hbatch : ∀ side, batch.changes side = s.levels side) :
    ((empty symbol s.id).apply batch).1 = b := by
  obtain ⟨hsymbol, hcursor, hstate, -, hside⟩ := ofSnapshot_eq_ok h
  refine eq_of_side_eq hsymbol.symm hcursor.symm hstate.symm fun side => ?_
  rw [side_apply, hbatch, hside]
  cases side <;> rfl

/-- The order of the entries does not count where no price stands twice. -/
theorem ofSnapshot_eq_of_perm {symbol : String} {s s' : BookSnapshot} {b : Book}
    (h : ofSnapshot symbol s = .ok b) (hid : s'.id = s.id)
    (hnodup : ∀ side, ((s.levels side).map (·.price.value)).Nodup)
    (hperm : ∀ side, (s.levels side).Perm (s'.levels side)) : ofSnapshot symbol s' = .ok b := by
  obtain ⟨hsymbol, hcursor, hstate, hsizes, hside⟩ := ofSnapshot_eq_ok h
  cases hs' : ofSnapshot symbol s' with
  | error e =>
    -- a size below zero would stand in the first snapshot, too
    obtain ⟨side, x, hx, hneg⟩ := exists_ofSnapshot_eq_error_iff.mp ⟨e, hs'⟩
    exact absurd hneg (not_lt.mpr (hsizes side x ((hperm side).mem_iff.mpr hx)))
  | ok b' =>
    obtain ⟨hsymbol', hcursor', hstate', -, hside'⟩ := ofSnapshot_eq_ok hs'
    have hsame : b' = b := by
      have hsymbols := hsymbol'.trans hsymbol.symm
      refine eq_of_side_eq hsymbols ?_ (hstate'.trans hstate.symm) fun side => ?_
      · rw [hcursor', hcursor, hid]
      · rw [hside, hside', Levels.WellFormed.empty.replay_eq_of_perm (hperm side) (hnodup side)]
    rw [hsame]

/-- **The levels of a snapshot.** It is refused if a size is below zero, with the
first such entry, bids first. Otherwise it leads to a book that awaits its bridge,
where the last entry for a price decides: the book that a batch with the same lists
makes of an empty one. If no price stands twice, the entries may come in any order. -/
theorem ofSnapshot_decides_levels (symbol : String) (s : BookSnapshot) :
    ((∃ e, ofSnapshot symbol s = .error e) ↔ ∃ side, ∃ x ∈ s.levels side, x.size.value < 0) ∧
      (∀ e, ofSnapshot symbol s = .error e ↔ ∃ before x after,
        s.bids ++ s.asks = before ++ x :: after ∧ (∀ y ∈ before, 0 ≤ y.size.value) ∧
          x.size.value < 0 ∧ .negativeSize x.size x.price = e) ∧
      ∀ b, ofSnapshot symbol s = .ok b →
        (b.symbol = symbol ∧ b.cursor = s.id ∧ b.state = .awaitingBridge) ∧
        (∀ side (price : Decimal), (b.side side).get? price =
          (Level.lastSize? (s.levels side) price.value).bind Decimal.positive?) ∧
        (∀ batch : Batch, (∀ side, batch.changes side = s.levels side) →
          ((empty symbol s.id).apply batch).1 = b) ∧
        ∀ s' : BookSnapshot, s'.id = s.id →
          (∀ side, ((s.levels side).map (·.price.value)).Nodup) →
          (∀ side, (s.levels side).Perm (s'.levels side)) → ofSnapshot symbol s' = .ok b := by
  refine ⟨exists_ofSnapshot_eq_error_iff, fun e => ?_, fun b hb => ⟨?_, ?_, ?_, ?_⟩⟩
  · rw [ofSnapshot_eq_error_iff, Level.firstNegative?_eq_some_iff]
  · obtain ⟨hsymbol, hcursor, hstate, -, -⟩ := ofSnapshot_eq_ok hb
    exact ⟨hsymbol, hcursor, hstate⟩
  · intro side price
    obtain ⟨-, -, -, -, hside⟩ := ofSnapshot_eq_ok hb
    rw [hside, Levels.get?_replay_empty]
  · intro batch hbatch
    exact apply_empty_eq_of_ofSnapshot hb hbatch
  · intro s' hid hnodup hperm
    exact ofSnapshot_eq_of_perm hb hid hnodup hperm

open Decimal in
/-- A bid is set, removed and set again under other spellings; no ask price stands
twice, and one of the asks has size zero. -/
def respelledSnapshot : BookSnapshot :=
  ⟨7, none, none, [⟨ofCoeff 9 0, ofCoeff 1 0⟩, ⟨ofCoeff 90 1, zero⟩, ⟨ofCoeff 900 2, ofCoeff 4 0⟩],
    [⟨ofCoeff 12 0, ofCoeff 3 0⟩, ⟨ofCoeff 10 0, zero⟩, ⟨ofCoeff 11 0, ofCoeff 2 0⟩]⟩

open Decimal in
/-- The asks of the same snapshot alone, and the same asks from the lowest one up. -/
def askSnapshots : BookSnapshot × BookSnapshot :=
  ({ respelledSnapshot with bids := [] },
    { respelledSnapshot with
      bids := []
      asks := [⟨ofCoeff 10 0, zero⟩, ⟨ofCoeff 11 0, ofCoeff 2 0⟩, ⟨ofCoeff 12 0, ofCoeff 3 0⟩] })

open Decimal in
theorem ofSnapshot_decides_levels_respelled :
    (∃ b, ofSnapshot "X" respelledSnapshot = .ok b ∧
      (b.side .bid).get? (ofCoeff 9 0) = some (ofCoeff 4 0) ∧
      (b.side .ask).get? (ofCoeff 10 0) = none ∧
      ((empty "X" 7).apply
        ⟨"X", 1, 2, 0, respelledSnapshot.bids, respelledSnapshot.asks, none⟩).1 = b) ∧
    ∃ b, ofSnapshot "X" askSnapshots.1 = .ok b ∧
      (∀ side, ((askSnapshots.1.levels side).map (·.price.value)).Nodup) ∧
      (∀ side, (askSnapshots.1.levels side).Perm (askSnapshots.2.levels side)) ∧
      ofSnapshot "X" askSnapshots.2 = .ok b := by
  constructor
  · obtain ⟨b, hb⟩ : ∃ b, ofSnapshot "X" respelledSnapshot = .ok b := ⟨_, rfl⟩
    obtain ⟨-, hlevels, hbatch, -⟩ := (ofSnapshot_decides_levels "X" respelledSnapshot).2.2 b hb
    have hbid : Level.lastSize? (respelledSnapshot.levels .bid) (ofCoeff 9 0).value =
        some (ofCoeff 4 0) := by decide +kernel
    have hask : Level.lastSize? (respelledSnapshot.levels .ask) (ofCoeff 10 0).value =
        some zero := by decide +kernel
    refine ⟨b, hb, ?_, ?_, hbatch _ fun side => by cases side <;> rfl⟩
    · rw [hlevels, hbid]
      rfl
    · rw [hlevels, hask]
      rfl
  · obtain ⟨b, hb⟩ : ∃ b, ofSnapshot "X" askSnapshots.1 = .ok b := ⟨_, rfl⟩
    have hnodup : ∀ side, ((askSnapshots.1.levels side).map (·.price.value)).Nodup := by
      intro side
      cases side <;> decide +kernel
    have hperm : ∀ side, (askSnapshots.1.levels side).Perm (askSnapshots.2.levels side) := by
      intro side
      cases side <;> decide +kernel
    obtain ⟨-, -, -, hreordered⟩ := (ofSnapshot_decides_levels "X" askSnapshots.1).2.2 b hb
    exact ⟨b, hb, hnodup, hperm, hreordered askSnapshots.2 rfl hnodup hperm⟩

end Book

end BookSync
