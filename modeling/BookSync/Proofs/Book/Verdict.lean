/-
The verdicts on a batch, read in natural numbers.

In `ℕ` each cursor has a successor. `Verdict.next` is this successor, except
that it stops at the greatest id (`toNat_next`).

* `evaluate_eq_discard_iff`, `evaluate_eq_bridge_iff`, `evaluate_eq_apply_iff`
  and `evaluate_eq_gap_iff`: when which verdict is given;
* `evaluate_follows_table`: the verdicts are those of a table in `ℕ`, where a
  book that follows the stream takes nothing but the change after its cursor;
* `evaluate_repeats_greatest`: what the table leaves out. Behind the greatest id
  there is no other, so the batch of this id alone is taken again and again.
-/
import BookSync.Book.Sequence
import Mathlib.Data.Nat.Notation

namespace BookSync.Verdict

theorem toNat_next (id : SequenceId) : (next id).toNat = min (id.toNat + 1) (UInt64.size - 1) := by
  have hid := id.toNat_lt
  rw [next]
  split
  · rename_i h
    rw [UInt64.toNat_add, UInt64.toNat_one, Nat.mod_eq_of_lt h]
    omega
  · rename_i h
    rw [UInt64.size] at *
    omega

/-- A change is the next one for a cursor if it is its successor; for the
greatest id it is this id itself. -/
theorem eq_next_iff {first cursor : SequenceId} :
    first = next cursor ↔ first.toNat = cursor.toNat + 1 ∨
      (cursor.toNat + 1 = UInt64.size ∧ first = cursor) := by
  have hnext := toNat_next cursor
  have hfirst := first.toNat_lt
  have hcursor := cursor.toNat_lt
  rw [UInt64.size] at hnext ⊢
  rw [← UInt64.toNat_inj, ← UInt64.toNat_inj]
  omega

variable {state : SyncState} {cursor first last : SequenceId}

/-! ### When which verdict is given -/

theorem evaluate_eq_discard_iff :
    evaluate state cursor first last = discard ↔
      state = .awaitingBridge ∧ last.toNat ≤ cursor.toNat := by
  cases state with
  | awaitingBridge =>
    rw [and_iff_right rfl, ← UInt64.le_iff_toNat_le]
    simp only [evaluate]
    split
    · rename_i h
      exact ⟨fun _ => h, fun _ => rfl⟩
    · rename_i h
      refine ⟨fun hd => ?_, fun hd => absurd hd h⟩
      split at hd <;> exact absurd hd (by simp)
  | synced =>
    simp only [evaluate]
    refine ⟨fun hd => ?_, fun hd => absurd hd.1 (by simp)⟩
    split at hd <;> exact absurd hd (by simp)

theorem evaluate_eq_bridge_iff :
    evaluate state cursor first last = bridge ↔
      state = .awaitingBridge ∧ cursor.toNat < last.toNat ∧ first.toNat ≤ cursor.toNat + 1 := by
  have hlast := last.toNat_lt
  cases state with
  | awaitingBridge =>
    rw [and_iff_right rfl]
    simp only [evaluate, UInt64.le_iff_toNat_le, toNat_next, UInt64.size]
    split
    · exact ⟨fun h => absurd h (by simp), fun h => by omega⟩
    · split
      · exact ⟨fun _ => by omega, fun _ => rfl⟩
      · exact ⟨fun h => absurd h (by simp), fun h => by omega⟩
  | synced =>
    simp only [evaluate]
    refine ⟨fun h => ?_, fun h => absurd h.1 (by simp)⟩
    split at h <;> exact absurd h (by simp)

theorem evaluate_eq_apply_iff :
    evaluate state cursor first last = apply ↔ state = .synced ∧ first = next cursor := by
  cases state with
  | awaitingBridge =>
    simp only [evaluate]
    refine ⟨fun h => ?_, fun h => absurd h.1 (by simp)⟩
    split at h
    · exact absurd h (by simp)
    · split at h <;> exact absurd h (by simp)
  | synced =>
    rw [and_iff_right rfl]
    simp only [evaluate]
    split
    · rename_i h
      exact ⟨fun _ => h, fun _ => rfl⟩
    · rename_i h
      exact ⟨fun hv => absurd hv (by simp), fun hf => absurd hf h⟩

/-- A gap expects the change after the cursor. The batch starts behind this
change, or the book follows the stream and the batch starts elsewhere. -/
theorem evaluate_eq_gap_iff {expected : SequenceId} :
    evaluate state cursor first last = gap expected ↔ expected = next cursor ∧
      ((state = .awaitingBridge ∧ cursor.toNat < last.toNat ∧ cursor.toNat + 1 < first.toNat) ∨
        (state = .synced ∧ first ≠ next cursor)) := by
  have hlast := last.toNat_lt
  cases state with
  | awaitingBridge =>
    simp only [evaluate, UInt64.le_iff_toNat_le, toNat_next, UInt64.size]
    split
    · refine ⟨fun h => absurd h (by simp), fun h => ?_⟩
      rcases h.2 with ⟨-, h, -⟩ | ⟨h, -⟩
      · omega
      · exact absurd h (by simp)
    · split
      · refine ⟨fun h => absurd h (by simp), fun h => ?_⟩
        rcases h.2 with ⟨-, -, h⟩ | ⟨h, -⟩
        · omega
        · exact absurd h (by simp)
      · rw [gap.injEq, eq_comm]
        refine ⟨fun h => ⟨h, Or.inl ⟨trivial, ?_⟩⟩, fun h => h.1⟩
        omega
  | synced =>
    simp only [evaluate]
    split
    · rename_i hf
      refine ⟨fun h => absurd h (by simp), fun h => ?_⟩
      rcases h.2 with ⟨h, -⟩ | ⟨-, h⟩
      · exact absurd h (by simp)
      · exact absurd hf h
    · rename_i hf
      rw [gap.injEq, eq_comm]
      exact ⟨fun h => ⟨h, Or.inr ⟨trivial, hf⟩⟩, fun h => h.1⟩

/-! ### The table of verdicts -/

/-- **The table of verdicts.** While a book awaits its bridge, a batch up to the
cursor is dropped and one that holds the change after the cursor is the bridge;
once it follows the stream, a batch that starts with this change is applied. All
else is a gap at this change. For a book that follows the stream the one batch is
left aside that starts with the greatest id behind the greatest id. -/
theorem evaluate_follows_table (cursor first last : SequenceId) :
    ((evaluate .awaitingBridge cursor first last = discard ↔ last.toNat ≤ cursor.toNat) ∧
      (evaluate .awaitingBridge cursor first last = bridge ↔
        first.toNat ≤ cursor.toNat + 1 ∧ cursor.toNat + 1 ≤ last.toNat) ∧
      ((∃ expected, evaluate .awaitingBridge cursor first last = gap expected) ↔
        ¬ last.toNat ≤ cursor.toNat ∧
          ¬ (first.toNat ≤ cursor.toNat + 1 ∧ cursor.toNat + 1 ≤ last.toNat))) ∧
    ((first = cursor → cursor.toNat + 1 < UInt64.size) →
      (evaluate .synced cursor first last = apply ↔ first.toNat = cursor.toNat + 1) ∧
      ((∃ expected, evaluate .synced cursor first last = gap expected) ↔
        first.toNat ≠ cursor.toNat + 1) ∧
      (first.toNat ≤ cursor.toNat → (evaluate .synced cursor first last).applies = false)) ∧
    ∀ state expected, evaluate state cursor first last = gap expected →
      cursor.toNat + 1 < UInt64.size → expected.toNat = cursor.toNat + 1 := by
  refine ⟨⟨?_, ?_, ?_⟩, fun hgreatest => ?_, fun state expected hgap hlt => ?_⟩
  · rw [evaluate_eq_discard_iff, and_iff_right rfl]
  · rw [evaluate_eq_bridge_iff, and_iff_right rfl]
    omega
  · simp only [evaluate_eq_gap_iff, exists_eq_left, true_and, reduceCtorEq, false_and, or_false]
    omega
  · have hnext : first = next cursor ↔ first.toNat = cursor.toNat + 1 := by
      rw [eq_next_iff, or_iff_left]
      rintro ⟨hsize, hfirst⟩
      exact absurd (hgreatest hfirst) (by omega)
    have hgap : (∃ expected, evaluate .synced cursor first last = gap expected) ↔
        first.toNat ≠ cursor.toNat + 1 := by
      simp only [evaluate_eq_gap_iff, exists_eq_left, true_and, reduceCtorEq, false_and, false_or]
      rw [ne_eq, hnext]
    refine ⟨?_, hgap, fun hle => ?_⟩
    · rw [evaluate_eq_apply_iff, and_iff_right rfl, hnext]
    · obtain ⟨expected, hv⟩ := hgap.mpr (by omega)
      rw [hv]
      rfl
  · rw [(evaluate_eq_gap_iff.mp hgap).1, toNat_next]
    omega

/-- The greatest id. -/
def greatest : SequenceId := .ofNat (UInt64.size - 1)

/-- One step before the greatest id, the batch of this id is applied to a book
that follows the stream, and a batch that the book already holds leaves a gap. -/
theorem evaluate_follows_table_greatest :
    (greatest = greatest - 1 → (greatest - 1).toNat + 1 < UInt64.size) ∧
      evaluate .synced (greatest - 1) greatest greatest = apply ∧
      (evaluate .synced (greatest - 1) (greatest - 1) (greatest - 1)).applies = false := by
  have hnext : greatest = greatest - 1 → (greatest - 1).toNat + 1 < UInt64.size :=
    fun h => absurd h (by decide)
  obtain ⟨-, htaken, -⟩ := evaluate_follows_table (greatest - 1) greatest greatest
  obtain ⟨-, hheld, -⟩ := evaluate_follows_table (greatest - 1) (greatest - 1) (greatest - 1)
  exact ⟨hnext, (htaken hnext).1.mpr (by decide), (hheld fun _ => by decide).2.2 (by decide)⟩

/-- **The greatest id is taken again and again.** A book that follows the stream
up to the greatest id takes a batch of this id, which it already holds and which
the table does not apply: it does not start with the change after the cursor. -/
theorem evaluate_repeats_greatest :
    ¬ (evaluate .synced greatest greatest greatest = apply ↔
      greatest.toNat = greatest.toNat + 1) := by
  intro h
  have happly : evaluate .synced greatest greatest greatest = apply := by decide
  exact absurd (h.mp happly) (Nat.succ_ne_self _).symm

end BookSync.Verdict
