/-
Segments of what is told about a contract.

A book appears as a snapshot, is updated, and is dropped by a reset. What is
told about one contract is cut at its resets into segments, each a snapshot
with the updates behind it; only the last segment may be open, and it is open
exactly while there is a book.

* `Seamless.push`: a segment stays without a seam when it is extended by a
  batch that starts right behind it, or overlaps its snapshot;
* `extendedBy_updateBy`: the updates that a book takes are of this kind;
* `AccountsFor.snapshot`, `.update` and `.reset`: the three ways in which what
  has been told keeps accounting for the book that is held.

The cursor of a book stands for the whole history of its segment. This is why
the verdict on a batch, which looks at cursor and state alone, is enough.
-/
import BookSync.Proofs.Sync.Step
import Mathlib.Data.List.Chain

namespace BookSync

/-- A batch leads forwards, and not to the greatest id. -/
def Batch.InOrder (b : Batch) : Prop :=
  b.firstSeq ≤ b.lastSeq ∧ b.lastSeq.toNat < UInt64.size - 1

instance (b : Batch) : Decidable b.InOrder := inferInstanceAs (Decidable (_ ∧ _))

/-! ### Segments -/

/-- An update with the batch that made it. -/
structure Applied where
  batch : Batch
  update : Update

namespace Applied

/-- Where the book stands that was delivered. -/
def cursor (a : Applied) : ℕ := a.update.book.cursor.toNat

/-- The range of the batch holds a step. -/
def Covers (a : Applied) (n : ℕ) : Prop :=
  a.batch.firstSeq.toNat ≤ n ∧ n ≤ a.batch.lastSeq.toNat

instance (a : Applied) (n : ℕ) : Decidable (a.Covers n) :=
  inferInstanceAs (Decidable (_ ∧ _))

end Applied

/-- What is told about one contract. -/
inductive Entry
  | snapshot (book : Book)
  | update (applied : Applied)
  | reset

/-- A snapshot and the updates that follow it. -/
structure Segment where
  snapshot : Book
  updates : List Applied

namespace Segment

/-- Where the snapshot stands. -/
def start (g : Segment) : ℕ := g.snapshot.cursor.toNat

/-- Where the updates have led. -/
def cursor (g : Segment) : ℕ := (g.updates.map Applied.cursor).getLastD g.start

/-- How a segment is told. -/
def entries (g : Segment) : List Entry := .snapshot g.snapshot :: g.updates.map .update

/-- A segment with one more update. -/
def push (g : Segment) (a : Applied) : Segment := { g with updates := g.updates ++ [a] }

/-- The updates of a segment lead on from its snapshot, one behind the other. -/
structure Seamless (g : Segment) : Prop where
  /-- The first batch holds the step after the snapshot. -/
  first : ∀ a ∈ g.updates.head?, a.Covers (g.start + 1)
  /-- Any other batch starts right behind the update before. -/
  next : g.updates.IsChain fun a b => b.batch.firstSeq.toNat = a.update.sequenceId.toNat + 1
  /-- An update carries the last id of its batch, and so does its book. -/
  numbered : ∀ a ∈ g.updates,
    a.update.sequenceId = a.batch.lastSeq ∧ a.update.book.cursor = a.batch.lastSeq
  increasing : (g.start :: g.updates.map Applied.cursor).Pairwise (· < ·)
  /-- Each step from the snapshot to the cursor has been applied exactly once. -/
  covered : ∀ n, g.start < n → n ≤ g.cursor → g.updates.countP (fun a => a.Covers n) = 1

/-- An update leads on from the end of a segment. -/
structure ExtendedBy (g : Segment) (a : Applied) : Prop where
  sequenceId : a.update.sequenceId = a.batch.lastSeq
  book : a.update.book.cursor = a.batch.lastSeq
  first : a.batch.firstSeq.toNat ≤ g.cursor + 1
  /-- Only the snapshot may be overlapped. -/
  next : g.updates ≠ [] → a.batch.firstSeq.toNat = g.cursor + 1
  last : g.cursor < a.batch.lastSeq.toNat

variable {g : Segment} {a : Applied}

@[simp] theorem cursor_push (g : Segment) (a : Applied) : (g.push a).cursor = a.cursor := by
  rw [cursor, push, List.map_append]
  exact List.getLastD_concat

theorem cursor_of_updates_eq_nil (h : g.updates = []) : g.cursor = g.start := by
  rw [cursor, h]
  rfl

theorem Seamless.alone (book : Book) : Seamless ⟨book, []⟩ where
  first a ha := absurd ha (by simp)
  next := List.isChain_nil
  numbered a ha := absurd ha (by simp)
  increasing := List.pairwise_singleton _ _
  covered n hn hle := absurd hle (by rw [cursor_of_updates_eq_nil rfl]; omega)

/-- In an ascending list nothing is above the last. -/
theorem le_getLastD {m n : ℕ} {l : List ℕ} (h : (m :: l).Pairwise (· < ·)) (hn : n ∈ m :: l) :
    n ≤ l.getLastD m := by
  induction l generalizing m n with
  | nil => exact (List.mem_singleton.mp hn).le
  | cons k rest ih =>
    obtain ⟨hm, hrest⟩ := List.pairwise_cons.mp h
    rw [List.getLastD_cons]
    rcases List.mem_cons.mp hn with rfl | hn
    · exact (hm k List.mem_cons_self).le.trans (ih hrest List.mem_cons_self)
    · exact ih hrest hn

theorem Seamless.le_cursor (h : g.Seamless) {n : ℕ}
    (hn : n ∈ g.start :: g.updates.map Applied.cursor) : n ≤ g.cursor :=
  le_getLastD h.increasing hn

/-- The batches of a segment end at its cursor at the latest. -/
theorem Seamless.lastSeq_le (h : g.Seamless) (ha : a ∈ g.updates) :
    a.batch.lastSeq.toNat ≤ g.cursor := by
  rw [← (h.numbered a ha).2]
  exact h.le_cursor (List.mem_cons_of_mem _ (List.mem_map_of_mem ha))

theorem Seamless.cursor_of_getLast? (h : g.Seamless) (ha : a ∈ g.updates.getLast?) :
    a.update.sequenceId.toNat = g.cursor := by
  obtain ⟨before, hbefore⟩ := List.getLast?_eq_some_iff.mp ha
  have hmem : a ∈ g.updates := by
    rw [hbefore]
    exact List.mem_concat_self
  obtain ⟨hseq, hcursor⟩ := h.numbered a hmem
  rw [hseq, ← hcursor, cursor, hbefore, List.map_append]
  exact List.getLastD_concat.symm

/-- **The step of the protocol.** A seamless segment stays so under an update
that leads on from its end. -/
theorem Seamless.push (h : g.Seamless) (ha : g.ExtendedBy a) : (g.push a).Seamless := by
  have hlt : g.cursor < a.cursor := by
    rw [Applied.cursor, ha.book]
    exact ha.last
  constructor
  · intro b hb
    by_cases hg : g.updates = []
    · have hab : a = b := by simpa [Segment.push, hg] using hb
      have hstart := cursor_of_updates_eq_nil hg
      have hfirst := ha.first
      have hlast := ha.last
      rw [hstart] at hfirst hlast
      exact hab ▸ ⟨hfirst, hlast⟩
    · refine h.first b ?_
      rw [Segment.push, List.head?_append_of_ne_nil _ hg] at hb
      exact hb
  · refine List.isChain_append.mpr ⟨h.next, List.isChain_singleton a, fun b hb a' ha' => ?_⟩
    obtain rfl := Option.some_inj.mp ha'
    have hne : g.updates ≠ [] := by
      intro hg
      rw [hg] at hb
      exact absurd hb (by simp)
    rw [ha.next hne, h.cursor_of_getLast? hb]
  · intro b hb
    rcases List.mem_append.mp hb with hb | hb
    · exact h.numbered b hb
    · obtain rfl := List.mem_singleton.mp hb
      exact ⟨ha.sequenceId, ha.book⟩
  · show (g.start :: (g.updates ++ [a]).map Applied.cursor).Pairwise (· < ·)
    rw [List.map_append, ← List.cons_append, List.pairwise_append]
    refine ⟨h.increasing, List.pairwise_singleton _ _, fun m hm n hn => ?_⟩
    rw [List.mem_singleton.mp hn]
    exact (h.le_cursor hm).trans_lt hlt
  · intro n hn hle
    replace hn : g.start < n := hn
    rw [cursor_push] at hle
    show (g.updates ++ [a]).countP (fun a => a.Covers n) = 1
    rw [List.countP_append, List.countP_singleton]
    by_cases hold : n ≤ g.cursor
    · -- a step of an earlier batch: the new one starts behind it
      have hne : g.updates ≠ [] := fun hg => by
        rw [cursor_of_updates_eq_nil hg] at hold
        omega
      have hnew : ¬ a.Covers n := fun hc => by
        have hnext := ha.next hne
        have hfirst := hc.1
        omega
      rw [h.covered n hn hold, if_neg (by simpa using hnew)]
    · -- a step of the new batch: the earlier ones end before it
      have hnone : g.updates.countP (fun a => a.Covers n) = 0 := by
        rw [List.countP_eq_zero]
        intro b hb hc
        have hlast := (of_decide_eq_true hc).2
        have hle := h.lastSeq_le hb
        omega
      have hnew : a.Covers n := by
        rw [Applied.cursor, ha.book] at hle
        have hfirst := ha.first
        exact ⟨by omega, hle⟩
      rw [hnone, if_pos (decide_eq_true hnew)]

/-- The update that a book takes leads on from the end of its segment. -/
theorem extendedBy_updateBy {book : Book} {batch : Batch} {bridge : Bool} (hb : batch.InOrder)
    (hcursor : g.cursor = book.cursor.toNat)
    (hstate : book.state = .awaitingBridge ↔ g.updates = [])
    (hv : book.check batch.firstSeq batch.lastSeq = if bridge then .bridge else .apply) :
    g.ExtendedBy ⟨batch, book.updateBy batch⟩ := by
  have hle := UInt64.le_iff_toNat_le.mp hb.1
  cases bridge with
  | true =>
    obtain ⟨hs, hlast, hfirst⟩ := Verdict.evaluate_eq_bridge_iff.mp hv
    rw [← hcursor] at hlast hfirst
    exact ⟨rfl, rfl, hfirst, fun hne => absurd (hstate.mp hs) hne, hlast⟩
  | false =>
    obtain ⟨hs, hnext⟩ := Verdict.evaluate_eq_apply_iff.mp hv
    have hfirst : batch.firstSeq.toNat = g.cursor + 1 := by
      -- `next` stops at the greatest id, which a batch in order does not reach
      have hmin := Verdict.toNat_next book.cursor
      have hlt := hb.2
      rw [← hnext, ← hcursor] at hmin
      omega
    exact ⟨rfl, rfl, hfirst.le, fun _ => hfirst, show g.cursor < batch.lastSeq.toNat by omega⟩

end Segment

/-! ### Segments in a row -/

/-- What segments closed by resets tell, and then one that may be open. -/
def Entry.ofSegments (closed : List Segment) (current : Option Segment) : List Entry :=
  closed.flatMap (fun g => g.entries ++ [.reset]) ++ current.elim [] Segment.entries

/-- What has been told about a contract accounts for the book that is held: a
book has an open segment, which leads to its cursor, and no book has none. -/
inductive AccountsFor : List Entry → Option Book → Prop
  | vacant (closed : List Segment) (hclosed : ∀ g ∈ closed, g.Seamless) :
      AccountsFor (Entry.ofSegments closed none) none
  | held (closed : List Segment) (hclosed : ∀ g ∈ closed, g.Seamless) {g : Segment} {book : Book}
      (hg : g.Seamless) (hcursor : g.cursor = book.cursor.toNat)
      (hstate : book.state = .awaitingBridge ↔ g.updates = []) :
      AccountsFor (Entry.ofSegments closed (some g)) (some book)

namespace AccountsFor

variable {told : List Entry} {book : Book}

theorem snapshot (h : AccountsFor told none) (hstate : book.state = .awaitingBridge) :
    AccountsFor (told ++ [.snapshot book]) (some book) := by
  cases h with
  | vacant closed hclosed =>
    have htold : Entry.ofSegments closed none ++ [.snapshot book] =
        Entry.ofSegments closed (some ⟨book, []⟩) := by
      rw [Entry.ofSegments, Entry.ofSegments, List.append_assoc]
      rfl
    rw [htold]
    exact .held closed hclosed (.alone book) rfl ⟨fun _ => rfl, fun _ => hstate⟩

theorem update {batch : Batch} {bridge : Bool} (h : AccountsFor told (some book))
    (hb : batch.InOrder)
    (hv : book.check batch.firstSeq batch.lastSeq = if bridge then .bridge else .apply) :
    AccountsFor (told ++ [.update ⟨batch, book.updateBy batch⟩])
      (some (book.after batch)) := by
  cases h with
  | @held closed hclosed g _ hg hcursor hstate =>
    have htold : Entry.ofSegments closed (some g) ++ [.update ⟨batch, book.updateBy batch⟩] =
        Entry.ofSegments closed (some (g.push ⟨batch, book.updateBy batch⟩)) := by
      rw [Entry.ofSegments, Entry.ofSegments, List.append_assoc]
      show _ ++ (_ :: (List.map Entry.update g.updates ++ [_])) =
        _ ++ (_ :: List.map Entry.update (g.updates ++ [_]))
      rw [List.map_append]
      rfl
    rw [htold]
    refine .held closed hclosed (hg.push (Segment.extendedBy_updateBy hb hcursor hstate hv)) ?_ ?_
    · exact Segment.cursor_push g _
    · exact ⟨fun hs => absurd hs (by simp), fun hu => absurd hu (by simp [Segment.push])⟩

theorem reset (h : AccountsFor told (some book)) :
    AccountsFor (told ++ [.reset]) none := by
  cases h with
  | @held closed hclosed g _ hg =>
    have htold : Entry.ofSegments closed (some g) ++ [.reset] =
        Entry.ofSegments (closed ++ [g]) none := by
      rw [Entry.ofSegments, Entry.ofSegments, List.append_assoc, List.flatMap_append,
        List.flatMap_singleton]
      exact (List.append_nil _).symm
    rw [htold]
    refine .vacant _ fun g' hg' => ?_
    rcases List.mem_append.mp hg' with hg' | hg'
    · exact hclosed g' hg'
    · exact List.mem_singleton.mp hg' ▸ hg

theorem seamless {book? : Option Book} (h : AccountsFor told book?) :
    ∃ closed current, told = Entry.ofSegments closed current ∧
      ∀ g ∈ closed ++ current.toList, g.Seamless := by
  cases h with
  | vacant closed hclosed =>
    refine ⟨closed, none, rfl, fun g hg => hclosed g ?_⟩
    rwa [Option.toList_none, List.append_nil] at hg
  | @held closed hclosed g _ hg =>
    refine ⟨closed, some g, rfl, fun g' hg' => ?_⟩
    rcases List.mem_append.mp hg' with hg' | hg'
    · exact hclosed g' hg'
    · exact List.mem_singleton.mp hg' ▸ hg

end AccountsFor

end BookSync
