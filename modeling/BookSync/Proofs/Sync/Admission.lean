/-
What an update has passed when it reaches a book.

`Batch.ofUpdate` is the one place where an update is checked. The coordinator takes
a batch as it is, so all that can be relied on behind this place is what holds of
every batch that it lets through:

* `Batch.exists_ofUpdate_eq_ok_iff`, `Batch.ofUpdate_eq_error_iff`: which updates
  pass, and what the others are refused with;
* `Applies.exists_updateBy`, `Processes.exists_updateBy`: an update that is told
  is what its batch makes of a book;
* `Levels.nonneg_of_mem_applyAll_snd`: no record holds a size below zero, as
  a removal is recorded with size zero;
* `handle_admits`, `handleAll_admits`: so every update that frames lead to is
  `Admitted`, whatever the frames hold.

`tells_checked_updates` puts this together for single frames and for whole runs.
-/
import BookSync.Proofs.Book.Record
import BookSync.Proofs.Sync.Content
import BookSync.Proofs.Sync.Frames
import BookSync.Proofs.Sync.Isolation

namespace BookSync

/-! ### Updates that pass -/

namespace Batch

/-- Nothing is asked of an update but its range and its sizes. -/
theorem exists_ofUpdate_eq_ok_iff {u : BookUpdate} :
    (∃ b, ofUpdate u = .ok b) ↔
      u.firstSeq ≤ u.lastSeq ∧ ∀ x ∈ u.bids ++ u.asks, 0 ≤ x.size.value := by
  constructor
  · rintro ⟨b, hb⟩
    obtain ⟨hrange, hsizes, -⟩ := ofUpdate_eq_ok hb
    exact ⟨hrange, hsizes⟩
  · rintro ⟨hrange, hsizes⟩
    rw [ofUpdate_eq, if_neg (UInt64.not_lt.mpr hrange), Level.firstNegative?_eq_none_iff.mpr hsizes]
    exact ⟨_, rfl⟩

/-- The range is looked at first, then the bids, then the asks. -/
theorem ofUpdate_eq_error_iff {u : BookUpdate} {e : DecodeError} :
    ofUpdate u = .error e ↔
      (u.lastSeq < u.firstSeq ∧ .invertedRange u.firstSeq u.lastSeq = e) ∨
        (u.firstSeq ≤ u.lastSeq ∧ ∃ before x after, u.bids ++ u.asks = before ++ x :: after ∧
          (∀ y ∈ before, 0 ≤ y.size.value) ∧ x.size.value < 0 ∧
          .negativeSize x.size x.price = e) := by
  rw [ofUpdate_eq, ← Level.firstNegative?_eq_some_iff]
  by_cases hrange : u.lastSeq < u.firstSeq
  · have hle : ¬ u.firstSeq ≤ u.lastSeq := UInt64.not_le.mpr hrange
    simp [hrange, hle]
  · have hle : u.firstSeq ≤ u.lastSeq := UInt64.not_lt.mp hrange
    cases Level.firstNegative? (u.bids ++ u.asks) <;> simp [hrange, hle]

/-- The changes of an update that has passed are its entries, none below zero. -/
theorem nonneg_of_ofUpdate_eq_ok {u : BookUpdate} {b : Batch} (h : ofUpdate u = .ok b)
    (side : Side) : ∀ x ∈ b.changes side, 0 ≤ x.size.value := by
  obtain ⟨-, hsizes, rfl⟩ := ofUpdate_eq_ok h
  intro x hx
  cases side with
  | bid => exact hsizes x (List.mem_append_left _ hx)
  | ask => exact hsizes x (List.mem_append_right _ hx)

end Batch

/-! ### Records -/

theorem Level.nonneg_size_recorded (x : Level) : 0 ≤ x.recorded.size.value := by
  rw [recorded]
  split
  · rename_i hpositive
    exact (Decimal.isPositive_iff_value.mp hpositive).le
  · exact Decimal.value_zero.ge

theorem Levels.nonneg_of_mem_applyAll_snd {side : Side} {l : Levels side} {xs : List Level}
    {x : Level} (hx : x ∈ (l.applyAll xs).2) : 0 ≤ x.size.value := by
  rw [applyAll_snd] at hx
  obtain ⟨e, -, rfl⟩ := List.mem_map.mp hx
  exact e.2.nonneg_size_recorded

/-! ### Updates that are told -/

namespace Coordinator

variable {c : Coordinator} {batch : Batch} {update : Update}

theorem Applies.exists_updateBy {r : Coordinator × Outcome × Effects} (h : c.Applies batch r)
    (hu : .update update ∈ r.2.2.events) : ∃ book : Book, update = book.updateBy batch := by
  cases h with
  | untracked | discarded => exact absurd hu List.not_mem_nil
  | gapped =>
    rw [(c.resetOnGap_eq _ _ _).2, events_reset] at hu
    exact absurd (List.mem_singleton.mp hu) (by simp)
  | @committed book =>
    rw [events_commit] at hu
    exact ⟨book, Event.update.inj (List.mem_singleton.mp hu)⟩

theorem Processes.exists_updateBy {r : Coordinator × Except FetchError Outcome × Effects}
    (h : c.Processes batch r) (hu : .update update ∈ r.2.2.events) :
    ∃ book : Book, update = book.updateBy batch := by
  refine h.keeps (P := fun _ events => .update update ∈ events →
    ∃ book : Book, update = book.updateBy batch) [] ?_ ?_ ?_ ?_ hu
  · exact fun h => absurd h List.not_mem_nil
  · exact fun h => absurd h List.not_mem_nil
  · -- a snapshot is not an update
    intro book _ _ h
    exact absurd (List.mem_singleton.mp h) (by simp)
  · intro _ _ _ hbefore happ h
    rcases List.mem_append.mp h with h | h
    · exact hbefore h
    · exact happ.exists_updateBy h

end Coordinator

namespace Feed

/-- The update comes from the batch of a frame that has been checked. -/
structure Admitted (text : String) (update : Update) : Prop where
  batch : ∃ (u : BookUpdate) (b : Batch) (book : Book), Batch.ofUpdate u = .ok b ∧
    Content.parse text = .ok (.batch { b with raw := some text }) ∧ b.firstSeq ≤ b.lastSeq ∧
    (∀ side, ∀ x ∈ b.changes side, 0 ≤ x.size.value) ∧
    update = book.updateBy { b with raw := some text }
  sizes : ∀ side, ∀ x ∈ update.delta.changes side, 0 ≤ x.size.value

/-- A frame yields a batch only if its update has passed. -/
theorem exists_ofUpdate_of_parse {text : String} {batch : Batch}
    (h : Content.parse text = .ok (.batch batch)) :
    ∃ u b, Batch.ofUpdate u = .ok b ∧ batch = { b with raw := some text } := by
  have hk := Content.kinds text
  rw [h] at hk
  generalize hr : Except.ok (Content.batch batch) = r at hk
  cases hk with
  | malformed | venueError | ack | noChannel => exact absurd hr (by simp)
  | @carried e channel =>
    by_cases hc : channel = .bookUpdate
    · obtain ⟨u, b, -, hb, hbatch⟩ := Content.onChannel_bookUpdate (hc ▸ hr.symm)
      exact ⟨u, b, hb, Content.batch.inj hbatch⟩
    · exact absurd (Content.onChannel_market hc hr.symm).1 (by simp [Content.batch?])

theorem Admitted.of_parse {text : String} {batch : Batch} {book : Book}
    (h : Content.parse text = .ok (.batch batch)) : Admitted text (book.updateBy batch) := by
  obtain ⟨u, b, hb, rfl⟩ := exists_ofUpdate_of_parse h
  have hsizes := Batch.nonneg_of_ofUpdate_eq_ok hb
  obtain ⟨hrange, -, rfl⟩ := Batch.ofUpdate_eq_ok hb
  refine ⟨⟨u, _, book, hb, h, hrange, hsizes, rfl⟩, fun side x hx => ?_⟩
  change x ∈ (book.apply _).2.changes side at hx
  rw [Book.changes_apply_snd] at hx
  exact Levels.nonneg_of_mem_applyAll_snd hx

/-- **The step.** A frame with a batch tells of what the batch does, and other
frames tell of the market at most. -/
theorem handle_admits (f : Feed) {text : String} {update : Update}
    (hu : .update update ∈ (f.handle text).2.2.events) : Admitted text update := by
  cases hb : batchOf? (Content.parse text) with
  | none =>
    rw [(handle_of_batchOf?_eq_none hb).2.1] at hu
    cases hparse : Content.parse text with
    | error e =>
      rw [hparse] at hu
      exact absurd hu List.not_mem_nil
    | ok content =>
      rw [hparse] at hu
      exact absurd (Content.not_ofBook hparse _ hu) (by simp [Event.ofBook])
  | some batch =>
    rw [(handle_of_batchOf?_eq_some hb).2.1] at hu
    obtain ⟨book, rfl⟩ := (f.coordinator.processes batch).exists_updateBy hu
    exact .of_parse (parse_of_batchOf?_eq_some hb)

theorem handleAll_admits (f : Feed) {frames : List String} {update : Update}
    (hu : .update update ∈ (f.handleAll frames).2.events) :
    ∃ text ∈ frames, Admitted text update := by
  induction frames generalizing f with
  | nil => exact absurd hu List.not_mem_nil
  | cons text rest ih =>
    rw [(f.handleAll_cons text rest).2, Effects.append_events] at hu
    rcases List.mem_append.mp hu with hu | hu
    · exact ⟨text, List.mem_cons_self, f.handle_admits hu⟩
    · obtain ⟨later, hlater, hadmitted⟩ := ih _ hu
      exact ⟨later, List.mem_cons_of_mem text hlater, hadmitted⟩

/-- A run tells nothing but what the frames do that it has taken. -/
theorem run_admits (f : Feed) {inbound : List String} {update : Update}
    (hu : .update update ∈ (f.run inbound).effects.events) :
    ∃ text ∈ f.backlog ++ inbound, Admitted text update := by
  obtain ⟨taken, hrun⟩ := f.run_runsTo inbound
  rw [hrun.events, List.nil_append] at hu
  obtain ⟨text, htext, hadmitted⟩ := handleAll_admits _ hu
  rw [hrun.split]
  exact ⟨text, List.mem_append_left _ htext, hadmitted⟩

/-- **Only checked updates get to the books.** An update passes exactly if its
range does not end before it starts and no size is below zero, and nothing of it is
lost. One that does not pass is refused for its range, or for the first size below
zero, bids first. So each update that a feed tells, of one frame or in a run, comes
from such a batch, and no size in its record is below zero. -/
theorem tells_checked_updates :
    (∀ u, (∃ b, Batch.ofUpdate u = .ok b) ↔
      u.firstSeq ≤ u.lastSeq ∧ ∀ x ∈ u.bids ++ u.asks, 0 ≤ x.size.value) ∧
    (∀ u b, Batch.ofUpdate u = .ok b →
      b = ⟨u.symbol, u.firstSeq, u.lastSeq, u.timestamp, u.bids, u.asks, none⟩) ∧
    (∀ u e, Batch.ofUpdate u = .error e ↔
      (u.lastSeq < u.firstSeq ∧ .invertedRange u.firstSeq u.lastSeq = e) ∨
        (u.firstSeq ≤ u.lastSeq ∧ ∃ before x after, u.bids ++ u.asks = before ++ x :: after ∧
          (∀ y ∈ before, 0 ≤ y.size.value) ∧ x.size.value < 0 ∧
          .negativeSize x.size x.price = e)) ∧
    (∀ (f : Feed) text update, .update update ∈ (f.handle text).2.2.events →
      Admitted text update) ∧
    ∀ (f : Feed) inbound update, .update update ∈ (f.run inbound).effects.events →
      ∃ text ∈ f.backlog ++ inbound, Admitted text update := by
  refine ⟨fun u => Batch.exists_ofUpdate_eq_ok_iff, fun u b hb => ?_,
    fun u e => Batch.ofUpdate_eq_error_iff, ?_, ?_⟩
  · obtain ⟨-, -, hb⟩ := Batch.ofUpdate_eq_ok hb
    exact hb
  · exact fun f text update hu => f.handle_admits hu
  · exact fun f inbound update hu => f.run_admits hu

open Decimal in
/-- An update with a zero that has a minus and a zero that has none. -/
def signedUpdate : BookUpdate :=
  ⟨0, "X", 1, 1, [⟨ofCoeff 9 0, zero.neg⟩], [⟨ofCoeff 10 0, zero⟩]⟩

open Decimal in
/-- A bid and two asks with sizes below zero, in a range that ends before it starts. -/
def spoiledUpdate : BookUpdate :=
  ⟨0, "X", 2, 1, [⟨ofCoeff 9 0, ofCoeff (-1) 0⟩],
    [⟨ofCoeff 10 0, ofCoeff (-2) 0⟩, ⟨ofCoeff 11 0, ofCoeff (-3) 0⟩]⟩

/-- A frame that sets one level and takes away another, which is not there. -/
def levelsUpdate : String :=
  "[1,\"futures.order_book_update\",\"update\",null,[1,\"X\",1,1,[[9,1]],[[10,0]]]]"

open Decimal in
theorem tells_checked_updates_signed :
    (∃ b, Batch.ofUpdate signedUpdate = .ok b ∧ b.bids = signedUpdate.bids) ∧
    Batch.ofUpdate spoiledUpdate = .error (.invertedRange 2 1) ∧
    Batch.ofUpdate { spoiledUpdate with lastSeq := 2 } =
      .error (.negativeSize (ofCoeff (-1) 0) (ofCoeff 9 0)) ∧
    Batch.ofUpdate { spoiledUpdate with lastSeq := 2, bids := signedUpdate.bids } =
      .error (.negativeSize (ofCoeff (-2) 0) (ofCoeff 10 0)) ∧
    ∃ update, .update update ∈
        ((new (.new freshSource .global)).handle levelsUpdate).2.2.events ∧
      update.delta = ⟨[⟨ofCoeff 9 0, ofCoeff 1 0⟩], []⟩ ∧ Admitted levelsUpdate update := by
  obtain ⟨hpasses, hkept, hrefused, htold, -⟩ := tells_checked_updates
  have hchars : levelsUpdate.toList = ['[', '1', ',', '"', 'f', 'u', 't', 'u', 'r', 'e', 's', '.',
      'o', 'r', 'd', 'e', 'r', '_', 'b', 'o', 'o', 'k', '_', 'u', 'p', 'd', 'a', 't', 'e', '"', ',',
      '"', 'u', 'p', 'd', 'a', 't', 'e', '"', ',', 'n', 'u', 'l', 'l', ',', '[', '1', ',', '"', 'X',
      '"', ',', '1', ',', '1', ',', '[', '[', '9', ',', '1', ']', ']', ',', '[', '[', '1', '0', ',',
      '0', ']', ']', ']', ']'] := by simp [levelsUpdate]
  have hparse : Content.parse levelsUpdate = .ok (.batch ⟨"X", 1, 1, 1,
      [⟨ofCoeff 9 0, ofCoeff 1 0⟩], [⟨ofCoeff 10 0, zero⟩], some levelsUpdate⟩) := by
    rw [Content.parse, Envelope.parse, Json.ofText?, hchars]
    rfl
  refine ⟨?_, ?_, ?_, ?_, ?_⟩
  · -- both zeros count as zero
    have hsizes : ∀ x ∈ signedUpdate.bids ++ signedUpdate.asks, 0 ≤ x.size.value := by
      decide +kernel
    obtain ⟨b, hb⟩ := (hpasses signedUpdate).mpr ⟨by decide, hsizes⟩
    have hbids : b.bids = signedUpdate.bids := by rw [hkept signedUpdate b hb]
    exact ⟨b, hb, hbids⟩
  · exact (hrefused spoiledUpdate _).mpr (Or.inl ⟨by decide, rfl⟩)
  · refine (hrefused { spoiledUpdate with lastSeq := 2 } _).mpr (Or.inr ⟨by decide, ?_⟩)
    exact ⟨[], _, _, rfl, by simp, by decide +kernel, rfl⟩
  · refine (hrefused { spoiledUpdate with lastSeq := 2, bids := signedUpdate.bids } _).mpr
      (Or.inr ⟨by decide, ?_⟩)
    exact ⟨signedUpdate.bids, _, _, rfl, by decide +kernel, by decide +kernel, rfl⟩
  · have hevents : ∃ update, .update update ∈
        ((new (.new freshSource .global)).handle levelsUpdate).2.2.events ∧
          update.delta = ⟨[⟨ofCoeff 9 0, ofCoeff 1 0⟩], []⟩ := by
      rw [handle, hparse]
      exact ⟨_, List.mem_cons_of_mem _ List.mem_cons_self, rfl⟩
    obtain ⟨update, hupdate, hdelta⟩ := hevents
    exact ⟨update, hupdate, hdelta, htold _ _ _ hupdate⟩

end Feed

end BookSync
