/-
Where the cursor of a book can move.

A book that follows the stream takes a batch by its first id alone, and its
cursor becomes the last one. A batch in order therefore leads forwards, and a
batch for another contract can at most drop the book.

* `Applies.keptUpTo` and `Applies.not_keptUpTo`: the step, for batches that do not
  lead back and for those that do;
* `keptUpTo_iff_not_leadsBack`: of all batches, in order or not, the only ones
  that lead the book of their contract backwards start right behind its cursor
  and end before it;
* `inverted_leads_back`: such a batch does so.

A batch of this kind ends before it starts (`LeadsBack.inverted`). Ranges are
looked at where a message becomes a batch, and it does not pass there
(`not_leadsBack_of_ofUpdate`); the verdict does not look at the last id again.
-/
import BookSync.Proofs.Sync.Isolation

namespace BookSync

/-- The batch continues a book at its cursor, but ends before it. -/
structure Batch.LeadsBack (batch : Batch) (book : Book) : Prop where
  first : batch.firstSeq = Verdict.next book.cursor
  last : batch.lastSeq < book.cursor

theorem Batch.LeadsBack.inverted {batch : Batch} {book : Book} (h : batch.LeadsBack book) :
    batch.lastSeq < batch.firstSeq := by
  have hlast := UInt64.lt_iff_toNat_lt.mp h.last
  have hnext := Verdict.toNat_next book.cursor
  have hcursor := book.cursor.toNat_lt
  rw [UInt64.lt_iff_toNat_lt, h.first]
  rw [UInt64.size] at hnext
  omega

/-- A batch of a message leads no book backwards. -/
theorem Batch.not_leadsBack_of_ofUpdate {u : BookUpdate} {batch : Batch}
    (h : Batch.ofUpdate u = .ok batch) (book : Book) : ¬ batch.LeadsBack book := by
  obtain ⟨hrange, -, rfl⟩ := ofUpdate_eq_ok h
  exact fun hback => UInt64.not_lt.mpr hrange hback.inverted

namespace Coordinator

/-- A contract has no book any more, or one that does not stand before `cursor`. -/
def KeptUpTo (c : Coordinator) (symbol : String) (cursor : SequenceId) : Prop :=
  c.book? symbol = none ∨ ∃ book, c.book? symbol = some book ∧ cursor ≤ book.cursor

variable {c : Coordinator} {symbol : String} {book : Book} {batch : Batch}

theorem keptUpTo_iff_forall {cursor : SequenceId} :
    c.KeptUpTo symbol cursor ↔ ∀ b, c.book? symbol = some b → cursor ≤ b.cursor := by
  rw [KeptUpTo]
  cases c.book? symbol with
  | none => simp
  | some b => simp

theorem keptUpTo_of_book?_eq_some (h : c.book? symbol = some book) :
    c.KeptUpTo symbol book.cursor :=
  Or.inr ⟨book, h, UInt64.le_refl book.cursor⟩

/-- **The step forwards.** A batch that does not lead back leaves a book at its
cursor or beyond, if it leaves one. -/
theorem Applies.keptUpTo {r : Coordinator × Outcome × Effects} (happ : c.Applies batch r)
    (hbook : c.book? symbol = some book) (hs : book.state = .synced)
    (hback : ¬ (batch.symbol = symbol ∧ batch.LeadsBack book)) :
    r.1.KeptUpTo symbol book.cursor := by
  rw [keptUpTo_iff_forall]
  intro b hb
  rcases happ.of_book? hb with hb | ⟨hsymbol, book', bridge, hbook', hv, rfl⟩
  · obtain rfl := Option.some_inj.mp (hbook.symm.trans hb)
    exact UInt64.le_refl _
  · obtain rfl := Option.some_inj.mp (hbook.symm.trans hbook')
    have hfirst : batch.firstSeq = Verdict.next book.cursor := by
      cases bridge with
      | true => exact absurd ((Verdict.evaluate_eq_bridge_iff.mp hv).1.symm.trans hs) (by simp)
      | false => exact (Verdict.evaluate_eq_apply_iff.mp hv).2
    rw [Book.cursor_after]
    exact UInt64.not_lt.mp fun hlast => hback ⟨hsymbol, hfirst, hlast⟩

/-- **The step backwards.** A batch of the contract that leads back is applied,
and its last id is the cursor then. -/
theorem Applies.not_keptUpTo {r : Coordinator × Outcome × Effects} (happ : c.Applies batch r)
    (hbook : c.book? batch.symbol = some book) (hs : book.state = .synced)
    (hback : batch.LeadsBack book) : ¬ r.1.KeptUpTo batch.symbol book.cursor := by
  have happly : book.check batch.firstSeq batch.lastSeq = .apply :=
    Verdict.evaluate_eq_apply_iff.mpr ⟨hs, hback.first⟩
  cases happ with
  | untracked hb => exact absurd (hb.symm.trans hbook) (by simp)
  | discarded hb hawaits =>
    obtain rfl := Option.some_inj.mp (hb.symm.trans hbook)
    exact absurd (hawaits.symm.trans hs) (by simp)
  | gapped hb hv =>
    obtain rfl := Option.some_inj.mp (hb.symm.trans hbook)
    exact absurd (hv.symm.trans happly) (by simp)
  | @committed book' bridge hb =>
    obtain rfl := Option.some_inj.mp (hb.symm.trans hbook)
    intro hkept
    have hle := keptUpTo_iff_forall.mp hkept (book'.after batch)
      ((c.book?_commit book' batch bridge batch.symbol).trans (if_pos rfl))
    exact UInt64.not_lt.mpr hle hback.last

theorem Applies.keptUpTo_iff {r : Coordinator × Outcome × Effects} (happ : c.Applies batch r)
    (hbook : c.book? symbol = some book) (hs : book.state = .synced) :
    r.1.KeptUpTo symbol book.cursor ↔ ¬ (batch.symbol = symbol ∧ batch.LeadsBack book) := by
  constructor
  · rintro hkept ⟨rfl, hback⟩
    exact happ.not_keptUpTo hbook hs hback hkept
  · exact happ.keptUpTo hbook hs

theorem Processes.keptUpTo_iff {r : Coordinator × Except FetchError Outcome × Effects}
    (hp : c.Processes batch r) (hbook : c.book? symbol = some book) (hs : book.state = .synced)
    (hsource : c.fetcher.source.KeepsApart symbol) :
    r.1.KeptUpTo symbol book.cursor ↔ ¬ (batch.symbol = symbol ∧ batch.LeadsBack book) := by
  -- a batch that fetches is one of another contract
  have hother : c.book? batch.symbol = none → batch.symbol ≠ symbol := by
    rintro hnone rfl
    exact absurd (hnone.symm.trans hbook) (by simp)
  cases hp with
  | tracked _ happ => exact happ.keptUpTo_iff hbook hs
  | failed hb =>
    have hkept : (c.fetched batch.symbol).KeptUpTo symbol book.cursor :=
      keptUpTo_of_book?_eq_some (c := c.fetched batch.symbol) hbook
    exact ⟨fun _ h => hother hb h.1, fun _ => hkept⟩
  | @fetched fetched r hb ha happ =>
    have hfetched : fetched.symbol ≠ symbol := fun h => hother hb (hsource _ _ _ ha h)
    refine happ.keptUpTo_iff ?_ hs
    rw [book?_install, if_neg hfetched]
    exact hbook

/-- **The cursor of a book that follows the stream.** Whatever batch is applied
or processed, the book is dropped or stands no further back than before, unless
the batch is one of its own that leads back. Such a batch is inverted, and no
message yields one. -/
theorem keptUpTo_iff_not_leadsBack (c : Coordinator) {symbol : String} {book : Book}
    (hbook : c.book? symbol = some book) (hs : book.state = .synced)
    (hsource : c.fetcher.source.KeepsApart symbol) (batch : Batch) :
    ((c.apply batch).1.KeptUpTo symbol book.cursor ↔
        ¬ (batch.symbol = symbol ∧ batch.LeadsBack book)) ∧
      ((c.process batch).1.KeptUpTo symbol book.cursor ↔
        ¬ (batch.symbol = symbol ∧ batch.LeadsBack book)) ∧
      (batch.LeadsBack book → batch.lastSeq < batch.firstSeq) ∧
      ∀ u, Batch.ofUpdate u = .ok batch → ¬ batch.LeadsBack book :=
  ⟨(c.applies batch).keptUpTo_iff hbook hs, (c.processes batch).keptUpTo_iff hbook hs hsource,
    Batch.LeadsBack.inverted, fun _ hu => Batch.not_leadsBack_of_ofUpdate hu book⟩

/-- A coordinator whose book follows the stream up to step 7. -/
def following : Coordinator := (new freshSource .global).after [.process (gapBatch 1 7)]

/-- The batch behind it leads forwards. -/
theorem keptUpTo_iff_not_leadsBack_following :
    ∃ book, following.book? "X" = some book ∧ book.state = .synced ∧ book.cursor = 7 ∧
      following.fetcher.source.KeepsApart "X" ∧ ¬ (gapBatch 8 9).LeadsBack book ∧
      (following.process (gapBatch 8 9)).1.KeptUpTo "X" 7 := by
  have hsource := freshSource_answers.keepsApart "X"
  have hback : ∀ book, ¬ (gapBatch 8 9).LeadsBack book :=
    fun book h => absurd h.inverted (by decide)
  refine ⟨_, rfl, rfl, rfl, hsource, hback _, ?_⟩
  exact (keptUpTo_iff_not_leadsBack following rfl rfl hsource (gapBatch 8 9)).2.1.mpr
    fun h => hback _ h.2

/-- **An inverted batch leads back.** It starts right behind the cursor 7, is
applied, and takes the book to 3. -/
theorem inverted_leads_back :
    ∃ book, following.book? "X" = some book ∧ book.state = .synced ∧
      following.fetcher.source.KeepsApart "X" ∧
      ¬ (following.apply (gapBatch 8 3)).1.KeptUpTo "X" book.cursor ∧
      ¬ (following.process (gapBatch 8 3)).1.KeptUpTo "X" book.cursor := by
  refine ⟨_, rfl, rfl, freshSource_answers.keepsApart "X", fun hkept => ?_, fun hkept => ?_⟩
  · exact absurd (keptUpTo_iff_forall.mp hkept _ rfl) (by decide)
  · exact absurd (keptUpTo_iff_forall.mp hkept _ rfl) (by decide)

end Coordinator

end BookSync
