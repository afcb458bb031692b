/-
Copies that miss events.

A listener is handed to each call, so that copies may hear of some calls and not
of others. An update is repeated from its record unless the copy is missing or
has run ahead. A copy that has been left behind is not noticed, and then stays
wrong (`missed_update_unnoticed`): nothing in an update says which update came
before it.

A copy is right as long as nothing has been missed since it was last written as
a whole.

* `Event.Renews`: the events that write a copy as a whole, a snapshot and an
  update that finds no copy or one that has run ahead;
* `Unbroken`: since the last of them all events about the contract were heard;
* `KeepsUp.tells`: the step, an event that is heard or missed;
* `copies_keep_up`: in any run, in which any calls are heard, the copy of a
  contract is equal to its book while what was heard of it is unbroken.

What was missed before does not matter, and neither does what is missed of other
contracts.
-/
import BookSync.Proofs.Sync.Follow

namespace BookSync

/-! ### What is heard -/

/-- The events of a run, each with whether it is heard. A call comes with whether
the copies hear what it tells. -/
def Coordinator.broadcast (c : Coordinator) : List (Call × Bool) → List (Event × Bool)
  | [] => []
  | (call, heard) :: rest =>
    (c.perform call).2.events.map (·, heard) ++ (c.perform call).1.broadcast rest

/-- Copies kept by the events that are heard. -/
def SharedBooks.hearing (told : List (Event × Bool)) : SharedBooks :=
  SharedBooks.empty.observeAll ((told.filter (·.2)).map (·.1))

namespace Event

/-- The event tells something about a contract. -/
def About (symbol : String) : Event → Prop
  | .snapshot book => book.symbol = symbol
  | .update u => u.book.symbol = symbol
  | .reset symbols => symbol ∈ symbols
  | .ticker _ | .trade _ | .candle _ | .funding _ => False

/-- The event makes copies take over the whole book of a contract: a snapshot, or
an update that finds no copy or one that has run ahead. -/
def Renews (symbol : String) (s : SharedBooks) : Event → Prop
  | .snapshot book => book.symbol = symbol
  | .update u => u.book.symbol = symbol ∧
      ∀ copy, s.get? symbol = some copy → u.sequenceId < copy.cursor
  | _ => False

theorem Renews.about {symbol : String} {s : SharedBooks} {e : Event} (h : e.Renews symbol s) :
    e.About symbol := by
  cases e with
  | snapshot book => exact h
  | update u => exact h.1
  | _ => exact False.elim h

end Event

/-- Since an event that made the copies take over the whole book of a contract,
all that was told about the contract has been heard. -/
def Unbroken (symbol : String) (told : List (Event × Bool)) : Prop :=
  ∃ before e rest, told = before ++ (e, true) :: rest ∧
    e.Renews symbol (SharedBooks.hearing before) ∧ ∀ x ∈ rest, x.1.About symbol → x.2 = true

section

variable {c : Coordinator} {symbol : String} {told : List (Event × Bool)} {e : Event}
  {heard : Bool}

theorem Coordinator.broadcast_concat (c : Coordinator) (turns : List (Call × Bool)) (call : Call)
    (heard : Bool) :
    c.broadcast (turns ++ [(call, heard)]) =
      c.broadcast turns ++ ((c.after (turns.map (·.1))).perform call).2.events.map (·, heard) := by
  induction turns generalizing c with
  | nil => exact List.append_nil _
  | cons turn rest ih =>
    rw [List.cons_append, broadcast, broadcast, ih, List.append_assoc]
    rfl

theorem SharedBooks.hearing_heard (told : List (Event × Bool)) (e : Event) :
    hearing (told ++ [(e, true)]) = (hearing told).observe e := by
  rw [hearing, List.filter_append, List.map_append, observeAll_append]
  rfl

theorem SharedBooks.hearing_missed (told : List (Event × Bool)) (e : Event) :
    hearing (told ++ [(e, false)]) = hearing told := by
  rw [hearing, List.filter_append, List.map_append]
  exact congrArg (SharedBooks.empty.observeAll ·) (List.append_nil _)

theorem SharedBooks.get?_observe_of_not_about (s : SharedBooks) (h : ¬ e.About symbol) :
    (s.observe e).get? symbol = s.get? symbol := by
  cases e with
  | snapshot book => exact (s.get?_observe_snapshot book symbol).trans (if_neg h)
  | update u => exact (s.get?_observe_update u symbol).trans (if_neg h)
  | reset symbols => exact (s.get?_observe_reset symbols symbol).trans (if_neg h)
  | _ => rfl

theorem SharedBooks.get?_hearing_of_not_about (h : ¬ e.About symbol) :
    (hearing (told ++ [(e, heard)])).get? symbol = (hearing told).get? symbol := by
  cases heard with
  | true => rw [hearing_heard, get?_observe_of_not_about _ h]
  | false => rw [hearing_missed]

/-- One more event leaves it unbroken if it renews the copy, or if it is heard
or about something else. -/
theorem unbroken_concat :
    Unbroken symbol (told ++ [(e, heard)]) ↔
      (heard = true ∧ e.Renews symbol (SharedBooks.hearing told)) ∨
        (Unbroken symbol told ∧ (e.About symbol → heard = true)) := by
  constructor
  · rintro ⟨before, e', rest, htold, hrenews, hrest⟩
    rcases List.eq_nil_or_concat' rest with rfl | ⟨rest, x, rfl⟩
    · obtain ⟨rfl, hlast⟩ := List.append_inj' htold rfl
      obtain ⟨rfl, rfl⟩ := Prod.mk.inj (List.singleton_inj.mp hlast)
      exact Or.inl ⟨rfl, hrenews⟩
    · rw [← List.cons_append, ← List.append_assoc] at htold
      obtain ⟨rfl, hlast⟩ := List.append_inj' htold rfl
      obtain rfl := List.singleton_inj.mp hlast
      refine Or.inr ⟨⟨before, e', rest, rfl, hrenews, fun y hy => ?_⟩, ?_⟩
      · exact hrest y (List.mem_append_left _ hy)
      · exact hrest (e, heard) List.mem_concat_self
  · rintro (⟨rfl, hrenews⟩ | ⟨⟨before, e', rest, rfl, hrenews, hrest⟩, hheard⟩)
    · exact ⟨told, e, [], rfl, hrenews, fun x hx => absurd hx List.not_mem_nil⟩
    · refine ⟨before, e', rest ++ [(e, heard)], by rw [List.append_assoc, List.cons_append],
        hrenews, fun x hx => ?_⟩
      rcases List.mem_append.mp hx with hx | hx
      · exact hrest x hx
      · rw [List.mem_singleton.mp hx]
        exact hheard

/-! ### The step -/

/-- The copies of a coordinator, each right while it is unbroken. -/
structure KeepsUp (c : Coordinator) (told : List (Event × Bool)) : Prop where
  keyed : c.Keyed
  copied : ∀ symbol, Unbroken symbol told → ∀ book, c.book? symbol = some book →
    (SharedBooks.hearing told).get? symbol = some book

/-- **The step.** An event is heard or missed. It tells all that has changed, and
makes a copy right that it renews, or that was right before. -/
theorem KeepsUp.tells {c' : Coordinator} (h : KeepsUp c told) (hk : c'.Keyed)
    (hsame : ∀ symbol, ¬ e.About symbol → c'.book? symbol = c.book? symbol)
    (hright : ∀ symbol s, e.About symbol →
      (e.Renews symbol s ∨ ∀ book, c.book? symbol = some book → s.get? symbol = some book) →
      ∀ book, c'.book? symbol = some book → (s.observe e).get? symbol = some book)
    (heard : Bool) : KeepsUp c' (told ++ [(e, heard)]) := by
  refine ⟨hk, fun symbol hunbroken book hbook => ?_⟩
  rw [unbroken_concat] at hunbroken
  by_cases habout : e.About symbol
  · have hheard : heard = true := hunbroken.elim (·.1) (·.2 habout)
    have hbefore : e.Renews symbol (SharedBooks.hearing told) ∨
        ∀ book, c.book? symbol = some book → (SharedBooks.hearing told).get? symbol = some book :=
      hunbroken.imp (·.2) fun hold => h.copied symbol hold.1
    rw [hheard, SharedBooks.hearing_heard]
    exact hright symbol _ habout hbefore book hbook
  · rcases hunbroken with ⟨-, hrenews⟩ | ⟨hold, -⟩
    · exact absurd hrenews.about habout
    · rw [SharedBooks.get?_hearing_of_not_about habout]
      exact h.copied symbol hold book (hsame symbol habout ▸ hbook)

theorem KeepsUp.install (h : KeepsUp c told) (book : Book) (heard : Bool) :
    KeepsUp (c.install book).1 (told ++ [(.snapshot book, heard)]) := by
  refine h.tells (h.keyed.install book) (fun symbol hne => ?_) ?_ heard
  · exact (c.book?_install book symbol).trans (if_neg hne)
  · intro symbol s habout _ book' hbook
    have hsymbol : book.symbol = symbol := habout
    rw [Coordinator.book?_install, if_pos hsymbol] at hbook
    rw [SharedBooks.get?_observe_snapshot, if_pos hsymbol, hbook]

theorem KeepsUp.reset (h : KeepsUp c told) (gapped : String) (heard : Bool) :
    KeepsUp (c.reset gapped).1 (told ++ [(.reset (c.clearedBy gapped), heard)]) := by
  refine h.tells (h.keyed.reset gapped) (fun symbol hne => ?_) ?_ heard
  · exact (c.book?_reset gapped symbol).trans (if_neg hne)
  · intro symbol s habout _ book hbook
    have hnone := (c.book?_reset gapped symbol).trans (if_pos habout)
    exact absurd (hnone.symm.trans hbook) (by simp)

/-- An update that renews a copy, or finds a copy of the book before it, leaves a
copy of the book after it. -/
theorem SharedBooks.updated_of_renews_or {s : SharedBooks} {book : Book} {batch : Batch}
    (h : (Event.update (book.updateBy batch)).Renews symbol s ∨ s.get? symbol = some book) :
    updated (s.get? symbol) (book.updateBy batch) = book.after batch := by
  rcases h with ⟨-, hahead⟩ | hcopy
  · cases hcopy : s.get? symbol with
    | none => rfl
    | some copy => exact if_neg (UInt64.not_le.mpr (hahead copy hcopy))
  · rw [hcopy, updated_eq_after]

theorem KeepsUp.commit (h : KeepsUp c told) {book : Book} {batch : Batch} (bridge : Bool)
    (hbook : c.book? batch.symbol = some book) (hk : (c.commit book batch bridge).1.Keyed)
    (heard : Bool) :
    KeepsUp (c.commit book batch bridge).1 (told ++ [(.update (book.updateBy batch), heard)]) := by
  have hsymbol : (book.updateBy batch).book.symbol = batch.symbol := h.keyed _ book hbook
  refine h.tells hk (fun symbol hne => ?_) ?_ heard
  · have hother : batch.symbol ≠ symbol := fun hs => hne (hsymbol.trans hs)
    rw [Coordinator.book?_commit, if_neg hother]
  · intro symbol s habout hbefore book' hbook'
    obtain rfl : batch.symbol = symbol := hsymbol.symm.trans habout
    rw [Coordinator.book?_commit, if_pos rfl] at hbook'
    have hupdated := SharedBooks.updated_of_renews_or (s := s)
      (hbefore.imp_right fun hcopied => hcopied book hbook)
    rw [SharedBooks.get?_observe_update, hsymbol, if_pos rfl, hupdated, hbook']

/-! ### Calls and runs -/

theorem KeepsUp.applies (h : KeepsUp c told) {batch : Batch} {r : Coordinator × Outcome × Effects}
    (happ : c.Applies batch r) (heard : Bool) :
    KeepsUp r.1 (told ++ r.2.2.events.map (·, heard)) := by
  have hk := h.keyed.applies happ
  cases happ with
  | untracked =>
    show KeepsUp c (told ++ [])
    rwa [List.append_nil]
  | discarded =>
    show KeepsUp _ (told ++ [])
    rw [List.append_nil]
    exact ⟨h.keyed, h.copied⟩
  | gapped => exact h.reset batch.symbol heard
  | @committed book bridge hb => exact h.commit bridge hb hk heard

theorem KeepsUp.processes (h : KeepsUp c told) {batch : Batch}
    {r : Coordinator × Except FetchError Outcome × Effects} (hp : c.Processes batch r)
    (heard : Bool) : KeepsUp r.1 (told ++ r.2.2.events.map (·, heard)) := by
  have hstart : KeepsUp c (told ++ []) := by rwa [List.append_nil]
  have hfetched : KeepsUp (c.fetched batch.symbol) (told ++ []) := ⟨hstart.keyed, hstart.copied⟩
  refine hp.keeps (P := fun c events => KeepsUp c (told ++ events.map (·, heard))) [] hstart
    hfetched ?_ ?_
  · intro book _ _
    have hinstall := hfetched.install book heard
    rwa [List.append_nil] at hinstall
  · intro c' events r h happ
    rw [List.map_append, ← List.append_assoc]
    exact h.applies happ heard

theorem KeepsUp.perform (h : KeepsUp c told) (call : Call) (heard : Bool) :
    KeepsUp (c.perform call).1 (told ++ (c.perform call).2.events.map (·, heard)) := by
  cases call with
  | process batch => exact h.processes (c.processes batch) heard
  | install book => exact h.install book heard
  | apply batch => exact h.applies (c.applies batch) heard
  | reset symbol => exact h.reset symbol heard
  | clear => exact ⟨c.keyed_clear, fun _ _ _ hb => absurd hb (by simp [Coordinator.perform])⟩

end

namespace Coordinator

theorem keepsUp_broadcast (source : Source) (scope : ResetScope) (turns : List (Call × Bool)) :
    KeepsUp ((new source scope).after (turns.map (·.1)))
      ((new source scope).broadcast turns) := by
  induction turns using List.reverseRecOn with
  | nil => exact ⟨keyed_new source scope, fun _ _ _ hb => absurd hb (by simp [after])⟩
  | append_singleton turns turn ih =>
    obtain ⟨call, heard⟩ := turn
    rw [List.map_append, List.map_singleton, after_concat, broadcast_concat]
    exact ih.perform call heard

/-- **Copies that hear of some calls.** Whichever calls of a run are heard, the
copy of a contract is equal to its book wherever all that was told about it has
been heard since the copy last took over a whole book. -/
theorem copies_keep_up (source : Source) (scope : ResetScope) (turns : List (Call × Bool))
    {symbol : String} (hu : Unbroken symbol ((new source scope).broadcast turns)) {book : Book}
    (hb : ((new source scope).after (turns.map (·.1))).book? symbol = some book) :
    (SharedBooks.hearing ((new source scope).broadcast turns)).get? symbol = some book :=
  (keepsUp_broadcast source scope turns).copied symbol hu book hb

end Coordinator

/-! ### A snapshot and an update that are missed -/

/-- A source that never answers. -/
def silentSource : Source := ⟨fun _ _ => .error .transport, fun _ _ => 0⟩

/-- A batch of one step, after which a size of 1 is on offer at a price. -/
def offerBatch (step : SequenceId) (price : ℕ) : Batch :=
  ⟨"X", step, step, 0, [⟨.ofCoeff price 0, .ofCoeff 1 0⟩], [], none⟩

/-- A snapshot and two updates, where the first update is missed. -/
def missedTurns : List (Call × Bool) :=
  [(.install (.empty "X" 0), true), (.apply (offerBatch 1 100), false),
    (.apply (offerBatch 2 101), true)]

/-- The same, where the snapshot is missed. -/
def lateTurns : List (Call × Bool) :=
  [(.install (.empty "X" 0), false), (.apply (offerBatch 1 100), true),
    (.apply (offerBatch 2 101), true)]

namespace Coordinator

/-- The first update finds no copy and the second one a copy of the book. -/
theorem copies_keep_up_late :
    Unbroken "X" ((new silentSource .global).broadcast lateTurns) ∧
      ∃ book, ((new silentSource .global).after (lateTurns.map (·.1))).book? "X" = some book ∧
        book.bids.size = 2 ∧
        (SharedBooks.hearing ((new silentSource .global).broadcast lateTurns)).get? "X" =
          some book := by
  have hu : Unbroken "X" ((new silentSource .global).broadcast lateTurns) :=
    ⟨[_], _, [_], rfl, ⟨rfl, fun _ hcopy => nomatch hcopy⟩,
      fun _ hx _ => List.mem_singleton.mp hx ▸ rfl⟩
  obtain ⟨book, hbook, hsize⟩ : ∃ book,
      ((new silentSource .global).after (lateTurns.map (·.1))).book? "X" = some book ∧
        book.bids.size = 2 := ⟨_, rfl, rfl⟩
  exact ⟨hu, book, hbook, hsize, copies_keep_up silentSource .global lateTurns hu hbook⟩

/-- **A missed update goes unnoticed.** The second update is heard and repeated
on a copy that has not seen the first one. The copy then stands where the book
stands, and lacks a level. -/
theorem missed_update_unnoticed :
    ∃ book copy u,
      ((new silentSource .global).after (missedTurns.map (·.1))).book? "X" = some book ∧
      ((new silentSource .global).broadcast missedTurns).getLast? = some (.update u, true) ∧
      u.book = book ∧
      (SharedBooks.hearing ((new silentSource .global).broadcast missedTurns)).get? "X" =
        some copy ∧
      copy.cursor = book.cursor ∧ copy.state = book.state ∧ copy ≠ book := by
  refine ⟨_, _, _, rfl, rfl, rfl, rfl, rfl, rfl, fun h => ?_⟩
  have hsize := congrArg (fun b : Book => b.bids.size) h
  exact absurd hsize (by decide)

end Coordinator

end BookSync
