/-
Contracts do not disturb each other.

What a contract sees of a run is its `View`: what comes of its own batches, what
is told about it, and the book that it has in the end. The batches of other
contracts may be anything and come at any time, the view stays the same.

* `Alike`: two coordinators that a contract cannot tell apart. Its own batches
  keep them so, and look the same from both (`Alike.process`);
* `Alike.process_other`: a batch of another contract leads to a coordinator
  that cannot be told apart from the one before, and tells nothing;
* `Alike.view_eq`: so a run looks as if the other batches had not been there;
* `isolated`: two runs with the same batches of a contract look the same.

If a gap drops all books, then this is the one way in which contracts touch each
other. Isolation holds up to the first such gap, but a reset then names other
contracts, too, so that outcomes are compared as far as they concern the
contract (`Outcome.seenBy`). That they do differ in the other names is shown by
`reset_names_others`.
-/
import BookSync.Proofs.Sync.Protocol

namespace BookSync

/-- A source does not answer the fetch for another contract with a book of this
one. -/
def Source.KeepsApart (source : Source) (symbol : String) : Prop :=
  ∀ other k book, source.answer other k = .ok book → book.symbol = symbol → other = symbol

theorem Source.Answers.keepsApart {source : Source} (h : source.Answers) (symbol : String) :
    source.KeepsApart symbol :=
  fun other k book ha hbook => (h other k book ha).1.symm.trans hbook

/-- An outcome as far as it concerns a contract. A reset of all books says
which others it has dropped, and of this only the name of the contract counts. -/
def Outcome.seenBy (symbol : String) : ResetScope → Outcome → Outcome
  | .global, .reset cleared => .reset (if symbol ∈ cleared then [symbol] else [])
  | _, outcome => outcome

/-- What a contract sees of a run. -/
structure View where
  /-- What has come of its batches. -/
  results : List (Except FetchError Outcome)
  /-- What has been told about it. -/
  told : List Entry
  /-- The book that it has in the end. -/
  book : Option Book

namespace Coordinator

/-- What comes of the batches for a contract. -/
def resultsFor (c : Coordinator) (symbol : String) (batches : List Batch) :
    List (Except FetchError Outcome) :=
  ((c.results batches).filter (·.1.symbol = symbol)).map (·.2)

/-- What a contract sees when batches are processed. -/
def view (c : Coordinator) (symbol : String) (batches : List Batch) : View where
  results := (c.resultsFor symbol batches).map (·.map (·.seenBy symbol c.scope))
  told := c.told symbol (batches.map .process)
  book := (c.after (batches.map .process)).book? symbol

/-- Of the batches only those for one contract are answered with resets. -/
def ResetsOnly (c : Coordinator) (symbol : String) (batches : List Batch) : Prop :=
  ∀ entry ∈ c.results batches, ∀ cleared, entry.2 = .ok (.reset cleared) → entry.1.symbol = symbol

/-- Two coordinators that a contract cannot tell apart. -/
structure Alike (symbol : String) (c c' : Coordinator) : Prop where
  scope : c.scope = c'.scope
  book : c.book? symbol = c'.book? symbol
  answer : c.fetcher.source.answer symbol = c'.fetcher.source.answer symbol
  count : c.fetcher.count symbol = c'.fetcher.count symbol

/-! ### The view of a run, batch by batch -/

/-- What the events of a batch tell about a contract. -/
def tells (c : Coordinator) (symbol : String) (batch : Batch) : List Entry :=
  (c.process batch).2.2.events.flatMap (·.entries batch symbol)

variable {symbol : String} {c c' : Coordinator} {batch : Batch}

theorem view_cons_of_eq (h : batch.symbol = symbol) (rest : List Batch) :
    c.view symbol (batch :: rest) =
      ⟨(c.process batch).2.1.map (·.seenBy symbol c.scope) ::
          ((c.process batch).1.view symbol rest).results,
        c.tells symbol batch ++ ((c.process batch).1.view symbol rest).told,
        ((c.process batch).1.view symbol rest).book⟩ := by
  have hfilter : c.resultsFor symbol (batch :: rest) =
      (c.process batch).2.1 :: (c.process batch).1.resultsFor symbol rest := by
    rw [resultsFor, results, List.filter_cons_of_pos (by simpa using h)]
    rfl
  rw [view, hfilter, view, scope_process]
  rfl

theorem view_cons_of_ne (h : batch.symbol ≠ symbol) (rest : List Batch) :
    c.view symbol (batch :: rest) =
      ⟨((c.process batch).1.view symbol rest).results,
        c.tells symbol batch ++ ((c.process batch).1.view symbol rest).told,
        ((c.process batch).1.view symbol rest).book⟩ := by
  have hfilter : c.resultsFor symbol (batch :: rest) =
      (c.process batch).1.resultsFor symbol rest := by
    rw [resultsFor, results, List.filter_cons_of_neg (by simpa using h)]
    rfl
  rw [view, hfilter, view, scope_process]
  rfl

/-! ### A batch for the contract -/

/-- A gap in the contract itself looks the same, whatever other books there are. -/
theorem seenBy_clearedBy (hscope : c.scope = c'.scope) (hc : (c.book? symbol).isSome = true)
    (hc' : (c'.book? symbol).isSome = true) :
    (Outcome.reset (c.clearedBy symbol)).seenBy symbol c.scope =
      (Outcome.reset (c'.clearedBy symbol)).seenBy symbol c.scope := by
  cases hs : c.scope with
  | global =>
    simp only [Outcome.seenBy]
    rw [if_pos (c.mem_clearedBy_self hc), if_pos (c'.mem_clearedBy_self hc')]
  | perSymbol =>
    have hcontains : c.books.contains symbol = true := hc
    have hcontains' : c'.books.contains symbol = true := hc'
    rw [clearedBy, clearedBy, ← hscope, hs]
    dsimp only
    rw [if_pos hcontains, if_pos hcontains']

theorem Alike.apply (h : Alike symbol c c') (hb : batch.symbol = symbol) :
    Alike symbol (c.apply batch).1 (c'.apply batch).1 ∧
      (c.apply batch).2.1.seenBy symbol c.scope = (c'.apply batch).2.1.seenBy symbol c.scope ∧
      (c.apply batch).2.2.events.flatMap (·.entries batch symbol) =
        (c'.apply batch).2.2.events.flatMap (·.entries batch symbol) := by
  subst hb
  rw [Coordinator.apply, Coordinator.apply, h.book]
  cases hbook : c'.book? batch.symbol with
  | none => exact ⟨h, rfl, rfl⟩
  | some book =>
    dsimp only
    cases book.check batch.firstSeq batch.lastSeq with
    | discard => exact ⟨⟨h.scope, h.book, h.answer, h.count⟩, rfl, rfl⟩
    | gap expected =>
      -- both drop this book and name its contract; other names are not looked at
      have hc' : (c'.book? batch.symbol).isSome = true := by rw [hbook]; rfl
      have hc : (c.book? batch.symbol).isSome = true := by rw [h.book]; exact hc'
      refine ⟨⟨h.scope, ?_, h.answer, h.count⟩, seenBy_clearedBy h.scope hc hc', ?_⟩
      · exact (c.book?_reset_self hc).trans (c'.book?_reset_self hc').symm
      · rw [(c.resetOnGap_eq book batch expected).2, (c'.resetOnGap_eq book batch expected).2,
          c.events_reset, c'.events_reset, List.flatMap_singleton, List.flatMap_singleton,
          Event.entries, Event.entries, if_pos (c.mem_clearedBy_self hc),
          if_pos (c'.mem_clearedBy_self hc')]
    | bridge =>
      refine ⟨⟨h.scope, ?_, h.answer, h.count⟩, rfl, rfl⟩
      rw [book?_commit, book?_commit, if_pos rfl, if_pos rfl]
    | apply =>
      refine ⟨⟨h.scope, ?_, h.answer, h.count⟩, rfl, rfl⟩
      rw [book?_commit, book?_commit, if_pos rfl, if_pos rfl]

theorem Alike.fetched (h : Alike symbol c c') (fetch : String) :
    Alike symbol (c.fetched fetch) (c'.fetched fetch) := by
  refine ⟨h.scope, h.book, h.answer, ?_⟩
  have hcount : ∀ d : Coordinator, (d.fetched fetch).fetcher.count symbol =
      d.fetcher.count symbol + [fetch].count symbol := fun _ => List.count_append
  rw [hcount, hcount, h.count]

theorem Alike.install (h : Alike symbol c c') (book : Book) :
    Alike symbol (c.install book).1 (c'.install book).1 := by
  refine ⟨h.scope, ?_, h.answer, h.count⟩
  rw [book?_install, book?_install, h.book]

/-- **The step of the contract.** A batch for the contract does the same in
coordinators that it cannot tell apart. -/
theorem Alike.process (h : Alike symbol c c') (hb : batch.symbol = symbol) :
    Alike symbol (c.process batch).1 (c'.process batch).1 ∧
      (c.process batch).2.1.map (·.seenBy symbol c.scope) =
        (c'.process batch).2.1.map (·.seenBy symbol c.scope) ∧
      c.tells symbol batch = c'.tells symbol batch := by
  subst hb
  have hneeds : c.needsSnapshot batch.symbol = c'.needsSnapshot batch.symbol := by
    rw [Bool.eq_iff_iff, needsSnapshot_iff, needsSnapshot_iff, h.book]
  have hanswer : c.answer batch.symbol = c'.answer batch.symbol := by
    rw [Coordinator.answer, Coordinator.answer, h.answer, h.count]
  rw [tells, tells, Coordinator.process, Coordinator.process, hneeds, fetch_eq, fetch_eq, hanswer]
  split
  · cases c'.answer batch.symbol with
    | error e => exact ⟨h.fetched _, rfl, rfl⟩
    | ok book =>
      obtain ⟨halike, houtcome, hevents⟩ := ((h.fetched batch.symbol).install book).apply rfl
      refine ⟨halike, congrArg Except.ok houtcome, ?_⟩
      dsimp only
      rw [Effects.append_events, Effects.append_events, List.flatMap_append, List.flatMap_append,
        hevents]
      rfl
  · obtain ⟨halike, houtcome, hevents⟩ := h.apply rfl
    exact ⟨halike, congrArg Except.ok houtcome, hevents⟩

/-! ### A batch for another contract -/

theorem Alike.applies_other {r : Coordinator × Outcome × Effects} (h : Alike symbol c c')
    (hk : c.Keyed) (hb : batch.symbol ≠ symbol) (happ : c.Applies batch r)
    (hr : c.scope = .global → ∀ cleared, r.2.1 ≠ .reset cleared) :
    Alike symbol r.1 c' ∧ r.2.2.events.flatMap (·.entries batch symbol) = [] := by
  cases happ with
  | untracked => exact ⟨h, rfl⟩
  | discarded => exact ⟨⟨h.scope, h.book, h.answer, h.count⟩, rfl⟩
  | @gapped book expected =>
    -- with all books dropped on a gap, there is none by assumption
    have hmem : symbol ∉ c.clearedBy batch.symbol := by
      cases hs : c.scope with
      | global => exact absurd rfl (hr hs (c.clearedBy batch.symbol))
      | perSymbol => exact c.not_mem_clearedBy hs hb
    rw [(c.resetOnGap_eq book batch expected).1, (c.resetOnGap_eq book batch expected).2]
    refine ⟨⟨h.scope, ?_, h.answer, h.count⟩, ?_⟩
    · rw [book?_reset, if_neg hmem, h.book]
    · rw [c.events_reset, List.flatMap_singleton, Event.entries, if_neg hmem]
  | @committed book bridge hbook =>
    have hsymbol : (book.updateBy batch).book.symbol = batch.symbol := hk _ book hbook
    refine ⟨⟨h.scope, ?_, h.answer, h.count⟩, ?_⟩
    · rw [book?_commit, if_neg hb, h.book]
    · rw [c.events_commit, List.flatMap_singleton, Event.entries, hsymbol, if_neg hb]

/-- **The step of the others.** A batch for another contract goes by unseen,
unless it drops all books. -/
theorem Alike.process_other (h : Alike symbol c c') (hk : c.Keyed)
    (hs : c.fetcher.source.KeepsApart symbol) (hb : batch.symbol ≠ symbol)
    (hr : c.scope = .global → ∀ cleared, (c.process batch).2.1 ≠ .ok (.reset cleared)) :
    Alike symbol (c.process batch).1 c' ∧ c.tells symbol batch = [] := by
  have hfetched : Alike symbol (c.fetched batch.symbol) c' := by
    refine ⟨h.scope, h.book, h.answer, ?_⟩
    rw [← h.count]
    show (c.fetcher.fetched ++ [batch.symbol]).count symbol = _
    rw [List.count_append, List.count_singleton, if_neg (by simpa using hb), Nat.add_zero]
    rfl
  rw [tells]
  have hp := c.processes batch
  generalize c.process batch = r at hp hr
  cases hp with
  | tracked _ happ =>
    exact h.applies_other hk hb happ fun hscope cleared ho =>
      hr hscope cleared (congrArg Except.ok ho)
  | failed => exact ⟨hfetched, rfl⟩
  | @fetched book r _ ha happ =>
    -- the book that comes is not one of this contract, and takes no place here
    have hother : book.symbol ≠ symbol := fun hbook => hb (hs _ _ book ha hbook)
    have hinstalled : Alike symbol ((c.fetched batch.symbol).install book).1 c' := by
      refine ⟨hfetched.scope, ?_, hfetched.answer, hfetched.count⟩
      rw [book?_install, if_neg hother, hfetched.book]
    have hkeyed : ((c.fetched batch.symbol).install book).1.Keyed :=
      Keyed.install (c := c.fetched batch.symbol) hk book
    obtain ⟨halike, hevents⟩ := hinstalled.applies_other hkeyed hb happ
      fun hscope cleared ho => hr hscope cleared (congrArg Except.ok ho)
    refine ⟨halike, ?_⟩
    rw [Effects.append_events, List.flatMap_append, hevents, events_install,
      List.flatMap_singleton, Event.entries, if_neg hother]
    rfl

/-! ### Runs -/

/-- **A run looks as if the other batches had not been there.** -/
theorem Alike.view_eq {batches : List Batch} (h : Alike symbol c c') (hk : c.Keyed)
    (hs : c.fetcher.source.KeepsApart symbol)
    (hr : c.scope = .global → c.ResetsOnly symbol batches) :
    c.view symbol batches = c'.view symbol (batches.filter (·.symbol = symbol)) := by
  induction batches generalizing c c' with
  | nil =>
    show View.mk [] [] (c.book? symbol) = View.mk [] [] (c'.book? symbol)
    rw [h.book]
  | cons batch rest ih =>
    have hkeyed : (c.process batch).1.Keyed := hk.processes (c.processes batch)
    have hsource : (c.process batch).1.fetcher.source.KeepsApart symbol := by
      rw [(c.processes batch).source_eq]
      exact hs
    have hrest : (c.process batch).1.scope = .global →
        (c.process batch).1.ResetsOnly symbol rest := by
      rw [scope_process]
      exact fun hscope entry he => hr hscope entry (List.mem_cons_of_mem _ he)
    by_cases hb : batch.symbol = symbol
    · obtain ⟨halike, hresult, htells⟩ := h.process hb
      rw [List.filter_cons_of_pos (by simpa using hb), view_cons_of_eq hb, view_cons_of_eq hb,
        hresult, htells, ih halike hkeyed hsource hrest, h.scope]
    · have hquiet : c.scope = .global → ∀ cleared, (c.process batch).2.1 ≠ .ok (.reset cleared) :=
        fun hscope cleared ho => hb (hr hscope _ List.mem_cons_self cleared ho)
      obtain ⟨halike, htells⟩ := h.process_other hk hs hb hquiet
      rw [List.filter_cons_of_neg (by simpa using hb), view_cons_of_ne hb, htells,
        List.nil_append]
      exact ih halike hkeyed hsource hrest

/-- **Contracts do not disturb each other.** Two runs of new coordinators whose
batches for a contract are the same, and whose sources give it the same answers,
look the same to it: in what comes of its batches, in what is told about it, and
in its book. If gaps drop all books, then no other contract may have had one. -/
theorem isolated {scope : ResetScope} {source source' : Source} {batches batches' : List Batch}
    (hanswer : source.answer symbol = source'.answer symbol)
    (hs : source.KeepsApart symbol) (hs' : source'.KeepsApart symbol)
    (hsame : batches.filter (·.symbol = symbol) = batches'.filter (·.symbol = symbol))
    (hr : scope = .global → (new source scope).ResetsOnly symbol batches ∧
      (new source' scope).ResetsOnly symbol batches') :
    (new source scope).view symbol batches = (new source' scope).view symbol batches' := by
  have halike : Alike symbol (new source' scope) (new source scope) :=
    ⟨rfl, rfl, hanswer.symm, rfl⟩
  rw [Alike.view_eq ⟨rfl, rfl, rfl, rfl⟩ (keyed_new source scope) hs fun h => (hr h).1, hsame,
    halike.view_eq (keyed_new source' scope) hs' fun h => (hr h).2]

end Coordinator

/-! ### What other contracts may change -/

/-- A source that answers with empty books at step 0. -/
def freshSource : Source where
  answer symbol _ := .ok (.empty symbol 0)
  pending _ _ := 0

/-- A source that answers likewise, but for one contract only. -/
def loneSource : Source where
  answer symbol _ := if symbol = "X" then .ok (.empty symbol 0) else .error .transport
  pending _ _ := 0

/-- A batch without changes for another contract. -/
def otherBatch (first last : SequenceId) : Batch := { gapBatch first last with symbol := "Y" }

/-- Two batches of a contract, with a gap between them. -/
def ownBatches : List Batch := [gapBatch 1 1, gapBatch 3 3]

/-- The same among batches for another contract, which have no gap. -/
def mixedBatches : List Batch :=
  [otherBatch 1 1, gapBatch 1 1, otherBatch 2 4, gapBatch 3 3, otherBatch 1 9]

/-- The same, and a batch for another contract that has no book to fetch. -/
def loneBatches : List Batch := otherBatch 7 7 :: ownBatches

theorem freshSource_answers : freshSource.Answers := by
  intro symbol k book h
  obtain rfl := Except.ok.inj h
  exact ⟨rfl, rfl⟩

theorem loneSource_answers : loneSource.Answers := by
  intro symbol k book h
  simp only [loneSource] at h
  split at h
  · obtain rfl := Except.ok.inj h
    exact ⟨rfl, rfl⟩
  · exact absurd h (by simp)

namespace Coordinator

theorem resetsOnly_ownBatches (source : Source) : (new source .global).ResetsOnly "X" ownBatches := by
  intro entry he cleared _
  simp only [results, ownBatches, List.mem_cons, List.not_mem_nil, or_false] at he
  rcases he with rfl | rfl <;> rfl

theorem resetsOnly_mixedBatches : (new freshSource .global).ResetsOnly "X" mixedBatches := by
  intro entry he cleared hreset
  have hresults : (new freshSource .global).results mixedBatches =
      [(otherBatch 1 1, .ok (.bridged 1)), (gapBatch 1 1, .ok (.bridged 1)),
        (otherBatch 2 4, .ok (.applied 4)), (gapBatch 3 3, .ok (.reset ["X", "Y"])),
        (otherBatch 1 9, .ok (.bridged 9))] := rfl
  rw [hresults] at he
  simp only [List.mem_cons, List.not_mem_nil, or_false] at he
  rcases he with rfl | rfl | rfl | rfl | rfl
  · exact absurd hreset (by simp)
  · rfl
  · exact absurd hreset (by simp)
  · rfl
  · exact absurd hreset (by simp)

theorem resetsOnly_loneBatches : (new loneSource .global).ResetsOnly "X" loneBatches := by
  intro entry he cleared hreset
  have hresults : (new loneSource .global).results loneBatches =
      [(otherBatch 7 7, .error .transport), (gapBatch 1 1, .ok (.bridged 1)),
        (gapBatch 3 3, .ok (.reset ["X"]))] := rfl
  rw [hresults] at he
  simp only [List.mem_cons, List.not_mem_nil, or_false] at he
  rcases he with rfl | rfl | rfl
  · exact absurd hreset (by simp)
  · rfl
  · rfl

/-- The other contract has books in one run and none in the other, unseen. -/
theorem isolated_mixed :
    freshSource.answer "X" = loneSource.answer "X" ∧
      freshSource.KeepsApart "X" ∧ loneSource.KeepsApart "X" ∧
      mixedBatches.filter (·.symbol = "X") = loneBatches.filter (·.symbol = "X") ∧
      (new freshSource .global).ResetsOnly "X" mixedBatches ∧
      (new loneSource .global).ResetsOnly "X" loneBatches ∧
      (new freshSource .global).view "X" mixedBatches =
        (new loneSource .global).view "X" loneBatches := by
  have hfresh := freshSource_answers.keepsApart "X"
  have hlone := loneSource_answers.keepsApart "X"
  refine ⟨rfl, hfresh, hlone, rfl, resetsOnly_mixedBatches, resetsOnly_loneBatches, ?_⟩
  exact isolated rfl hfresh hlone rfl fun _ => ⟨resetsOnly_mixedBatches, resetsOnly_loneBatches⟩

/-- **Outcomes may differ in the names of others.** With all books dropped on a
gap, an outcome names every contract that had a book, so that the outcomes for
a contract are not the same among other batches as they are alone. -/
theorem reset_names_others :
    freshSource.KeepsApart "X" ∧
      ownBatches.filter (·.symbol = "X") = mixedBatches.filter (·.symbol = "X") ∧
      (new freshSource .global).ResetsOnly "X" ownBatches ∧
      (new freshSource .global).ResetsOnly "X" mixedBatches ∧
      (new freshSource .global).resultsFor "X" ownBatches ≠
        (new freshSource .global).resultsFor "X" mixedBatches := by
  refine ⟨freshSource_answers.keepsApart "X", rfl, resetsOnly_ownBatches freshSource,
    resetsOnly_mixedBatches, ?_⟩
  have hown : (new freshSource .global).resultsFor "X" ownBatches =
      [.ok (.bridged 1), .ok (.reset ["X"])] := rfl
  have hmixed : (new freshSource .global).resultsFor "X" mixedBatches =
      [.ok (.bridged 1), .ok (.reset ["X", "Y"])] := rfl
  rw [hown, hmixed]
  simp

end Coordinator

end BookSync
