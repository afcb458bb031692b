/-
Plain URLs are read as they stand.

A plain URL has a plain host and, behind it, segments of letters, digits and underscores.
None of its characters divides it anywhere else, or is written in another way.

* `strip_of_visible`: nothing is passed over in a text of visible characters;
* `Path.resolve_of_words`: segments of words are taken as they are;
* `readHosted_of_plain`: a plain host and path are found again behind the slashes;
* `parse_https`: so the URL has that host and those segments, and nothing else.
-/
import BookSync.Proofs.Url.Name
import BookSync.Url.Parser

namespace BookSync.Url

/-- A letter, a digit or an underscore. -/
def IsWord (c : Char) : Prop := c.isAlphanum = true ∨ c = '_'

instance : DecidablePred IsWord := fun c =>
  inferInstanceAs (Decidable (c.isAlphanum = true ∨ c = '_'))

/-- Where the characters of words stand among the code points. -/
theorem IsWord.range {c : Char} (h : IsWord c) :
    0x30 ≤ c.toNat ∧ c.toNat ≤ 0x39 ∨ 0x41 ≤ c.toNat ∧ c.toNat ≤ 0x5a ∨ c.toNat = 0x5f ∨
      0x61 ≤ c.toNat ∧ c.toNat ≤ 0x7a := by
  rcases h with h | rfl
  · delta Char.isAlphanum Char.isAlpha Char.isUpper Char.isLower at h
    simp only [Bool.or_eq_true, Bool.and_eq_true, decide_eq_true_eq, UInt32.le_iff_toNat_le] at h
    rcases h with (h | h) | h
    · exact Or.inr (Or.inl h)
    · exact Or.inr (Or.inr (Or.inr h))
    · exact Or.inl (Char.isDigit_iff_toNat.mp h)
  · exact Or.inr (Or.inr (Or.inl rfl))

/-- Visible characters of ASCII are encoded only where they have a meaning. -/
theorem Percent.isForeign_of_visible {c : Char} (h : 32 ≤ c.toNat ∧ c.toNat ≤ 126) :
    isForeign c = false := by
  have hlow : ¬ c < ' ' := fun hlt => absurd hlt (Nat.not_lt.mpr h.1)
  have hhigh : ¬ '~' < c := fun hlt => absurd hlt (Nat.not_lt.mpr h.2)
  rw [isForeign, decide_eq_false hlow, decide_eq_false hhigh]
  rfl

/-! ### Segments -/

namespace Path

variable {seg : List Char}

theorem encode_of_words (h : ∀ c ∈ seg, IsWord c) : Percent.encode Percent.path seg = seg := by
  have hreserved : Percent.path.all (fun c => decide (¬ IsWord c)) = true := by decide
  have hchar : ∀ c ∈ seg, Percent.encodeChar Percent.path c = [c] := by
    intro c hc
    have hrange := (h c hc).range
    have hforeign : Percent.isForeign c = false := Percent.isForeign_of_visible (by omega)
    have hkept : Percent.path.contains c = false := by
      rw [List.contains_eq_mem, decide_eq_false_iff_not]
      exact fun hmem => of_decide_eq_true (List.all_eq_true.mp hreserved c hmem) (h c hc)
    rw [Percent.encodeChar, hforeign, hkept]
    rfl
  rw [Percent.encode, List.flatMap_congr hchar, List.flatMap_singleton']

/-- A word does not consist of points. -/
theorem points?_of_words (h : ∀ c ∈ seg, IsWord c) :
    points? seg ≠ some 1 ∧ points? seg ≠ some 2 := by
  cases seg with
  | nil => simp [points?]
  | cons c seg =>
    have hrange := (h c List.mem_cons_self).range
    have hnone : points? (c :: seg) = none := by
      rw [points?]
      · simp
      · rintro rest h
        rw [(List.cons.inj h).1] at hrange
        exact absurd hrange (by decide)
      · rintro d rest h
        rw [(List.cons.inj h).1] at hrange
        exact absurd hrange (by decide)
    simp [hnone]

theorem segmentText_of_words (done : List String) (h : ∀ c ∈ seg, IsWord c) :
    segmentText false done seg = String.ofList seg := by
  rw [segmentText]
  show String.ofList (Percent.encode Percent.path seg) = _
  rw [encode_of_words h]

/-- Segments of words are put behind the others as they are. -/
theorem resolve_of_words {segs : List (List Char)} (hsegs : segs ≠ [])
    (h : ∀ seg ∈ segs, ∀ c ∈ seg, IsWord c) (done : List String) :
    resolve false done segs = done.reverse ++ segs.map String.ofList := by
  induction segs generalizing done with
  | nil => exact absurd rfl hsegs
  | cons seg rest ih =>
    obtain ⟨hseg, hrest⟩ := List.forall_mem_cons.mp h
    -- a word is no segment of points, so of the three branches only the last is left
    obtain ⟨hone, htwo⟩ := points?_of_words hseg
    cases rest with
    | nil =>
      rw [resolve]
      split
      · contradiction
      · contradiction
      · rw [segmentText_of_words done hseg]
        simp
    | cons next rest =>
      rw [resolve]
      split
      · contradiction
      · contradiction
      · rw [segmentText_of_words done hseg, ih (by simp) hrest]
        simp
      · simp

end Path

theorem mem_words {segs : List (List Char)} (h : ∀ seg ∈ segs, ∀ c ∈ seg, IsWord c) {c : Char}
    (hc : c ∈ (segs.intersperse ['/']).flatten) : c = '/' ∨ IsWord c := by
  rcases Text.mem_join hc with hslash | ⟨seg, hseg, hc⟩
  · exact Or.inl hslash
  · exact Or.inr (h seg hseg c hc)

/-- A path of words is visible, and does not end before its last word. -/
theorem visible_of_words {segs : List (List Char)} (h : ∀ seg ∈ segs, ∀ c ∈ seg, IsWord c)
    {c : Char} (hc : c ∈ (segs.intersperse ['/']).flatten) :
    0x20 < c.toNat ∧ endsPath c = false := by
  rcases mem_words h hc with rfl | hc
  · decide
  · have hrange := hc.range
    have hends : c ≠ '?' ∧ c ≠ '#' := by
      constructor <;> rintro rfl <;> exact absurd hrange (by decide)
    exact ⟨by omega, by simp [endsPath, hends]⟩

/-- A path of words has the words as its segments. -/
theorem segments_of_words {segs : List (List Char)} (hsegs : segs ≠ [])
    (h : ∀ seg ∈ segs, ∀ c ∈ seg, IsWord c) :
    segments .special (segs.intersperse ['/']).flatten = segs.map String.ofList := by
  -- a backslash would divide the path too, but no word has one
  have hslash : ∀ c ∈ (segs.intersperse ['/']).flatten,
      SchemeKind.special.isSlash c = decide (c = '/') := by
    intro c hc
    have hback : c ≠ '\\' := by
      rintro rfl
      rcases mem_words h hc with hc | hc
      · exact absurd hc (by decide)
      · exact absurd hc.range (by decide)
    simp [SchemeKind.isSlash, hback]
  have hparts : ∀ seg ∈ segs, '/' ∉ seg := fun seg hseg hc =>
    absurd (h seg hseg _ hc).range (by decide)
  show Path.resolve false [] (Text.splitOn SchemeKind.special.isSlash _) = _
  rw [Text.splitOn_congr hslash, Text.splitOn_join hparts hsegs,
    Path.resolve_of_words hsegs h, List.reverse_nil, List.nil_append]

/-! ### Host and path -/

/-- Nothing is passed over in a text of visible characters. -/
theorem strip_of_visible {cs : List Char} (h : ∀ c ∈ cs, 0x20 < c.toNat) : strip cs = cs := by
  have hedge : ∀ c ∈ cs, isEdge c = false := fun c hc =>
    decide_eq_false fun hle => absurd hle (Nat.not_le.mpr (h c hc))
  have hfront (ds : List Char) (hds : ∀ c ∈ ds, isEdge c = false) : ds.dropWhile isEdge = ds := by
    cases ds with
    | nil => rfl
    | cons d ds => exact List.dropWhile_cons_of_neg (by simp [hds d])
  -- both ends of the text are visible, and so is all between them
  have hback := hfront cs.reverse fun c hc => hedge c (List.mem_reverse.mp hc)
  rw [strip, hfront cs hedge, hback, List.reverse_reverse]
  refine List.filter_eq_self.mpr fun c hc => ?_
  have hvisible := h c hc
  have hkept : c ≠ '\t' ∧ c ≠ '\n' ∧ c ≠ '\r' := by
    refine ⟨?_, ?_, ?_⟩ <;> rintro rfl <;> exact absurd hvisible (by decide)
  simpa [and_assoc] using hkept

/-- Without a colon or bracket, all of a text is the name of a host. -/
theorem splitHost_of_not_mem {cs : List Char} (hcolon : ':' ∉ cs) (hbracket : '[' ∉ cs) :
    splitHost false cs = (cs, []) := by
  induction cs with
  | nil => rfl
  | cons c cs ih =>
    rw [List.mem_cons, not_or] at hcolon hbracket
    have hrest : (decide (c = '[') || (false && decide (c ≠ ']'))) = false := by
      simp [Ne.symm hbracket.1]
    rw [splitHost, if_neg (by simp [Ne.symm hcolon.1]), hrest, ih hcolon.2 hbracket.2]

variable {host : List Char}

/-- No character of a plain host ends it. -/
theorem not_ends_of_plain (h : Host.Plain host) {c : Char} (hc : c ∈ host) :
    SchemeKind.special.isSlash c = false ∧ endsPath c = false := by
  have hends : c ≠ '/' ∧ c ≠ '\\' ∧ c ≠ '?' ∧ c ≠ '#' := by
    refine ⟨?_, ?_, ?_, ?_⟩ <;> rintro rfl <;> exact h.not_mem (by decide) hc
  simp [SchemeKind.isSlash, endsPath, hends]

/-- The slashes in front of a plain host are passed over, and nothing else. -/
theorem dropWhile_slashes (h : Host.Plain host) (rest : List Char) :
    ('/' :: '/' :: (host ++ rest)).dropWhile SchemeKind.special.isSlash = host ++ rest := by
  rw [List.dropWhile_cons_of_pos (by decide), List.dropWhile_cons_of_pos (by decide)]
  cases host with
  | nil => exact absurd rfl h.nonempty
  | cons c cs =>
    have hc := (not_ends_of_plain h List.mem_cons_self).1
    exact List.dropWhile_cons_of_neg (by simp [hc])

theorem readHost_of_plain (h : Host.Plain host) (usual : Option ℕ) :
    readHost .special usual host = .ok (.name (String.ofList host), none, []) := by
  have hempty : host.isEmpty = false := List.isEmpty_eq_false_iff.mpr h.nonempty
  rw [readHost, splitHost_of_not_mem (h.not_mem (by decide)) (h.not_mem (by decide))]
  dsimp only
  rw [if_neg (by decide), hempty, Host.ofSpecial_of_plain h]
  rfl

theorem readAuthority_of_plain (h : Host.Plain host) (usual : Option ℕ) (goesOn : Bool) :
    readAuthority .special usual goesOn host =
      .ok (⟨"", none, .name (String.ofList host), none⟩, []) := by
  rw [readAuthority, Text.splitAtLast?_of_not_mem (h.not_mem (by decide)),
    readHost_of_plain h usual]
  rfl

/-- A plain host ends at the slash behind it, and the path goes on to the end. -/
theorem readHosted_of_plain (h : Host.Plain host) {path : List Char}
    (hpath : ∀ c ∈ path, endsPath c = false) (usual : Option ℕ) :
    readHosted .special usual (host ++ '/' :: path) =
      .ok (some ⟨"", none, .name (String.ofList host), none⟩, readPath .special ('/' :: path),
        []) := by
  have hin : ∀ c ∈ host, (!(SchemeKind.special.isSlash c || endsPath c)) = true := by
    intro c hc
    obtain ⟨hslash, hends⟩ := not_ends_of_plain h hc
    rw [hslash, hends]
    rfl
  have htext : (host ++ '/' :: path).span (fun c => !(SchemeKind.special.isSlash c || endsPath c)) =
      (host, '/' :: path) := by
    rw [List.span_eq_takeWhile_dropWhile, List.takeWhile_append_of_pos hin,
      List.dropWhile_append_of_pos hin, List.takeWhile_cons_of_neg (by decide),
      List.dropWhile_cons_of_neg (by decide), List.append_nil]
  have hsplit : splitPath ('/' :: path) = ('/' :: path, []) := by
    have hall : ∀ c ∈ '/' :: path, (!endsPath c) = true := by
      intro c hc
      rcases List.mem_cons.mp hc with rfl | hc
      · decide
      · rw [hpath c hc]
        rfl
    rw [splitPath, List.span_eq_takeWhile_dropWhile, List.takeWhile_eq_self_iff.mpr hall,
      List.dropWhile_eq_nil_iff.mpr hall]
  rw [readHosted, htext]
  dsimp only
  rw [readAuthority_of_plain h]
  show Except.ok (some _, readPath .special (splitPath ('/' :: path)).1,
    (splitPath ('/' :: path)).2) = _
  rw [hsplit]

/-- **A plain URL is read as it stands.** Its scheme, host and segments are those written,
and it has neither query nor fragment. -/
theorem parse_https (h : Host.Plain host) {segs : List (List Char)} (hsegs : segs ≠ [])
    (hwords : ∀ seg ∈ segs, ∀ c ∈ seg, IsWord c) :
    parse (String.ofList ("https://".toList ++ host ++ '/' :: (segs.intersperse ['/']).flatten)) =
      .ok ⟨"https", some ⟨"", none, .name (String.ofList host), none⟩,
        .segments (segs.map String.ofList), none, none⟩ := by
  have hvisible : ∀ c ∈ "https://".toList ++ host ++ '/' :: (segs.intersperse ['/']).flatten,
      0x20 < c.toNat := by
    intro c hc
    rcases List.mem_append.mp hc with hc | hc
    · rcases List.mem_append.mp hc with hc | hc
      · have hall : "https://".toList.all (fun c => decide (0x20 < c.toNat)) = true := by decide
        exact of_decide_eq_true (List.all_eq_true.mp hall c hc)
      · have hrange := (h.chars c hc).range
        omega
    · rcases List.mem_cons.mp hc with rfl | hc
      · decide
      · exact (visible_of_words hwords hc).1
  have hscheme (rest : List Char) : splitScheme? ("https://".toList ++ rest) =
      some ("https", '/' :: '/' :: rest) := by
    rfl
  rw [parse, String.toList_ofList, strip_of_visible hvisible, List.append_assoc, hscheme]
  have hkind : SchemeKind.ofScheme "https" = .special := rfl
  dsimp only
  rw [hkind]
  dsimp only
  rw [dropWhile_slashes h, readHosted_of_plain h fun c hc => (visible_of_words hwords hc).2]
  show Except.ok (Url.mk "https" _
    (.segments (segments .special (segs.intersperse ['/']).flatten)) none none) = _
  rw [segments_of_words hsegs hwords]

end BookSync.Url
