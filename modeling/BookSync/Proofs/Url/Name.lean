/-
Plain names of hosts stay as they are.

A name of small letters, digits, hyphens and points has no character that is replaced or
refused, and no label of it is written in Punycode unless it says so in front.

* `Domain.image_of_plain`: a plain character is replaced by itself;
* `Domain.toAscii?_of_plain`: a plain name is its own form in ASCII;
* `Host.ofSpecial_of_plain`: and the host that it names, unless it ends like an address
  (`Host.Plain`).
-/
import BookSync.Proofs.Text.Ascii
import BookSync.Proofs.Text.Parts
import BookSync.Proofs.Url.Form
import BookSync.Url.Host

namespace BookSync.Url

namespace Domain

/-! ### What the tables list -/

theorem ignoredRanges_list : ∀ r ∈ ignoredRanges.toList, 0x80 ≤ r.1 := by
  decide +kernel

theorem refusedRanges_list : ∀ r ∈ refusedRanges.toList, 0x80 ≤ r.1 := by
  decide +kernel

theorem imageShifts_list : ∀ r ∈ imageShifts.toList, 0x80 ≤ r.first := by
  decide +kernel

theorem images_list : ∀ images ∈ [letterImages, squareImages, arabicImages, formImages],
    ∀ r ∈ images.toList, 0x80 ≤ r.1 := by
  decide +kernel

/-! ### Plain characters -/

/-- A small letter, a digit, a hyphen or a point. -/
def IsPlain (c : Char) : Prop := c.isLower = true ∨ c.isDigit = true ∨ c = '-' ∨ c = '.'

instance : DecidablePred IsPlain := fun c =>
  inferInstanceAs (Decidable (c.isLower = true ∨ c.isDigit = true ∨ c = '-' ∨ c = '.'))

variable {c : Char} {cs : List Char}

/-- Where plain characters stand among the code points. -/
theorem IsPlain.range (h : IsPlain c) :
    c.toNat = 0x2d ∨ c.toNat = 0x2e ∨ 0x30 ≤ c.toNat ∧ c.toNat ≤ 0x39 ∨
      0x61 ≤ c.toNat ∧ c.toNat ≤ 0x7a := by
  rcases h with h | h | rfl | rfl
  · delta Char.isLower at h
    simp only [Bool.and_eq_true, decide_eq_true_eq, UInt32.le_iff_toNat_le] at h
    exact Or.inr (Or.inr (Or.inr h))
  · exact Or.inr (Or.inr (Or.inl (Char.isDigit_iff_toNat.mp h)))
  · exact Or.inl rfl
  · exact Or.inr (Or.inl rfl)

theorem IsPlain.ascii (h : IsPlain c) : c.toNat < 0x80 := by
  have hrange := h.range
  omega

theorem image_of_plain (h : IsPlain c) : image c = [c] := by
  have hc := h.ascii
  have hlisted : listed? c = none := by
    rw [listed?, List.findSome?_eq_none_iff]
    intro images himages
    rw [Option.map_eq_none_iff, ← Array.find?_toList, List.find?_eq_none]
    intro r hr heq
    have hlist := images_list images himages r hr
    simp only [decide_eq_true_eq] at heq
    omega
  have hradical : ofRadical? c = none := by
    rw [ofRadical?, if_neg]
    simp only [radicalBase]
    omega
  have hshift : imageShifts.find? (·.covers c) = none := by
    rw [← Array.find?_toList, List.find?_eq_none]
    intro r hr hcovers
    have hlist := imageShifts_list r hr
    rw [Text.Shift.covers_eq_false (Or.inr (by omega))] at hcovers
    exact Bool.false_ne_true hcovers
  have hlower : Text.lowerChar c = c := by
    have hrange := h.range
    exact Text.lowerChar_of_not_upper hc (by omega)
  delta image
  rw [Text.Ranges.covers_of_ascii ignoredRanges_list hc, hlisted, hradical, hshift, hlower]
  rfl

theorem not_isPlain_of_forbidden (h : c ∈ forbidden) : ¬ IsPlain c := by
  have hall : forbidden.all (fun c => decide (¬ IsPlain c)) = true := by decide
  exact of_decide_eq_true (List.all_eq_true.mp hall c h)

theorem isForbidden_of_plain (h : IsPlain c) : isForbidden c = false := by
  have hrange := h.range
  have hvisible : Text.isHidden c = false := Text.isHidden_of_visible (by omega)
  have hlist : forbidden.contains c = false := by
    rw [List.contains_eq_mem, decide_eq_false_iff_not]
    exact fun hmem => not_isPlain_of_forbidden hmem h
  rw [isForbidden, hlist, Text.Ranges.covers_of_ascii refusedRanges_list h.ascii, hvisible]
  rfl

/-! ### Plain names -/

theorem normal_of_plain (h : ∀ c ∈ cs, IsPlain c) : normal cs = cs := by
  have hascii : ∀ c ∈ cs, c.toNat < 0x80 := fun c hc => (h c hc).ascii
  rw [normal, Text.flatMap_decompose_of_ascii hascii,
    List.flatMap_congr fun c hc => image_of_plain (h c hc), List.flatMap_singleton',
    Text.composed_of_ascii hascii]

theorem turnsLeft_of_ascii (h : ∀ c ∈ cs, c.toNat < 0x80) : Label.turnsLeft cs = false := by
  rw [Label.turnsLeft, List.any_eq_false]
  intro c hc
  simpa using Text.direction_of_ascii (h c hc)

/-- A label in ASCII without the marker is shown as it stands. -/
theorem label?_of_ascii (h : ∀ c ∈ cs, c.toNat < 0x80) (hmarker : marker.isPrefixOf cs = false) :
    label? cs = some (cs, cs) := by
  have hascii : isAscii cs = true := by
    rw [isAscii, List.all_eq_true]
    intro c hc
    simpa using h c hc
  rw [label?, hmarker, hascii]
  rfl

theorem mapM_eq_some {α β : Type} {f : α → Option β} {g : α → β} {l : List α}
    (h : ∀ x ∈ l, f x = some (g x)) : l.mapM f = some (l.map g) := by
  induction l with
  | nil => rfl
  | cons x l ih =>
    obtain ⟨hx, hl⟩ := List.forall_mem_cons.mp h
    rw [List.mapM_cons, hx, ih hl]
    rfl

/-- **A plain name is its own form in ASCII.** -/
theorem toAscii?_of_plain (h : ∀ c ∈ cs, IsPlain c)
    (hmarker : ∀ label ∈ Text.splitOn (· = '.') cs, marker.isPrefixOf label = false) :
    toAscii? cs = some cs := by
  have hjoin := Text.join_splitOn '.' cs
  have hascii : ∀ label ∈ Text.splitOn (· = '.') cs, ∀ c ∈ label, c.toNat < 0x80 :=
    fun label hlabel c hc => (h c (Text.mem_of_mem_splitOn hlabel hc)).ascii
  have hforbidden : cs.any isForbidden = false := by
    rw [List.any_eq_false]
    intro c hc
    rw [isForbidden_of_plain (h c hc)]
    exact Bool.false_ne_true
  rw [toAscii?, normal_of_plain h]
  simp only [hforbidden, Bool.false_eq_true, if_false]
  generalize Text.splitOn (· = '.') cs = labels at hmarker hascii hjoin ⊢
  have hlabels : labels.mapM label? = some (labels.map fun label => (label, label)) :=
    mapM_eq_some fun label hlabel => label?_of_ascii (hascii label hlabel) (hmarker label hlabel)
  -- the rule on directions is not asked for
  have hturns : (labels.map fun label => (label, label)).any (Label.turnsLeft ·.1) = false := by
    rw [List.any_map, List.any_eq_false]
    intro label hlabel
    simpa using turnsLeft_of_ascii (hascii label hlabel)
  rw [hlabels]
  show (if _ then none else some _) = _
  rw [hturns, Bool.false_and, if_neg Bool.false_ne_true, List.map_map]
  show some ((labels.map id).intersperse ['.']).flatten = _
  rw [List.map_id, hjoin]

end Domain

namespace Host

/-- A plain name that does not end like an address, without a label in Punycode. -/
structure Plain (cs : List Char) : Prop where
  nonempty : cs ≠ []
  chars : ∀ c ∈ cs, Domain.IsPlain c
  unmarked : ∀ label ∈ Text.splitOn (· = '.') cs, Domain.marker.isPrefixOf label = false
  notNumber : Ipv4.endsInNumber cs = false

theorem Plain.not_mem {cs : List Char} (h : Plain cs) {c : Char} (hc : c ∈ Domain.forbidden) :
    c ∉ cs :=
  fun hmem => Domain.not_isPlain_of_forbidden hc (h.chars c hmem)

/-- A plain name names a host as it stands. -/
theorem ofSpecial_of_plain {cs : List Char} (h : Plain cs) :
    ofSpecial cs = .ok (name (String.ofList cs)) := by
  have hascii := Domain.toAscii?_of_plain h.chars h.unmarked
  rw [ofSpecial, ofName, Percent.utf8Decode_decode (h.not_mem (by decide)), hascii]
  · cases cs with
    | nil => exact absurd rfl h.nonempty
    | cons c cs =>
      dsimp only
      rw [h.notNumber]
      rfl
  · rintro rest rfl
    have hbracket : '[' ∉ '[' :: rest := h.not_mem (by decide)
    exact hbracket List.mem_cons_self

end Host

end BookSync.Url
