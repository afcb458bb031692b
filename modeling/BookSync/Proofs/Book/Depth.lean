/-
One side of a book as a finite map from prices to sizes.

`Levels.sizeAt? l p` is the size on offer at the price of value `p`. What an
operation does to a side is told by one equation for this view:

* `get?_eq_sizeAt?`: it is the size that a lookup finds;
* `sizeAt?_insert`: an insertion sets the size at its price, or removes the
  level if the size is not positive, and leaves all other prices alone;
* `sizeAt?_erase`: a removal takes its price away and nothing else.

Neither equation asks for levels in order. Order and positive sizes are a
predicate of their own, `Levels.WellFormed`, which every operation keeps. On a
well formed side the map and the list tell the same: `sizeAt?_eq_some_iff`. The
first level of the list is one than which no other is better
(`best?_eq_some_iff`).

A level also keeps the spelling of its price that it was first given.
`Levels.levelAt? l p` is the whole level at the price of value `p`; it tells well
formed sides apart (`eq_of_levelAt?_eq`), and an insertion does not spell the price
anew (`levelAt?_insert`).
-/
import BookSync.Book.Levels
import BookSync.Proofs.Decimal.Value
import Mathlib.Data.List.Nodup

namespace BookSync

/-- The size as it is kept on a side: nothing unless it is positive. -/
def Decimal.positive? (d : Decimal) : Option Decimal := if d.isPositive then some d else none

/-- A level after a change at its price. It keeps its spelling, and is gone
unless the size is positive. -/
def Level.change (old : Option Level) (x : Level) : Option Level :=
  if x.size.isPositive then some ⟨(old.map (·.price)).getD x.price, x.size⟩ else none

namespace Side

/-! ### The order of a side -/

theorem better_bid_iff {p q : Decimal} : bid.Better p q ↔ q.value < p.value :=
  Decimal.lt_iff_value

theorem better_ask_iff {p q : Decimal} : ask.Better p q ↔ p.value < q.value :=
  Decimal.lt_iff_value

theorem Better.trans {side : Side} {p q r : Decimal} (h : side.Better p q)
    (h' : side.Better q r) : side.Better p r := by
  cases side with
  | bid =>
    rw [better_bid_iff] at *
    exact h'.trans h
  | ask =>
    rw [better_ask_iff] at *
    exact h.trans h'

theorem Better.value_ne {side : Side} {p q : Decimal} (h : side.Better p q) :
    p.value ≠ q.value := by
  cases side with
  | bid => exact (better_bid_iff.mp h).ne'
  | ask => exact (better_ask_iff.mp h).ne

/-- Only the value of a price counts for the order. -/
theorem Better.congr_right {side : Side} {p q q' : Decimal} (hq : q'.value = q.value)
    (h : side.Better p q) : side.Better p q' := by
  cases side with
  | bid => exact better_bid_iff.mpr (hq ▸ better_bid_iff.mp h)
  | ask => exact better_ask_iff.mpr (hq ▸ better_ask_iff.mp h)

/-- Of two prices that differ in value one is better. -/
theorem better_of_not_better {side : Side} {p q : Decimal} (h : ¬ side.Better p q)
    (hne : p.value ≠ q.value) : side.Better q p := by
  cases side with
  | bid =>
    rw [better_bid_iff] at *
    exact lt_of_le_of_ne (not_lt.mp h) hne
  | ask =>
    rw [better_ask_iff] at *
    exact lt_of_le_of_ne (not_lt.mp h) hne.symm

end Side

namespace Levels

variable {side : Side}

/-- The size on offer at the price of value `p`. -/
def sizeAt? (l : Levels side) (p : ℚ) : Option Decimal :=
  (l.toList.find? fun x => x.price.value = p).map (·.size)

/-- The level at the price of value `p`. -/
def levelAt? (l : Levels side) (p : ℚ) : Option Level :=
  l.toList.find? fun x => x.price.value = p

theorem sizeAt?_eq_map (l : Levels side) (p : ℚ) : l.sizeAt? p = (l.levelAt? p).map (·.size) := rfl

theorem levelAt?_cons (x : Level) (xs : List Level) (p : ℚ) :
    (⟨x :: xs⟩ : Levels side).levelAt? p =
      if x.price.value = p then some x else (⟨xs⟩ : Levels side).levelAt? p := by
  rw [levelAt?, List.find?_cons]
  by_cases h : x.price.value = p
  · simp [h]
  · simp [h, levelAt?]

theorem sizeAt?_cons (x : Level) (xs : List Level) (p : ℚ) :
    (⟨x :: xs⟩ : Levels side).sizeAt? p =
      if x.price.value = p then some x.size else (⟨xs⟩ : Levels side).sizeAt? p := by
  rw [sizeAt?_eq_map, levelAt?_cons]
  split <;> rfl

/-- Looking up a price asks for nothing but its value. -/
theorem get?_eq_sizeAt? (l : Levels side) (price : Decimal) :
    l.get? price = l.sizeAt? price.value := by
  simp only [get?, sizeAt?, Decimal.equiv_iff_value]

/-- An insertion tells the size that was there before. -/
theorem insert_fst (l : Levels side) (price size : Decimal) :
    (l.insert price size).1 = l.get? price := by
  rw [insert]
  split <;> rfl

/-! ### The operations, as views -/

theorem sizeAt?_place (price size : Decimal) (xs : List Level) (p : ℚ) :
    (⟨place side price size xs⟩ : Levels side).sizeAt? p =
      if price.value = p then some size else (⟨xs⟩ : Levels side).sizeAt? p := by
  induction xs with
  | nil => rw [place, sizeAt?_cons]
  | cons x rest ih =>
    rw [place]
    split
    · rw [sizeAt?_cons]
    · split
      · rename_i heq
        rw [Decimal.equiv_iff_value] at heq
        simp only [sizeAt?_cons, heq]
        split <;> rfl
      · rename_i hne
        rw [Decimal.equiv_iff_value] at hne
        rw [sizeAt?_cons, ih, sizeAt?_cons]
        by_cases hp : x.price.value = p
        · rw [if_pos hp, if_pos hp, if_neg fun h => hne (hp.trans h.symm)]
        · rw [if_neg hp, if_neg hp]

theorem levelAt?_erase (l : Levels side) (price : Decimal) (p : ℚ) :
    (l.erase price).levelAt? p = if price.value = p then none else l.levelAt? p := by
  obtain ⟨xs⟩ := l
  rw [erase]
  induction xs with
  | nil => simp [levelAt?]
  | cons x rest ih =>
    simp only [Decimal.equiv_iff_value] at ih ⊢
    by_cases hx : x.price.value = price.value
    · rw [List.filter_cons_of_neg (by simpa using hx), ih]
      by_cases hp : price.value = p
      · rw [if_pos hp, if_pos hp]
      · rw [if_neg hp, if_neg hp, levelAt?_cons, if_neg (hx ▸ hp)]
    · rw [List.filter_cons_of_pos (by simpa using hx), levelAt?_cons, ih, levelAt?_cons]
      by_cases hp : x.price.value = p
      · rw [if_pos hp, if_pos hp, if_neg fun h => hx (hp.trans h.symm)]
      · rw [if_neg hp, if_neg hp]

theorem sizeAt?_erase (l : Levels side) (price : Decimal) (p : ℚ) :
    (l.erase price).sizeAt? p = if price.value = p then none else l.sizeAt? p := by
  rw [sizeAt?_eq_map, levelAt?_erase]
  split <;> rfl

theorem sizeAt?_insert (l : Levels side) (price size : Decimal) (p : ℚ) :
    (l.insert price size).2.sizeAt? p =
      if price.value = p then size.positive? else l.sizeAt? p := by
  rw [insert, Decimal.positive?]
  split
  · exact sizeAt?_place price size l.toList p
  · exact sizeAt?_erase l price p

/-- Taking away a level that is not there changes nothing. -/
theorem erase_eq_self {l : Levels side} {price : Decimal} (h : l.get? price = none) :
    l.erase price = l := by
  rw [get?, Option.map_eq_none_iff, List.find?_eq_none] at h
  rw [erase, List.filter_eq_self.mpr fun x hx => by simpa using h x hx]

/-! ### Order and positive sizes -/

/-- The levels stand strictly best first, and each has a positive size. -/
structure WellFormed (l : Levels side) : Prop where
  ordered : l.toList.Pairwise fun x y => side.Better x.price y.price
  positive : ∀ x ∈ l.toList, 0 < x.size.value

theorem WellFormed.empty : (empty : Levels side).WellFormed :=
  ⟨List.Pairwise.nil, fun x hx => absurd hx (by simp [Levels.empty])⟩

theorem mem_place {price size : Decimal} {xs : List Level} {y : Level}
    (h : y ∈ place side price size xs) :
    y ∈ xs ∨ (y.price.value = price.value ∧ y.size = size) := by
  induction xs with
  | nil =>
    rw [place, List.mem_singleton] at h
    exact Or.inr ⟨h ▸ rfl, h ▸ rfl⟩
  | cons x rest ih =>
    rw [place] at h
    split at h
    · rcases List.mem_cons.mp h with rfl | h
      · exact Or.inr ⟨rfl, rfl⟩
      · exact Or.inl h
    · split at h
      · rename_i heq
        rcases List.mem_cons.mp h with rfl | h
        · exact Or.inr ⟨Decimal.equiv_iff_value.mp heq, rfl⟩
        · exact Or.inl (List.mem_cons_of_mem x h)
      · rcases List.mem_cons.mp h with rfl | h
        · exact Or.inl List.mem_cons_self
        · exact (ih h).imp_left (List.mem_cons_of_mem x)

theorem pairwise_place {price size : Decimal} {xs : List Level}
    (h : xs.Pairwise fun x y => side.Better x.price y.price) :
    (place side price size xs).Pairwise fun x y => side.Better x.price y.price := by
  induction xs with
  | nil => exact List.pairwise_singleton _ _
  | cons x rest ih =>
    obtain ⟨hx, hrest⟩ := List.pairwise_cons.mp h
    rw [place]
    split
    · rename_i hb
      refine List.pairwise_cons.mpr ⟨fun y hy => ?_, h⟩
      rcases List.mem_cons.mp hy with rfl | hy
      · exact hb
      · exact hb.trans (hx y hy)
    · split
      · exact List.pairwise_cons.mpr ⟨hx, hrest⟩
      · rename_i hb hne
        have hxp : side.Better x.price price :=
          Side.better_of_not_better hb fun h => hne (Decimal.equiv_iff_value.mpr h.symm)
        refine List.pairwise_cons.mpr ⟨fun y hy => ?_, ih hrest⟩
        rcases mem_place hy with hy | ⟨hp, -⟩
        · exact hx y hy
        · -- the new size may stand under another spelling of its price
          exact hxp.congr_right hp

theorem WellFormed.erase {l : Levels side} (h : l.WellFormed) (price : Decimal) :
    (l.erase price).WellFormed :=
  ⟨h.ordered.sublist List.filter_sublist, fun x hx => h.positive x (List.mem_of_mem_filter hx)⟩

theorem WellFormed.insert {l : Levels side} (h : l.WellFormed) (price size : Decimal) :
    (l.insert price size).2.WellFormed := by
  rw [Levels.insert]
  split
  · rename_i hs
    refine ⟨pairwise_place h.ordered, fun x hx => ?_⟩
    rcases mem_place hx with hx | ⟨-, hx⟩
    · exact h.positive x hx
    · exact hx ▸ Decimal.isPositive_iff_value.mp hs
  · exact h.erase price

/-- No price stands twice on a well formed side. -/
theorem WellFormed.nodup_values {l : Levels side} (h : l.WellFormed) :
    (l.toList.map (·.price.value)).Nodup := by
  rw [List.nodup_iff_pairwise_ne, List.pairwise_map]
  exact h.ordered.imp fun hb => hb.value_ne

/-! ### Views of a well formed side -/

theorem WellFormed.levelAt?_eq_some_iff {l : Levels side} (h : l.WellFormed) {p : ℚ}
    {x : Level} : l.levelAt? p = some x ↔ x ∈ l.toList ∧ x.price.value = p := by
  rw [levelAt?]
  constructor
  · intro hx
    exact ⟨List.mem_of_find?_eq_some hx, by simpa using List.find?_some hx⟩
  · rintro ⟨hx, rfl⟩
    -- a level is found, and it is this one, since no other has its price
    have hsome : (l.toList.find? fun y => y.price.value = x.price.value).isSome = true :=
      List.find?_isSome.mpr ⟨x, hx, decide_eq_true rfl⟩
    obtain ⟨y, hy⟩ := Option.isSome_iff_exists.mp hsome
    have hvalue : y.price.value = x.price.value := by simpa using List.find?_some hy
    rw [hy, List.inj_on_of_nodup_map h.nodup_values (List.mem_of_find?_eq_some hy) hx hvalue]

/-- On a well formed side the view tells exactly which levels there are. -/
theorem WellFormed.sizeAt?_eq_some_iff {l : Levels side} (h : l.WellFormed) {p : ℚ}
    {s : Decimal} :
    l.sizeAt? p = some s ↔ ∃ x ∈ l.toList, x.price.value = p ∧ x.size = s := by
  rw [sizeAt?_eq_map, Option.map_eq_some_iff]
  constructor
  · rintro ⟨x, hx, hs⟩
    obtain ⟨hmem, hp⟩ := h.levelAt?_eq_some_iff.mp hx
    exact ⟨x, hmem, hp, hs⟩
  · rintro ⟨x, hmem, hp, hs⟩
    exact ⟨x, h.levelAt?_eq_some_iff.mpr ⟨hmem, hp⟩, hs⟩

/-- Well formed sides with the same level at each price are the same. -/
theorem WellFormed.eq_of_levelAt?_eq {l l' : Levels side} (h : l.WellFormed)
    (h' : l'.WellFormed) (heq : ∀ p, l.levelAt? p = l'.levelAt? p) : l = l' := by
  have hmem : ∀ x, x ∈ l.toList ↔ x ∈ l'.toList := by
    intro x
    have hx := h.levelAt?_eq_some_iff (p := x.price.value) (x := x)
    have hx' := h'.levelAt?_eq_some_iff (p := x.price.value) (x := x)
    rw [heq, hx'] at hx
    simpa using hx.symm
  have hperm : l.toList.Perm l'.toList :=
    (List.perm_ext_iff_of_nodup h.nodup_values.of_map h'.nodup_values.of_map).mpr hmem
  -- both lists are in the same strict order
  have hlist : l.toList = l'.toList :=
    hperm.eq_of_pairwise (fun _ _ _ _ hb hb' => absurd rfl (hb.trans hb').value_ne)
      h.ordered h'.ordered
  exact congrArg Levels.mk hlist

theorem levelAt?_place_of_ne {price size : Decimal} {p : ℚ} (h : price.value ≠ p)
    (xs : List Level) :
    (⟨place side price size xs⟩ : Levels side).levelAt? p = (⟨xs⟩ : Levels side).levelAt? p := by
  induction xs with
  | nil => rw [place, levelAt?_cons, if_neg h]
  | cons x rest ih =>
    rw [place]
    split
    · rw [levelAt?_cons, if_neg h]
    · split
      · rename_i heq
        have hx : x.price.value ≠ p := fun hp => h ((Decimal.equiv_iff_value.mp heq).symm.trans hp)
        rw [levelAt?_cons, levelAt?_cons, if_neg hx, if_neg hx]
      · rw [levelAt?_cons, ih, ← levelAt?_cons]

/-- A level that is given a new size keeps the spelling of its price. -/
theorem levelAt?_place_self {xs : List Level}
    (h : xs.Pairwise fun x y => side.Better x.price y.price) (price size : Decimal) :
    (⟨place side price size xs⟩ : Levels side).levelAt? price.value =
      some ⟨(((⟨xs⟩ : Levels side).levelAt? price.value).map (·.price)).getD price, size⟩ := by
  induction xs with
  | nil => rw [place, levelAt?_cons, if_pos rfl]; rfl
  | cons x rest ih =>
    obtain ⟨hx, hrest⟩ := List.pairwise_cons.mp h
    rw [place]
    split
    · rename_i hb
      -- all levels are worse than the new one
      have hnone : (⟨x :: rest⟩ : Levels side).levelAt? price.value = none := by
        rw [levelAt?, List.find?_eq_none]
        intro y hy
        have hby : side.Better price y.price := by
          rcases List.mem_cons.mp hy with rfl | hy
          · exact hb
          · exact hb.trans (hx y hy)
        simpa using hby.value_ne.symm
      rw [levelAt?_cons, if_pos rfl, hnone]
      rfl
    · split
      · rename_i heq
        have hvalue := Decimal.equiv_iff_value.mp heq
        rw [levelAt?_cons, levelAt?_cons, if_pos hvalue, if_pos hvalue]
        rfl
      · rename_i hne
        have hvalue := fun hp => hne (Decimal.equiv_iff_value.mpr hp)
        rw [levelAt?_cons, if_neg hvalue, ih hrest, levelAt?_cons, if_neg hvalue]

theorem WellFormed.levelAt?_insert {l : Levels side} (h : l.WellFormed) (x : Level) (p : ℚ) :
    (l.insert x.price x.size).2.levelAt? p =
      if x.price.value = p then Level.change (l.levelAt? p) x else l.levelAt? p := by
  rw [Levels.insert, Level.change]
  split
  · by_cases hp : x.price.value = p
    · rw [if_pos hp, ← hp]
      exact levelAt?_place_self h.ordered x.price x.size
    · rw [if_neg hp]
      exact levelAt?_place_of_ne hp l.toList
  · exact levelAt?_erase l x.price p

/-! ### The best level -/

/-- A level than which no other is better. -/
def IsBest (l : Levels side) (x : Level) : Prop :=
  x ∈ l.toList ∧ ∀ y ∈ l.toList, ¬ side.Better y.price x.price

theorem WellFormed.best?_eq_some_iff {l : Levels side} (h : l.WellFormed) {x : Level} :
    l.best? = some x ↔ l.IsBest x := by
  obtain ⟨xs⟩ := l
  cases xs with
  | nil => simp [best?, IsBest]
  | cons y rest =>
    have hworse : ∀ z ∈ rest, side.Better y.price z.price := (List.pairwise_cons.mp h.ordered).1
    rw [best?, List.head?_cons, Option.some_inj]
    constructor
    · rintro rfl
      refine ⟨List.mem_cons_self, fun z hz hbetter => ?_⟩
      rcases List.mem_cons.mp hz with rfl | hz
      · exact hbetter.value_ne rfl
      · exact ((hworse z hz).trans hbetter).value_ne rfl
    · rintro ⟨hx, hbest⟩
      rcases List.mem_cons.mp hx with rfl | hx
      · rfl
      · exact absurd (hworse x hx) (hbest y List.mem_cons_self)

theorem best?_eq_none_iff {l : Levels side} : l.best? = none ↔ l.toList = [] :=
  List.head?_eq_none_iff

end Levels

end BookSync
