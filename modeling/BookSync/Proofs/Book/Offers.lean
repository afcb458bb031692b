/-
A side of a book refines a finite map.

`Offers` is a finite map from prices, as numbers, to positive sizes. It knows neither the
order of prices nor how they are spelled, and can be changed as a side can. The side that a
list of changes leads to presents the offers that they lead to:

* `sizeAt?_edit` and `size?_edit`: a change leaves the same at each price on both, so that a
  side goes on presenting its offers (`Presents.edit`, `presents_edited`);
* `Presents.entries`, `Presents.ranked`: such a side lists each offer once, in the order of
  prices, from above for bids and from below for asks;
* `Presents.leads`: its best level has the greatest or the least of all prices;
* `size?_edited`: what is on offer at a price is what the last change left that had to do
  with it;
* `toList_edited_ask`: the same changes make the same levels of both sides, in opposite order.

`edited_refines_offers` puts together all that a side tells.
-/
import BookSync.Proofs.Book.Edits
import Mathlib.Data.Finmap
import Mathlib.Data.Finset.Sort

namespace BookSync

open Levels (Edit)

/-! ### Offers -/

/-- A positive size at finitely many prices. -/
abbrev Offers := Finmap fun _ : ℚ => {size : Decimal // 0 < size.value}

namespace Offers

/-- The size on offer at a price. -/
def size? (m : Offers) (p : ℚ) : Option Decimal := (m.lookup p).map Subtype.val

/-- All prices with their sizes. -/
def levels (m : Offers) : Multiset (ℚ × Decimal) := m.entries.map fun e => (e.1, e.2.val)

/-- The offers after a change. -/
def edit (m : Offers) : Edit → Offers
  | .insert price size =>
    if h : 0 < size.value then m.insert price.value ⟨size, h⟩ else m.erase price.value
  | .remove price => m.erase price.value
  | .clear => ∅

/-- What changes make of no offers at all, one after the other. -/
def edited (edits : List Edit) : Offers := edits.foldl edit ∅

theorem edited_concat (edits : List Edit) (e : Edit) :
    edited (edits ++ [e]) = (edited edits).edit e := List.foldl_concat ..

end Offers

/-- All prices of a side, the best ones first. -/
def Side.ranked (side : Side) (prices : Finset ℚ) : List ℚ :=
  match side with
  | .bid => prices.sort (· ≥ ·)
  | .ask => prices.sort (· ≤ ·)

/-- The price is the best of all: the greatest one for a bid, the least one for an ask. -/
def Side.Leads (side : Side) (prices : Set ℚ) (p : ℚ) : Prop :=
  match side with
  | .bid => IsGreatest prices p
  | .ask => IsLeast prices p

/-! ### What a change leaves at a price -/

namespace Levels.Edit

/-- What a change leaves at the price of value `p`, if it has to do with this price. -/
def leaves? (p : ℚ) : Edit → Option (Option Decimal)
  | .insert price size => if price.value = p then some size.positive? else none
  | .remove price => if price.value = p then some none else none
  | .clear => some none

/-- What the last of these changes left that had to do with the price of value `p`. -/
def lastLeft? (edits : List Edit) (p : ℚ) : Option Decimal :=
  (edits.reverse.findSome? (leaves? p)).join

theorem lastLeft?_concat (edits : List Edit) (e : Edit) (p : ℚ) :
    lastLeft? (edits ++ [e]) p = (e.leaves? p).getD (lastLeft? edits p) := by
  rw [lastLeft?, List.reverse_append, List.reverse_singleton, List.singleton_append,
    List.findSome?_cons]
  cases e.leaves? p <;> rfl

end Levels.Edit

namespace Offers

variable {m : Offers} {p : ℚ}

theorem isSome_size?_iff : (m.size? p).isSome = true ↔ p ∈ m := by
  rw [size?, Option.isSome_map, Finmap.lookup_isSome]

theorem mem_levels_iff {size : Decimal} : (p, size) ∈ m.levels ↔ m.size? p = some size := by
  rw [levels, Multiset.mem_map, size?, Option.map_eq_some_iff]
  constructor
  · rintro ⟨⟨q, s⟩, hs, heq⟩
    obtain ⟨rfl, rfl⟩ := Prod.mk.inj heq
    exact ⟨s, Finmap.lookup_eq_some_iff.mpr hs, rfl⟩
  · rintro ⟨s, hs, rfl⟩
    exact ⟨⟨p, s⟩, Finmap.lookup_eq_some_iff.mp hs, rfl⟩

theorem nodup_levels (m : Offers) : m.levels.Nodup := by
  refine m.nodup_entries.map ?_
  rintro ⟨p, s⟩ ⟨q, t⟩ heq
  obtain ⟨hp, hsize⟩ := Prod.mk.inj heq
  obtain rfl : p = q := hp
  obtain rfl : s = t := Subtype.ext hsize
  rfl

theorem size?_erase (m : Offers) (q p : ℚ) :
    size? (m.erase q) p = if q = p then none else m.size? p := by
  by_cases h : q = p
  · subst h
    rw [if_pos rfl, size?, Finmap.lookup_erase, Option.map_none]
  · rw [if_neg h, size?, Finmap.lookup_erase_ne (Ne.symm h), size?]

theorem size?_insert (m : Offers) (q p : ℚ) (s : {size : Decimal // 0 < size.value}) :
    size? (m.insert q s) p = if q = p then some s.val else m.size? p := by
  by_cases h : q = p
  · subst h
    rw [if_pos rfl, size?, Finmap.lookup_insert, Option.map_some]
  · rw [if_neg h, size?, Finmap.lookup_insert_of_ne m (Ne.symm h), size?]

theorem size?_edit (m : Offers) (e : Edit) (p : ℚ) :
    (m.edit e).size? p = (e.leaves? p).getD (m.size? p) := by
  cases e with
  | insert price size =>
    rw [edit, Edit.leaves?, Decimal.positive?]
    split
    · rename_i hsize
      rw [size?_insert, if_pos (Decimal.isPositive_iff_value.mpr hsize)]
      split <;> rfl
    · rename_i hsize
      rw [size?_erase, if_neg fun h => hsize (Decimal.isPositive_iff_value.mp h)]
      split <;> rfl
  | remove price =>
    rw [edit, Edit.leaves?, size?_erase]
    split <;> rfl
  | clear => rfl

/-- **The last change decides.** -/
theorem size?_edited (edits : List Edit) (p : ℚ) :
    (edited edits).size? p = Edit.lastLeft? edits p := by
  induction edits using List.reverseRecOn with
  | nil => rfl
  | append_singleton edits e ih =>
    rw [edited_concat, size?_edit, ih, Edit.lastLeft?_concat]

end Offers

/-! ### Sides that present offers -/

namespace Levels

variable {side : Side} {l : Levels side} {m : Offers}

theorem sizeAt?_edit (l : Levels side) (e : Edit) (p : ℚ) :
    (l.edit e).sizeAt? p = (e.leaves? p).getD (l.sizeAt? p) := by
  cases e with
  | insert price size =>
    rw [edit, Edit.leaves?, sizeAt?_insert]
    split <;> rfl
  | remove price =>
    rw [edit, Edit.leaves?, remove, sizeAt?_erase]
    split <;> rfl
  | clear => rfl

/-- The side has the levels on offer, strictly best first. -/
structure Presents (l : Levels side) (m : Offers) : Prop where
  wellFormed : l.WellFormed
  sizeAt : ∀ p, l.sizeAt? p = m.size? p

/-- **A change keeps a side and its offers together.** -/
theorem Presents.edit (h : l.Presents m) (e : Edit) : (l.edit e).Presents (m.edit e) := by
  refine ⟨h.wellFormed.edit e, fun p => ?_⟩
  rw [sizeAt?_edit, Offers.size?_edit, h.sizeAt]

theorem presents_edited (edits : List Edit) : (edited side edits).Presents (.edited edits) := by
  induction edits using List.reverseRecOn with
  | nil => exact ⟨.empty, fun _ => rfl⟩
  | append_singleton edits e ih =>
    rw [edited_concat, Offers.edited_concat]
    exact ih.edit e

namespace Presents

theorem get? (h : l.Presents m) (price : Decimal) : l.get? price = m.size? price.value := by
  rw [get?_eq_sizeAt?, h.sizeAt]

theorem contains_iff (h : l.Presents m) (price : Decimal) :
    l.contains price = true ↔ price.value ∈ m := by
  rw [contains, h.get?, Offers.isSome_size?_iff]

theorem mem_iff (h : l.Presents m) {p : ℚ} : (∃ x ∈ l.toList, x.price.value = p) ↔ p ∈ m := by
  rw [← Offers.isSome_size?_iff, ← h.sizeAt, Option.isSome_iff_exists]
  simp only [h.wellFormed.sizeAt?_eq_some_iff]
  constructor
  · rintro ⟨x, hx, hp⟩
    exact ⟨x.size, x, hx, hp, rfl⟩
  · rintro ⟨-, x, hx, hp, -⟩
    exact ⟨x, hx, hp⟩

/-- Each offer is listed once. -/
theorem entries (h : l.Presents m) :
    ((l.toList.map fun x => (x.price.value, x.size) : List _) : Multiset _) = m.levels := by
  have hnodup : (l.toList.map fun x => (x.price.value, x.size)).Nodup := by
    refine List.Nodup.of_map Prod.fst ?_
    rw [List.map_map]
    exact h.wellFormed.nodup_values
  refine (Multiset.Nodup.ext (Multiset.coe_nodup.mpr hnodup) m.nodup_levels).mpr ?_
  rintro ⟨p, size⟩
  rw [Offers.mem_levels_iff, ← h.sizeAt, h.wellFormed.sizeAt?_eq_some_iff, Multiset.mem_coe]
  simp

/-- The prices of the list are those on offer, in order. -/
theorem ranked (h : l.Presents m) : l.toList.map (·.price.value) = side.ranked m.keys := by
  have hkeys : (l.toList.map (·.price.value)).toFinset = m.keys := by
    ext p
    rw [List.mem_toFinset, List.mem_map, Finmap.mem_keys, h.mem_iff]
  have hnodup := h.wellFormed.nodup_values
  rw [← hkeys]
  symm
  cases side with
  | bid =>
    refine (List.toFinset_sort _ hnodup).mpr (List.pairwise_map.mpr ?_)
    exact h.wellFormed.ordered.imp fun hb => (Side.better_bid_iff.mp hb).le
  | ask =>
    refine (List.toFinset_sort _ hnodup).mpr (List.pairwise_map.mpr ?_)
    exact h.wellFormed.ordered.imp fun hb => (Side.better_ask_iff.mp hb).le

theorem size (h : l.Presents m) : l.size = m.keys.card := by
  have hlength := congrArg List.length h.ranked
  rw [List.length_map] at hlength
  rw [Levels.size, hlength]
  cases side with
  | bid => exact Finset.length_sort _
  | ask => exact Finset.length_sort _

/-- The best level has the best of all prices. -/
theorem leads (h : l.Presents m) {x : Level} (hx : l.best? = some x) :
    side.Leads m.keys x.price.value := by
  obtain ⟨hmem, hbest⟩ := h.wellFormed.best?_eq_some_iff.mp hx
  have hkey : x.price.value ∈ m.keys := Finmap.mem_keys.mpr (h.mem_iff.mp ⟨x, hmem, rfl⟩)
  have hlevel : ∀ p ∈ m.keys, ∃ y ∈ l.toList, y.price.value = p := by
    intro p hp
    exact h.mem_iff.mpr (Finmap.mem_keys.mp hp)
  cases side with
  | bid =>
    refine ⟨hkey, fun p hp => ?_⟩
    obtain ⟨y, hy, rfl⟩ := hlevel p hp
    exact not_lt.mp (mt Side.better_bid_iff.mpr (hbest y hy))
  | ask =>
    refine ⟨hkey, fun p hp => ?_⟩
    obtain ⟨y, hy, rfl⟩ := hlevel p hp
    exact not_lt.mp (mt Side.better_ask_iff.mpr (hbest y hy))

end Presents

/-! ### The two sides -/

/-- The side is only a matter of order: what stands at a price does not depend on it. -/
theorem levelAt?_edited_eq (side other : Side) (edits : List Edit) (p : ℚ) :
    (edited side edits).levelAt? p = (edited other edits).levelAt? p := by
  induction edits using List.reverseRecOn with
  | nil => rfl
  | append_singleton edits e ih =>
    have hwf : (edited side edits).WellFormed := wellFormed_edited edits
    have hwf' : (edited other edits).WellFormed := wellFormed_edited edits
    rw [edited_concat, edited_concat]
    cases e with
    | insert price size =>
      have hside := hwf.levelAt?_insert ⟨price, size⟩ p
      have hother := hwf'.levelAt?_insert ⟨price, size⟩ p
      rw [ih, ← hother] at hside
      exact hside
    | remove price =>
      rw [edit, edit, remove, remove, levelAt?_erase, levelAt?_erase, ih]
    | clear => rfl

theorem WellFormed.reverse {l : Levels .bid} (h : l.WellFormed) :
    (⟨l.toList.reverse⟩ : Levels .ask).WellFormed := by
  refine ⟨List.pairwise_reverse.mpr ?_, fun x hx => h.positive x (List.mem_reverse.mp hx)⟩
  exact h.ordered.imp fun hb => Side.better_ask_iff.mpr (Side.better_bid_iff.mp hb)

/-- The same changes make the same levels of both sides, in opposite order. -/
theorem toList_edited_ask (edits : List Edit) :
    (edited .ask edits).toList = (edited .bid edits).toList.reverse := by
  have hbids : (edited .bid edits).WellFormed := wellFormed_edited edits
  have hasks : (edited .ask edits).WellFormed := wellFormed_edited edits
  have hsame := hasks.eq_of_levelAt?_eq hbids.reverse fun p => ?_
  · exact congrArg toList hsame
  · refine Option.ext fun x => ?_
    rw [levelAt?_edited_eq .ask .bid, hbids.levelAt?_eq_some_iff,
      hbids.reverse.levelAt?_eq_some_iff, List.mem_reverse]

/-- **A side refines a finite map.** Whatever changes it has gone through, it presents the
offers that they make of a finite map, and what is on offer at a price is what the last
change left there. Each change tells the size that was there before it, and a price is looked
up as on the map. The levels are listed once each and in the order of their prices, the
greatest first for bids and the least first for asks, which is opposite for the two sides.
The first one is the best, and the rest is counted as it is listed. -/
theorem edited_refines_offers (side : Side) (edits : List Edit) :
    let l := edited side edits
    let m := Offers.edited edits
    (∀ p, m.size? p = Edit.lastLeft? edits p) ∧
    (∀ price size, (l.insert price size).1 = m.size? price.value ∧
      (l.remove price).1 = m.size? price.value) ∧
    (∀ price, l.get? price = m.size? price.value ∧
      (l.contains price = true ↔ price.value ∈ m)) ∧
    ((l.toList.map fun x => (x.price.value, x.size) : List _) : Multiset _) = m.levels ∧
    l.toList.map (·.price.value) = side.ranked m.keys ∧
    (edited .ask edits).toList = (edited .bid edits).toList.reverse ∧
    l.best? = l.toList.head? ∧
    (∀ x, l.best? = some x → side.Leads m.keys x.price.value) ∧
    (∀ n, l.top n = l.toList.take (min n l.size) ∧ (l.top n).length = min n l.size) ∧
    l.size = m.keys.card ∧ (l.isEmpty = true ↔ l.size = 0) := by
  intro l m
  have h : l.Presents m := presents_edited edits
  refine ⟨Offers.size?_edited edits, ?_, ?_, h.entries, h.ranked, toList_edited_ask edits, rfl,
    fun x hx => h.leads hx, ?_, h.size, ?_⟩
  · intro price size
    rw [insert_fst]
    exact ⟨h.get? price, h.get? price⟩
  · intro price
    exact ⟨h.get? price, h.contains_iff price⟩
  · intro n
    exact ⟨List.take_eq_take_min, List.length_take⟩
  · rw [isEmpty, size, List.isEmpty_iff, List.length_eq_zero_iff]

end Levels

end BookSync
