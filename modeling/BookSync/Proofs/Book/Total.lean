/-
The total of one side of a book.

The sizes of a side are added up one after the other, and each sum is a decimal again,
so that it could be rounded or grow too large on the way. If all sizes are whole numbers
of one unit and what they add up to has room in that unit, then so has every sum on the
way, since no size is below zero:

* `InUnits`: a number that is a whole number of units of one place;
* `foldlM_add_exact`: sums of such numbers are exact as long as the last one has room;
* `total_of_edited`: so the total of a side is the exact sum of its sizes, however the
  side came about.
-/
import BookSync.Proofs.Book.Edits
import BookSync.Proofs.Decimal.Sum

namespace BookSync

namespace Decimal

/-! ### Sums in one unit -/

/-- The number is a whole number of units of the `k`-th place behind the point. -/
def InUnits (k : ℕ) (x : ℚ) : Prop := ∃ n : ℕ, x * 10 ^ k = n

variable {k : ℕ} {x y : ℚ} {d : Decimal}

theorem inUnits_value (hscale : d.scale ≤ k) (hd : 0 ≤ d.value) : InUnits k d.value := by
  have hunits := value_mul_of_scale_le hscale
  have hnonneg : 0 ≤ d.coeff * (tenTo (k - d.scale) : ℤ) := by
    have hcast := mul_nonneg hd (ten_pow_pos k).le
    rw [hunits] at hcast
    exact_mod_cast hcast
  obtain ⟨n, hn⟩ := Int.eq_ofNat_of_zero_le hnonneg
  exact ⟨n, by rw [hunits, hn, Int.cast_natCast]⟩

theorem InUnits.add (hx : InUnits k x) (hy : InUnits k y) : InUnits k (x + y) := by
  obtain ⟨m, hm⟩ := hx
  obtain ⟨n, hn⟩ := hy
  exact ⟨m + n, by rw [add_mul, hm, hn, Nat.cast_add]⟩

/-- With room for its units, such a number is a decimal. -/
theorem InUnits.representable (h : InUnits k x) (hk : k ≤ 28) (hroom : x * 10 ^ k < bound) :
    Representable x := by
  obtain ⟨n, hn⟩ := h
  have hlt : n < bound := by
    rw [hn] at hroom
    exact_mod_cast hroom
  exact ⟨n, k, hlt, hk, by rw [Int.cast_natCast, ← hn, mul_div_cancel_right₀ _ (ten_pow_pos k).ne']⟩

/-- **Sums in one unit are exact as long as there is room for the last one.** -/
theorem foldlM_add_exact (hk : k ≤ 28) {ds : List Decimal}
    (hds : ∀ d ∈ ds, d.scale ≤ k ∧ 0 ≤ d.value) {a : Decimal} (ha : InUnits k a.value)
    (hroom : (a.value + (ds.map value).sum) * 10 ^ k < bound) :
    ∃ total, ds.foldlM add a = .ok total ∧ total.value = a.value + (ds.map value).sum := by
  induction ds generalizing a with
  | nil => exact ⟨a, rfl, by simp⟩
  | cons d ds ih =>
    obtain ⟨⟨hscale, hd⟩, hrest⟩ := List.forall_mem_cons.mp hds
    rw [List.map_cons, List.sum_cons, ← add_assoc] at hroom ⊢
    have hunits := ha.add (inUnits_value hscale hd)
    -- what is still to come does not make the sum smaller
    have hlater : 0 ≤ (ds.map value).sum :=
      List.sum_nonneg (List.forall_mem_map.mpr fun e he => (hrest e he).2)
    have hnow : (a.value + d.value) * 10 ^ k < bound :=
      (mul_le_mul_of_nonneg_right (le_add_of_nonneg_right hlater) (ten_pow_pos k).le).trans_lt hroom
    obtain ⟨sum, hsum, hexact⟩ := add_of_representable (hunits.representable hk hnow)
    rw [← hexact] at hunits hroom ⊢
    rw [List.foldlM_cons, hsum]
    exact ih hrest hunits hroom

end Decimal

/-! ### The sizes of a side -/

namespace Levels

variable {side : Side} {l : Levels side} {k : ℕ}

/-- What the sizes of a side add up to. -/
def exactTotal (l : Levels side) : ℚ := (l.toList.map (·.size.value)).sum

theorem sum_sizesAscending (l : Levels side) :
    (l.sizesAscending.map Decimal.value).sum = l.exactTotal := by
  cases side with
  | bid => rw [sizesAscending, List.map_reverse, List.sum_reverse, List.map_map]; rfl
  | ask => rw [sizesAscending, List.map_map]; rfl

theorem mem_sizesAscending {s : Decimal} (h : s ∈ l.sizesAscending) :
    ∃ x ∈ l.toList, x.size = s := by
  cases side with
  | bid => exact List.mem_map.mp (List.mem_reverse.mp h)
  | ask => exact List.mem_map.mp h

theorem WellFormed.total_exact (h : l.WellFormed) (hk : k ≤ 28)
    (hscale : ∀ x ∈ l.toList, x.size.scale ≤ k)
    (hroom : l.exactTotal * 10 ^ k < Decimal.bound) :
    ∃ total, l.total = .ok total ∧ total.value = l.exactTotal := by
  have hsizes : ∀ s ∈ l.sizesAscending, s.scale ≤ k ∧ 0 ≤ s.value := by
    intro s hs
    obtain ⟨x, hx, rfl⟩ := mem_sizesAscending hs
    exact ⟨hscale x hx, (h.positive x hx).le⟩
  have hzero : Decimal.InUnits k Decimal.zero.value := ⟨0, by simp⟩
  have hsum := Decimal.foldlM_add_exact hk hsizes hzero
  rw [Decimal.value_zero, zero_add, sum_sizesAscending] at hsum
  exact hsum hroom

theorem WellFormed.size_le_exactTotal (h : l.WellFormed) {x : Level} (hx : x ∈ l.toList) :
    x.size.value ≤ l.exactTotal := by
  refine List.single_le_sum ?_ _ (List.mem_map.mpr ⟨x, hx, rfl⟩)
  exact List.forall_mem_map.mpr fun y hy => (h.positive y hy).le

/-- Only the sizes count, in whatever order they stand. -/
theorem exactTotal_eq_of_perm {other : Side} {l' : Levels other}
    (h : (l'.toList.map (·.size)).Perm (l.toList.map (·.size))) :
    l'.exactTotal = l.exactTotal := by
  have hsum := (h.map Decimal.value).sum_eq
  rwa [List.map_map, List.map_map] at hsum

/-- **A total that has room is exact.** If no size of a side has more than `k` places, and
what they add up to has room with `k` places, then the total of the side is their exact
sum, which is zero for an empty side and no less than any single size. Only the sizes
count: a side that came about otherwise, and has them at other prices, has the same total. -/
theorem total_of_edited (edits : List Edit) (hk : k ≤ 28)
    (hscale : ∀ x ∈ (edited side edits).toList, x.size.scale ≤ k)
    (hroom : (edited side edits).exactTotal * 10 ^ k < 2 ^ 96) :
    ∃ total, (edited side edits).total = .ok total ∧
      total.value = (edited side edits).exactTotal ∧
      ((edited side edits).isEmpty = true → total.value = 0) ∧
      (∀ x ∈ (edited side edits).toList, x.size.value ≤ total.value) ∧
      ∀ (other : Side) (edits' : List Edit),
        ((edited other edits').toList.map (·.size)).Perm
          ((edited side edits).toList.map (·.size)) →
        ∃ total', (edited other edits').total = .ok total' ∧ total'.value = total.value := by
  have hwf : (edited side edits).WellFormed := wellFormed_edited edits
  have hbound : (2 : ℚ) ^ 96 = Decimal.bound := by
    rw [Decimal.bound]
    norm_num
  rw [hbound] at hroom
  obtain ⟨total, htotal, hexact⟩ := hwf.total_exact hk hscale hroom
  refine ⟨total, htotal, hexact, fun hempty => ?_, fun x hx => ?_, fun other edits' hperm => ?_⟩
  · rw [hexact, exactTotal, List.isEmpty_iff.mp hempty]
    rfl
  · rw [hexact]
    exact hwf.size_le_exactTotal hx
  · have hsame := exactTotal_eq_of_perm hperm
    rw [← hsame] at hroom
    rw [hexact, ← hsame]
    refine (wellFormed_edited edits').total_exact hk (fun x hx => ?_) hroom
    obtain ⟨y, hy, hsize⟩ := List.mem_map.mp (hperm.mem_iff.mp (List.mem_map.mpr ⟨x, hx, rfl⟩))
    exact hsize ▸ hscale y hy

/-- Changes that give one price two spellings, and take another away again. -/
def respelled : List Edit :=
  [.insert (.ofCoeff 10 1) (.ofCoeff 5 1), .insert (.ofCoeff 2 0) (.ofCoeff 7 0),
    .insert (.ofCoeff 100 2) (.ofCoeff 25 2), .remove (.ofCoeff 20 1),
    .insert (.ofCoeff 3 0) (.ofCoeff 1125 3), .insert (.ofCoeff 4 0) (.ofCoeff (-1) 0)]

/-- The sizes have two and three places, and their sum has three. -/
theorem total_of_edited_respelled :
    (∀ x ∈ (edited .bid respelled).toList, x.size.scale ≤ 3) ∧
    (edited .bid respelled).exactTotal * 10 ^ 3 < 2 ^ 96 ∧
    ∃ total, (edited .bid respelled).total = .ok total ∧ total.value = 1375 / 1000 ∧
      ∀ x ∈ (edited .bid respelled).toList, x.size.value ≤ total.value := by
  have hlevels : (edited .bid respelled).toList =
      [⟨.ofCoeff 3 0, .ofCoeff 1125 3⟩, ⟨.ofCoeff 10 1, .ofCoeff 25 2⟩] := by decide +kernel
  have hscale : ∀ x ∈ (edited .bid respelled).toList, x.size.scale ≤ 3 := by
    rw [hlevels]
    decide
  have htotal : (edited .bid respelled).exactTotal = 1375 / 1000 := by
    rw [exactTotal, hlevels]
    decide +kernel
  have hroom : (edited .bid respelled).exactTotal * 10 ^ 3 < 2 ^ 96 := by
    rw [htotal]
    norm_num
  obtain ⟨total, hok, hexact, -, hlargest, -⟩ :=
    total_of_edited respelled (k := 3) (by decide) hscale hroom
  exact ⟨hscale, hroom, total, hok, hexact.trans htotal, hlargest⟩

end Levels

end BookSync
