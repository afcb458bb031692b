/-
The best prices of a book, and what is reckoned with them.

The touch of a book is its highest bid and its lowest ask. From these two prices a book
tells the middle between them, how far they are apart and whether they cross. Prices come
from the stream unchecked, so that all of this is told for any decimals there are:

* `touch?_eq_some_iff`: the first levels of a well formed book are its touch;
* `mid_between_iff`: the middle is refused if the best prices add up to too much, and
  else it lies between them exactly if the sum, as it is rounded, is off by no more than
  they are apart. Where their sum is a decimal it always does;
* `crossed_iff_spread_nonpos`: the sign of the spread tells a crossed book, as rounding
  keeps it, and a spread that is a decimal is exact.

The exceptions for the middle are real: `mid_leaves_touch` names a book whose middle is
below its highest bid, and one whose middle is refused.
-/
import BookSync.Proofs.Decimal.Midpoint
import BookSync.Proofs.Sync.Installed

namespace BookSync

namespace Book

variable {b : Book} {bid ask : Level}

/-! ### The touch -/

/-- The bid is the highest one of the book, and the ask is the lowest. -/
structure Touch (b : Book) (bid ask : Level) : Prop where
  bid_mem : bid ∈ b.bids.toList
  highest : ∀ x ∈ b.bids.toList, x.price.value ≤ bid.price.value
  ask_mem : ask ∈ b.asks.toList
  lowest : ∀ x ∈ b.asks.toList, ask.price.value ≤ x.price.value

theorem touch_iff : b.Touch bid ask ↔ b.bids.IsBest bid ∧ b.asks.IsBest ask := by
  simp only [Levels.IsBest, Side.better_bid_iff, Side.better_ask_iff, not_lt]
  constructor
  · rintro ⟨hbid, hhighest, hask, hlowest⟩
    exact ⟨⟨hbid, hhighest⟩, hask, hlowest⟩
  · rintro ⟨⟨hbid, hhighest⟩, hask, hlowest⟩
    exact ⟨hbid, hhighest, hask, hlowest⟩

theorem touch?_eq_some : b.touch? = some (bid, ask) ↔
    b.bids.best? = some bid ∧ b.asks.best? = some ask := by
  simp [touch?, Option.bind_eq_some_iff]

theorem touch?_eq_none_iff : b.touch? = none ↔ b.bids.toList = [] ∨ b.asks.toList = [] := by
  rw [← Levels.best?_eq_none_iff, ← Levels.best?_eq_none_iff, touch?]
  cases b.bids.best? with
  | none => simp
  | some x => cases b.asks.best? <;> simp

/-- **The first levels are the touch.** -/
theorem WellFormed.touch?_eq_some_iff (h : b.WellFormed) :
    b.touch? = some (bid, ask) ↔ b.Touch bid ask := by
  have hbids := (h .bid).best?_eq_some_iff (x := bid)
  have hasks := (h .ask).best?_eq_some_iff (x := ask)
  rw [touch?_eq_some, touch_iff]
  exact and_congr hbids hasks

/-! ### The middle -/

theorem mid_of_touch? (h : b.touch? = some (bid, ask)) :
    b.mid = (Decimal.add bid.price ask.price).map fun sum => some sum.half := by
  rw [mid, h]

/-- **When the middle lies between the best prices.** It is refused if they add up to too
much. Else it is the half of their sum as that is rounded, and it lies between them exactly
if the rounding is off by no more than they are apart; so it does if their sum is a decimal. -/
theorem mid_between_iff (h : b.Built) (ht : b.Touch bid ask)
    (hle : bid.price.value ≤ ask.price.value) :
    ((Decimal.bound : ℚ) - 1 / 2 ≤ |bid.price.value + ask.price.value| → b.mid = .error .sum) ∧
    (|bid.price.value + ask.price.value| < (Decimal.bound : ℚ) - 1 / 2 →
      ∃ sum m, Decimal.add bid.price ask.price = .ok sum ∧ b.mid = .ok (some m) ∧
        ((bid.price.value ≤ m.value ∧ m.value ≤ ask.price.value) ↔
          |sum.value - (bid.price.value + ask.price.value)| ≤
            ask.price.value - bid.price.value)) ∧
    (Decimal.Representable (bid.price.value + ask.price.value) →
      ∃ m, b.mid = .ok (some m) ∧ bid.price.value ≤ m.value ∧ m.value ≤ ask.price.value) := by
  have hmid := mid_of_touch? (h.wellFormed.touch?_eq_some_iff.mpr ht)
  have hbetween : ∀ {sum}, Decimal.add bid.price ask.price = .ok sum →
      ((bid.price.value ≤ sum.half.value ∧ sum.half.value ≤ ask.price.value) ↔
        |sum.value - (bid.price.value + ask.price.value)| ≤
          ask.price.value - bid.price.value) := by
    intro sum hsum
    exact (Decimal.add?_eq_some (Decimal.add_eq_ok_iff.mp hsum)).half_between_iff hle
  refine ⟨fun hlarge => ?_, fun hlt => ?_, fun hfits => ?_⟩
  · rw [hmid, map_eq_error_iff]
    exact Decimal.add_eq_error_iff.mpr ⟨rfl, hlarge⟩
  · cases hsum : Decimal.add bid.price ask.price with
    | error e => exact absurd (Decimal.add_eq_error_iff.mp hsum).2 (not_le.mpr hlt)
    | ok sum =>
      rw [hsum] at hmid
      exact ⟨sum, sum.half, rfl, hmid, hbetween hsum⟩
  · obtain ⟨sum, hsum, hexact⟩ := Decimal.add_of_representable hfits
    rw [hsum] at hmid
    refine ⟨sum.half, hmid, (hbetween hsum).mpr ?_⟩
    rw [hexact, sub_self, abs_zero]
    linarith

/-- A book with one bid and one ask, each of size one. -/
def quoted (bid ask : Decimal) : Book :=
  ⟨"X", ⟨[⟨bid, .ofCoeff 1 0⟩]⟩, ⟨[⟨ask, .ofCoeff 1 0⟩]⟩, 1, .awaitingBridge⟩

theorem built_quoted (bid ask : Decimal) : (quoted bid ask).Built :=
  .snapshot (s := ⟨1, none, none, [⟨bid, .ofCoeff 1 0⟩], [⟨ask, .ofCoeff 1 0⟩]⟩) rfl

theorem touch_quoted (bid ask : Decimal) :
    (quoted bid ask).Touch ⟨bid, .ofCoeff 1 0⟩ ⟨ask, .ofCoeff 1 0⟩ where
  bid_mem := List.mem_singleton_self _
  highest := by simp [quoted]
  ask_mem := List.mem_singleton_self _
  lowest := by simp [quoted]

/-- A tenth. -/
def tenth : Decimal := .ofCoeff 1 1

/-- The largest price with all places behind the point. -/
def longPrice : Decimal := .ofCoeff 79228162514264337593543950335 28

/-- Two units below it. -/
def midPrice : Decimal := .ofCoeff 79228162514264337593543950333 28

/-- Four units below it. -/
def lowPrice : Decimal := .ofCoeff 79228162514264337593543950331 28

/-- The largest price. -/
def hugePrice : Decimal := .ofCoeff 79228162514264337593543950335 0

/-- The sum of two prices far apart has to be rounded. -/
theorem mid_between_iff_wide : (quoted tenth longPrice).Built ∧
    (quoted tenth longPrice).Touch ⟨tenth, .ofCoeff 1 0⟩ ⟨longPrice, .ofCoeff 1 0⟩ ∧
    tenth.value ≤ longPrice.value ∧
    ∃ sum m, Decimal.add tenth longPrice = .ok sum ∧
      ¬ sum.value = tenth.value + longPrice.value ∧
      (quoted tenth longPrice).mid = .ok (some m) ∧
      tenth.value ≤ m.value ∧ m.value ≤ longPrice.value := by
  have htenth : tenth.value = 1 / 10 := by decide +kernel
  have hlong : longPrice.value = 79228162514264337593543950335 / 10 ^ 28 := by decide +kernel
  have hle : tenth.value ≤ longPrice.value := by
    rw [htenth, hlong]
    norm_num
  have hlt : |tenth.value + longPrice.value| < (Decimal.bound : ℚ) - 1 / 2 := by
    rw [htenth, hlong, Decimal.bound, abs_of_pos (by norm_num)]
    norm_num
  have hbuilt := built_quoted tenth longPrice
  have htouch := touch_quoted tenth longPrice
  obtain ⟨-, hmid, -⟩ := mid_between_iff hbuilt htouch hle
  obtain ⟨sum, m, hsum, hm, hbetween⟩ := hmid hlt
  have hvalue : sum.value = 8022816251426433759354395034 / 10 ^ 27 := by
    have hadd : Decimal.add tenth longPrice = .ok (.ofCoeff 8022816251426433759354395034 27) := rfl
    obtain rfl := Except.ok.inj (hadd.symm.trans hsum)
    decide +kernel
  have hne : ¬ sum.value = tenth.value + longPrice.value := by
    rw [hvalue, htenth, hlong]
    norm_num
  have herror : |sum.value - (tenth.value + longPrice.value)| ≤
      longPrice.value - tenth.value := by
    rw [hvalue, htenth, hlong, abs_of_pos (by norm_num)]
    norm_num
  exact ⟨hbuilt, htouch, hle, sum, m, hsum, hne, hm, hbetween.mpr herror⟩

/-- **The middle can leave the best prices, and it can be refused.** The sum of two prices
that are two units apart loses its last place, which here is four units. -/
theorem mid_leaves_touch :
    (∃ (b : Book) (bid ask : Level) (m : Decimal), b.Built ∧ b.Touch bid ask ∧
      bid.price.value < ask.price.value ∧ b.mid = .ok (some m) ∧ m.value < bid.price.value) ∧
    ∃ (b : Book) (bid ask : Level), b.Built ∧ b.Touch bid ask ∧
      bid.price.value ≤ ask.price.value ∧ b.mid = .error .sum := by
  constructor
  · have hmid : (quoted lowPrice midPrice).mid =
        .ok (some (.ofCoeff 7922816251426433759354395033 27)) := rfl
    have hbid : lowPrice.value < midPrice.value := by decide +kernel
    have hlow : (Decimal.ofCoeff 7922816251426433759354395033 27).value < lowPrice.value := by
      decide +kernel
    exact ⟨_, _, _, _, built_quoted lowPrice midPrice, touch_quoted lowPrice midPrice, hbid,
      hmid, hlow⟩
  · exact ⟨_, _, _, built_quoted hugePrice hugePrice, touch_quoted hugePrice hugePrice, le_rfl,
      rfl⟩

/-! ### The spread -/

theorem spread_of_touch? (h : b.touch? = some (bid, ask)) :
    b.spread = (Decimal.sub ask.price bid.price).map some := by
  rw [spread, h]

theorem spread_eq_none_iff : b.spread = .ok none ↔ b.bids.toList = [] ∨ b.asks.toList = [] := by
  rw [← touch?_eq_none_iff, spread]
  cases b.touch? with
  | none => simp
  | some p => cases h : Decimal.sub p.2.price p.1.price <;> simp [h, Except.map]

theorem isCrossed_of_touch? (h : b.touch? = some (bid, ask)) :
    b.isCrossed = true ↔ ask.price.value ≤ bid.price.value := by
  rw [isCrossed, h]
  exact decide_eq_true_iff.trans Decimal.le_iff_value

theorem WellFormed.isCrossed_iff (h : b.WellFormed) : b.isCrossed = true ↔
    ∃ bid ask, b.Touch bid ask ∧ ask.price.value ≤ bid.price.value := by
  cases ht : b.touch? with
  | none =>
    rw [isCrossed, ht]
    refine iff_of_false Bool.false_ne_true ?_
    rintro ⟨bid, ask, htouch, -⟩
    exact absurd (ht.symm.trans (h.touch?_eq_some_iff.mpr htouch)) (by simp)
  | some p =>
    rw [isCrossed_of_touch? ht]
    constructor
    · intro hle
      exact ⟨p.1, p.2, h.touch?_eq_some_iff.mp ht, hle⟩
    · rintro ⟨bid, ask, htouch, hle⟩
      obtain rfl := Option.some_inj.mp (ht.symm.trans (h.touch?_eq_some_iff.mpr htouch))
      exact hle

/-- **The spread tells a crossed book.** A book is crossed if its highest bid is not below
its lowest ask, and any spread that is told is not above zero exactly then. The spread of a
touch is refused if it is too large, and exact if it is a decimal. -/
theorem crossed_iff_spread_nonpos (h : b.WellFormed) :
    (b.isCrossed = true ↔ ∃ bid ask, b.Touch bid ask ∧ ask.price.value ≤ bid.price.value) ∧
    (∀ x, b.spread = .ok (some x) → (b.isCrossed = true ↔ x.value ≤ 0)) ∧
    (b.spread = .ok none ↔ b.bids.toList = [] ∨ b.asks.toList = []) ∧
    ∀ bid ask, b.Touch bid ask →
      (b.spread = .error .difference ↔
        (Decimal.bound : ℚ) - 1 / 2 ≤ |ask.price.value - bid.price.value|) ∧
      (Decimal.Representable (ask.price.value - bid.price.value) →
        ∃ x, b.spread = .ok (some x) ∧ x.value = ask.price.value - bid.price.value) := by
  refine ⟨h.isCrossed_iff, fun x hx => ?_, spread_eq_none_iff, fun bid ask htouch => ?_⟩
  · cases ht : b.touch? with
    | none =>
      rw [spread, ht] at hx
      exact absurd hx (by simp)
    | some p =>
      rw [spread_of_touch? ht] at hx
      obtain ⟨y, hy, hyx⟩ := map_eq_ok hx
      obtain rfl := Option.some_inj.mp hyx
      have hsign := (Decimal.sub?_eq_some (Decimal.sub_eq_ok_iff.mp hy)).pos_iff
      rw [isCrossed_of_touch? ht, ← not_lt, ← not_lt, hsign, sub_pos]
  · have hspread := spread_of_touch? (h.touch?_eq_some_iff.mpr htouch)
    constructor
    · rw [hspread, map_eq_error_iff, Decimal.sub_eq_error_iff, and_iff_right rfl]
    · intro hfits
      obtain ⟨x, hx, hexact⟩ := Decimal.sub_of_representable hfits
      rw [hx] at hspread
      exact ⟨x, hspread, hexact⟩

/-- A tenth and one unit of the last place. -/
def nextPrice : Decimal := .ofCoeff 1000000000000000000000000001 28

/-- Best prices that only the last place tells apart do not cross. -/
theorem crossed_iff_spread_nonpos_close : (quoted tenth nextPrice).WellFormed ∧
    (quoted tenth nextPrice).Touch ⟨tenth, .ofCoeff 1 0⟩ ⟨nextPrice, .ofCoeff 1 0⟩ ∧
    (quoted tenth nextPrice).isCrossed = false ∧
    ∃ x, (quoted tenth nextPrice).spread = .ok (some x) ∧ x.value = 1 / 10 ^ 28 := by
  have hwf := (built_quoted tenth nextPrice).wellFormed
  have htouch := touch_quoted tenth nextPrice
  have hgap : nextPrice.value - tenth.value = 1 / 10 ^ 28 := by decide +kernel
  have hfits : Decimal.Representable (nextPrice.value - tenth.value) :=
    ⟨1, 28, by decide, le_rfl, by rw [hgap, Int.cast_one]⟩
  obtain ⟨-, hsign, -, hspread⟩ := crossed_iff_spread_nonpos hwf
  obtain ⟨x, hx, hexact⟩ := (hspread _ _ htouch).2 hfits
  have hvalue : x.value = 1 / 10 ^ 28 := hexact.trans hgap
  have hpos : 0 < x.value := by
    rw [hvalue]
    norm_num
  have hcrossed := mt (hsign x hx).mp (not_le.mpr hpos)
  exact ⟨hwf, htouch, Bool.eq_false_iff.mpr hcrossed, x, hx, hvalue⟩

end Book

end BookSync
