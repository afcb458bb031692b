/-
How long candles last.

The name of an interval is a count with a unit behind it. The count may be zero, and
then the interval has no length: a candle of it would stop a tenth of a second before
it starts.

* `Interval.seconds_pos_iff`: an interval has a length if one of its digits is not zero;
* `ofEntry_window`: the stop of a candle, from its start and its interval;
* `start_lt_stop_iff`: a candle that is accepted starts before it stops exactly if its
  interval has a length, and then it lasts for nine tenths of a second at least.

That an interval without length is accepted is shown by `stop_lt_start`.
-/
import BookSync.Proofs.Decimal.Digits
import BookSync.Proofs.Market.Entries
import BookSync.Proofs.Market.Window

namespace BookSync

/-! ### Counts above zero -/

namespace Decimal

variable {c : Char} {cs : List Char} {d k : ℕ}

/-- A digit other than zero. -/
def IsCounting (c : Char) : Prop := '1' ≤ c ∧ c ≤ '9'

theorem digit?_pos_iff (h : digit? c = some d) : 0 < d ↔ IsCounting c := by
  have hsome : (digit? c).isSome = true := by
    rw [h]
    rfl
  obtain ⟨hlow, hhigh⟩ := toNat_of_isSome hsome
  obtain rfl := Option.some_inj.mp (h.symm.trans (digit?_eq_of_isSome hsome))
  have hone : '1' ≤ c ↔ 49 ≤ c.toNat := Iff.rfl
  have hnine : c ≤ '9' ↔ c.toNat ≤ 57 := Iff.rfl
  have hzero : '0'.toNat = 48 := rfl
  rw [IsCounting, hone, hnine, hzero]
  omega

theorem digit?_of_isCounting (h : IsCounting c) : ∃ d, digit? c = some d ∧ 0 < d := by
  have hzero : '0' ≤ c := le_trans (by decide) h.1
  have hdigit : digit? c = some (c.toNat - '0'.toNat) := if_pos ⟨hzero, h.2⟩
  exact ⟨_, hdigit, (digit?_pos_iff hdigit).mpr h⟩

theorem numberOf_pos_iff : 0 < numberOf cs ↔ ∃ c ∈ cs, IsCounting c := by
  constructor
  · intro hpos
    by_contra hno
    -- without such a digit all digits are zero
    have hzero : ∀ d ∈ digitsOf cs, d = 0 := by
      intro d hd
      obtain ⟨c, hc, hdigit⟩ := List.mem_filterMap.mp hd
      by_contra hne
      exact hno ⟨c, hc, (digit?_pos_iff hdigit).mp (Nat.pos_of_ne_zero hne)⟩
    have hreplicate := List.eq_replicate_iff.mpr ⟨rfl, hzero⟩
    rw [numberOf, hreplicate, List.reverse_replicate, Nat.ofDigits_replicate_zero] at hpos
    exact Nat.lt_irrefl 0 hpos
  · rintro ⟨c, hc, hcounting⟩
    obtain ⟨d, hdigit, hpos⟩ := digit?_of_isCounting hcounting
    have hmem : d ∈ (digitsOf cs).reverse :=
      List.mem_reverse.mpr (List.mem_filterMap.mpr ⟨c, hc, hdigit⟩)
    by_contra hzero
    have hall := Nat.digits_zero_of_eq_zero (by decide) (Nat.eq_zero_of_not_pos hzero) d hmem
    omega

/-- A count is above zero if one of its digits is. -/
theorem Count.pos_iff (h : Count cs k) : 0 < k ↔ ∃ c ∈ cs, IsCounting c := by
  cases h with
  | unsigned _ => exact numberOf_pos_iff
  | @plus cs _ =>
    have hplus : ¬ IsCounting '+' := fun h => absurd h.1 (by decide)
    rw [numberOf_pos_iff]
    simp [hplus]

end Decimal

/-! ### Intervals -/

namespace Interval

variable {name : String} {secs : UInt64}

/-- The letter of a unit is no digit. -/
theorem Measure.not_isCounting {letter : Char} {unit : ℕ} (h : Measure letter unit) :
    ¬ Decimal.IsCounting letter := by
  intro hcounting
  cases h <;> exact absurd hcounting.2 (by decide)

/-- **An interval has a length if one of its digits is not zero.** -/
theorem seconds_pos_iff (h : seconds name = .ok secs) :
    0 < secs.toNat ↔ ∃ c ∈ name.toList, Decimal.IsCounting c := by
  obtain ⟨n, unit, hname, -, -, hsecs⟩ := seconds?_eq_some_iff.mp (seconds_eq_ok_iff.mp h)
  generalize name.toList = cs at hname
  obtain ⟨hcount, hunit⟩ := hname
  rw [hsecs, Nat.mul_pos_iff_of_pos_right hunit.pos, hcount.pos_iff]
  simp [hunit.not_isCounting]

end Interval

/-! ### Candles -/

namespace Candle

variable {e : Envelope} {r : Entry} {c : Candle} {cs : List Candle}

/-- The stop of a candle, from its start and its interval. -/
theorem ofEntry_window (h : ofEntry e r = .ok c) : ∃ secs, Interval.seconds c.interval = .ok secs ∧
    c.start.toNat = 1000 * r.time.toNat ∧
      c.stop.toNat = c.start.toNat + 1000 * secs.toNat - 100 := by
  obtain ⟨interval, symbol, secs, hfits⟩ := exists_fits_of_ofEntry h
  obtain ⟨start, stop, hc, hstart, hstop⟩ := hfits.exists_ofEntry (e := e)
  obtain rfl := Except.ok.inj (h.symm.trans hc)
  refine ⟨secs, hfits.seconds, hstart, ?_⟩
  show stop.toNat = start.toNat + _ - 100
  rw [hstart, hstop]

/-- **When a candle starts before it stops.** It does if its interval has a digit other than
zero, and then it stops a tenth of a second before its end. Else its interval has no length, and
it stops a tenth of a second before it starts, or at the start of 1970. -/
theorem start_lt_stop_iff (h : ofEnvelope e = .ok cs) (hc : c ∈ cs) :
    ∃ secs, Interval.seconds c.interval = .ok secs ∧
      (c.start < c.stop ↔ ∃ d ∈ c.interval.toList, Decimal.IsCounting d) ∧
      (c.start < c.stop → c.stop.toNat + 100 = c.start.toNat + 1000 * secs.toNat ∧
        c.start.toNat + 900 ≤ c.stop.toNat) ∧
      (¬ c.start < c.stop → secs = 0 ∧ c.stop.toNat = c.start.toNat - 100) := by
  obtain ⟨rs, -, h⟩ := bind_eq_ok h
  obtain ⟨r, -, hr⟩ := exists_of_mem_mapM h c hc
  obtain ⟨secs, hsecs, -, hstop⟩ := ofEntry_window hr
  have hlt : c.start < c.stop ↔ 0 < secs.toNat := by
    rw [UInt64.lt_iff_toNat_lt, hstop]
    omega
  refine ⟨secs, hsecs, ?_, fun hpos => ?_, fun hzero => ?_⟩
  · rw [hlt, Interval.seconds_pos_iff hsecs]
  · have hpos := hlt.mp hpos
    omega
  · have hzero : secs.toNat = 0 := Nat.eq_zero_of_not_pos (mt hlt.mpr hzero)
    refine ⟨UInt64.toNat_inj.mp hzero, ?_⟩
    rw [hstop, hzero]
    omega

/-- A message with one candle, whose numbers are all one. -/
def candleAt (time : ℕ) (name : String) : Envelope :=
  candleMessage.carrying (.array [.object [("c", .text "1"), ("h", .text "1"), ("l", .text "1"),
    ("n", .text name), ("o", .text "1"), ("t", .number (.integer time)), ("v", .text "1")]])

/-- The candle of such a message. -/
def candleFrom (interval symbol : String) (start stop : Millis) : Candle :=
  ⟨symbol, interval, start, stop, .ofCoeff 1 0, .ofCoeff 1 0, .ofCoeff 1 0, .ofCoeff 1 0,
    .ofCoeff 1 0, 1615366400000⟩

/-- A candle from the start of 1970 on. -/
theorem start_lt_stop_iff_second :
    ofEnvelope (candleAt 0 "+01s_BTC") = .ok [candleFrom "+01s" "BTC" 0 900] ∧
      (candleFrom "+01s" "BTC" 0 900).start < (candleFrom "+01s" "BTC" 0 900).stop := by
  have hcandle : ofEnvelope (candleAt 0 "+01s_BTC") = .ok [candleFrom "+01s" "BTC" 0 900] := by
    with_unfolding_all rfl
  obtain ⟨secs, -, hiff, -⟩ := start_lt_stop_iff hcandle (List.mem_singleton_self _)
  exact ⟨hcandle, hiff.mpr ⟨'1', by decide, by decide, by decide⟩⟩

/-- **A candle can stop before it starts.** -/
theorem stop_lt_start : ∃ e c, ofEnvelope e = .ok [c] ∧ c.stop < c.start := by
  have hcandle : ofEnvelope (candleAt 1615366400 "0s_BTC") =
      .ok [candleFrom "0s" "BTC" 1615366400000 1615366399900] := by
    with_unfolding_all rfl
  exact ⟨_, _, hcandle, by decide⟩

end Candle

end BookSync
