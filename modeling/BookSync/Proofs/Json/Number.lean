/-
The values of number literals.

A literal of JSON becomes an integer if it is written as one and fits 64 bits, and a
floating point number otherwise.

* `accumulate_eq`: digits that fit 64 bits are all taken in;
* `Literal.Survives`: the value of a literal still shows its number;
* `Literal.IsWord`, `survives_of_isWord`: what is written as an integer and fits survives;
* `Literal.IsShort`, `survives_of_isShort`: so does what has fifteen digits at most and is
  neither very large nor very small.
-/
import BookSync.Proofs.Binary64.Positional
import BookSync.Proofs.Binary64.Shortest
import BookSync.Proofs.Json.Literal

namespace BookSync.Json

open Decimal (push)

theorem accumulate_eq {n : ℕ} {ds : List ℕ} (h : ds.foldl push n < UInt64.size) :
    Numeral.accumulate n ds = (ds.foldl push n, 0) := by
  induction ds generalizing n with
  | nil => rfl
  | cons d ds ih =>
    rw [List.foldl_cons] at h ⊢
    have hroom : push n d < UInt64.size := (Decimal.le_foldl_push _ ds).trans_lt h
    rw [Numeral.accumulate, if_pos hroom, ih h]

/-- The number that stands for a value where decimals are read: that of the shortest
digits if the value is a floating point number. -/
def Number.shown : Number → ℚ
  | .integer n => n
  | .float x => x.shortValue

/-- A literal whose value shows its number. -/
def Literal.Survives (l : Literal) : Prop :=
  ∃ n, l.parts.value? = some n ∧ n.shown = l.number.value

/-- A literal that is written as an integer and fits 64 bits, with a sign or without one. -/
structure Literal.IsWord (l : Literal) : Prop where
  fraction : l.fraction = []
  exponent : l.exponent = none
  lower : -2 ^ 63 ≤ l.number.value
  upper : l.number.value < 2 ^ 64

section

variable {l : Literal}

theorem number_eq_of_isWord (h : l.IsWord) :
    l.number = ⟨(if l.negative then -1 else 1) * l.significand, 0⟩ := by
  rw [Literal.number, Literal.power, h.fraction, h.exponent, List.length_nil, pow_zero, div_one]
  rfl

theorem significand_lt_of_isWord (h : l.IsWord) : l.significand < UInt64.size := by
  have hlower := h.lower
  have hupper := h.upper
  rw [number_eq_of_isWord h, Decimal.Numeral.value_plain] at hlower hupper
  have hcast : (l.significand : ℚ) < 2 ^ 64 := by
    cases hsign : l.negative with
    | true =>
      rw [hsign, if_pos rfl] at hlower
      linarith
    | false => simpa [hsign] using hupper
  exact_mod_cast hcast

theorem shortValue_zero (negative : Bool) : (Binary64.zero negative).shortValue = 0 := by
  have hshortest : (Binary64.zero negative).shortest .up = (0, 0) := rfl
  rw [Binary64.shortValue, hshortest]
  simp

/-- **Integers of 64 bits keep their number.** -/
theorem survives_of_isWord (h : l.IsWord) : l.Survives := by
  have hsignificand : l.significand = l.whole.foldl push 0 := by
    rw [Literal.significand, h.fraction, List.append_nil]
  have htake := accumulate_eq (hsignificand ▸ significand_lt_of_isWord h)
  rw [← hsignificand] at htake
  have hlower := h.lower
  rw [number_eq_of_isWord h, Decimal.Numeral.value_plain] at hlower
  have hvalue : l.parts.value? =
      if !l.negative then some (.integer l.significand)
      else if 0 < l.significand ∧ l.significand ≤ 0x8000000000000000 then
        some (.integer (-l.significand))
      else (Binary64.ofNat? true l.significand).map .float := by
    rw [Numeral.value?, Literal.parts, h.fraction, h.exponent]
    dsimp only
    rw [htake]
    rfl
  rw [Literal.Survives, number_eq_of_isWord h, Decimal.Numeral.value_plain, hvalue]
  cases hsign : l.negative with
  | false => exact ⟨.integer l.significand, rfl, by simp [Number.shown]⟩
  | true =>
    rw [hsign, if_pos rfl] at hlower
    have hle : l.significand ≤ 0x8000000000000000 := by
      have hcast : (l.significand : ℚ) ≤ 2 ^ 63 := by linarith
      exact_mod_cast hcast
    by_cases hzero : l.significand = 0
    · -- a zero with a minus is no integer
      refine ⟨.float (.zero true), ?_, ?_⟩
      · rw [hzero]
        rfl
      · rw [hzero, Number.shown, shortValue_zero]
        simp
    · refine ⟨.integer (-l.significand), ?_, by simp [Number.shown]⟩
      rw [Bool.not_true, if_neg Bool.false_ne_true, if_pos ⟨Nat.pos_of_ne_zero hzero, hle⟩]

end

/-! ### Few digits -/

/-- A literal of fifteen digits at most that is neither very large nor very small. -/
structure Literal.IsShort (l : Literal) : Prop where
  significand : l.significand < 10 ^ 15
  places : l.fraction.length ≤ 28
  exponent : l.power.natAbs ≤ 28
  power : (l.power - l.fraction.length).natAbs ≤ 22

section

variable {l : Literal}

theorem number_value (l : Literal) : l.number.value =
    (if l.negative then -1 else 1) * (l.significand * 10 ^ (l.power - l.fraction.length)) := by
  rw [Decimal.Numeral.value, Literal.number, zpow_sub₀ (by norm_num), zpow_natCast]
  ring

/-- What is not written as an integer goes through a floating point number. -/
theorem value?_eq_float (hlt : l.significand < UInt64.size)
    (h : l.fraction ≠ [] ∨ l.exponent ≠ none) :
    l.parts.value? =
      (Numeral.float? l.negative l.significand (l.power - l.fraction.length)).map .float := by
  have hsignificand : l.significand = l.fraction.foldl push (l.whole.foldl push 0) := by
    rw [Literal.significand, List.foldl_append]
  have hfraction := accumulate_eq (hsignificand ▸ hlt)
  have hwhole := accumulate_eq ((Decimal.le_foldl_push _ l.fraction).trans_lt (hsignificand ▸ hlt))
  rw [← hsignificand] at hfraction
  -- no digit is left out, so that the power is the one that the literal has
  rw [Numeral.value?, Literal.parts]
  dsimp only
  rw [hwhole]
  dsimp only
  rw [hfraction]
  rw [Literal.power]
  cases hexponent : l.exponent with
  | none =>
    have hne : l.fraction ≠ [] := h.resolve_right (by simp [hexponent])
    simp [hne]
  | some e =>
    have hshift : (if decide (e.sign = .minus) then
        ((0 : ℕ) : ℤ) - (l.fraction.length - 0 : ℕ) - (e.digits.foldl push 0 : ℕ)
        else ((0 : ℕ) : ℤ) - (l.fraction.length - 0 : ℕ) + (e.digits.foldl push 0 : ℕ)) =
        e.power - l.fraction.length := by
      rw [Exponent.power]
      by_cases hsign : e.sign = .minus
      · rw [if_pos hsign, if_pos (decide_eq_true hsign)]
        omega
      · rw [if_neg hsign, if_neg (by simpa using hsign)]
        omega
    exact congrArg (fun power =>
      (Numeral.float? l.negative l.significand power).map Number.float) hshift

theorem float?_eq (negative : Bool) (m : ℕ) {power : ℤ} (h : power.natAbs ≤ 22) :
    Numeral.float? negative m power =
      (Binary64.ofNat? negative m).bind fun x => x.scaleTen? power := by
  rw [Numeral.float?]
  refine congrArg _ (funext fun x => ?_)
  split
  · rename_i hneg
    have hpower : -(power.natAbs : ℤ) = power := by omega
    rw [Numeral.shrink?, if_pos (by omega), hpower]
  · rw [if_pos (by omega)]

/-- A zero stays a zero, whatever its power of ten is. -/
theorem scaleTen?_zero (negative : Bool) {power : ℤ} (h : power.natAbs ≤ 22) :
    (Binary64.zero negative).scaleTen? power = some (.zero negative) := by
  obtain ⟨y, hy, -, -⟩ := Binary64.exists_ofNat?_tenTo h
  have hratio : (Binary64.zero negative).ratio.1 = 0 := Nat.zero_mul _
  rw [Binary64.scaleTen?, hy, Option.bind_some]
  dsimp only
  rw [hratio, Nat.zero_mul, Nat.zero_mul, Binary64.ofRatio?, if_pos rfl, Binary64.ofRatio?,
    if_pos rfl, ite_self]
  rfl

/-- Fifteen digits with a small power of ten are far from the limits. -/
theorem product_bounds {m : ℕ} (hpos : 0 < m) (hm : m < 10 ^ 15) {power : ℤ}
    (h : power.natAbs ≤ 22) :
    (2 : ℚ) ^ (-1022 : ℤ) ≤ m * 10 ^ power ∧ (m * 10 ^ power : ℚ) < 2 ^ (1023 : ℤ) := by
  have hten : (1 : ℚ) ≤ 10 := by norm_num
  have htwo : (1 : ℚ) ≤ 2 := by norm_num
  have hone : (1 : ℚ) ≤ m := by exact_mod_cast hpos
  have hfifteen : (m : ℚ) ≤ 10 ^ 15 := by exact_mod_cast hm.le
  have hpow := Binary64.ten_zpow_pos power
  constructor
  · calc (2 : ℚ) ^ (-1022 : ℤ) ≤ 2 ^ (-88 : ℤ) := zpow_le_zpow_right₀ htwo (by norm_num)
      _ ≤ 10 ^ (-22 : ℤ) := by norm_num
      _ ≤ 10 ^ power := zpow_le_zpow_right₀ hten (by omega)
      _ ≤ m * 10 ^ power := le_mul_of_one_le_left hpow.le hone
  · calc (m * 10 ^ power : ℚ) ≤ 10 ^ 15 * 10 ^ (22 : ℤ) :=
          mul_le_mul hfifteen (zpow_le_zpow_right₀ hten (by omega)) hpow.le (by positivity)
      _ < 2 ^ (148 : ℤ) := by norm_num
      _ ≤ 2 ^ (1023 : ℤ) := zpow_le_zpow_right₀ htwo (by norm_num)

/-- **Fifteen digits survive.** They are rounded once, and the number to which they are
rounded has no other digits as short as these. -/
theorem exists_float? (negative : Bool) {m : ℕ} (hm : m < 10 ^ 15) {power : ℤ}
    (h : power.natAbs ≤ 22) :
    ∃ x, Numeral.float? negative m power = some x ∧
      x.shortValue = (if negative then -1 else 1) * (m * 10 ^ power) := by
  rw [float?_eq negative m h]
  rcases Nat.eq_zero_or_pos m with rfl | hpos
  · refine ⟨.zero negative, ?_, ?_⟩
    · have hzero : Binary64.ofNat? negative 0 = some (.zero negative) := rfl
      rw [hzero, Option.bind_some, scaleTen?_zero negative h]
    · rw [shortValue_zero]
      simp
  · -- the digits are exact in floating point, and so is the power; only the product is rounded
    have hbits : m < 2 * Binary64.leastNormal := hm.trans (by decide)
    have hunit : m = m * 2 ^ 0 := (Nat.mul_one m).symm
    obtain ⟨x, hx, hnegative, hxpos, hvalue⟩ :=
      Binary64.exists_ofNat? negative hunit hpos hbits (by decide)
    obtain ⟨hlow, hhigh⟩ := product_bounds hpos hm h
    rw [← hvalue] at hlow hhigh
    obtain ⟨y, hy, hynegative, hynormal, hcovers⟩ := Binary64.exists_scaleTen? hxpos h hlow hhigh
    rw [hvalue] at hcovers
    refine ⟨y, by rw [hx, Option.bind_some, hy], ?_⟩
    rw [Binary64.shortValue, Binary64.shortest_eq .up hynormal hpos hm hcovers, hynegative,
      hnegative]

/-- **Literals of fifteen digits keep their number.** -/
theorem survives_of_isShort (h : l.IsShort) : l.Survives := by
  have hsignificand := h.significand
  by_cases hinteger : l.fraction = [] ∧ l.exponent = none
  · obtain ⟨hfraction, hexponent⟩ := hinteger
    have hvalue : l.number.value = (if l.negative then -1 else 1) * l.significand := by
      rw [number_value, Literal.power, hfraction, hexponent]
      simp
    have hcast : (l.significand : ℚ) < 10 ^ 15 := by exact_mod_cast hsignificand
    have hnonneg : (0 : ℚ) ≤ l.significand := Nat.cast_nonneg _
    refine survives_of_isWord ⟨hfraction, hexponent, ?_, ?_⟩
    · rw [hvalue]
      split
      · linarith
      · linarith
    · rw [hvalue]
      split
      · linarith
      · linarith
  · have hfloat : l.fraction ≠ [] ∨ l.exponent ≠ none := not_and_or.mp hinteger
    obtain ⟨x, hx, hshown⟩ := exists_float? l.negative hsignificand h.power
    refine ⟨.float x, ?_, ?_⟩
    · rw [value?_eq_float (hsignificand.trans (by decide)) hfloat, hx]
      rfl
    · rw [Number.shown, hshown, number_value]

end

end BookSync.Json
