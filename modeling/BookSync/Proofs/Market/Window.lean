/-
The window of a candle, in whole numbers.

Start and stop of a candle are words of 64 bits. They are computed in four steps,
each of which may leave the range of a word, and are told here in numbers
without bound:

* `millis_eq_ok_iff`, `stopTime_eq_ok_iff`: a step has a result if the number fits,
  and then it is this number;
* `Fits`, `Fault`: what makes an entry a candle, and what keeps it from being one,
  in the order in which it is looked at;
* `ofEntry_exact`: an entry that fits is the candle from `1000 * time` to a tenth of a
  second before its end, and any other is refused for its first fault.
-/
import BookSync.Market.Candle
import BookSync.Proofs.Market.Interval
import BookSync.Proofs.Results
import BookSync.Proofs.Text.Parts
import Mathlib.Data.Int.Order.Basic

namespace BookSync

/-! ### Steps -/

section

variable {field : String} {secs : UInt64} {ms : Millis} {error : DecodeError}

theorem millis_eq_ok_iff :
    millis field secs = .ok ms ↔
      1000 * secs.toNat < UInt64.size ∧ ms.toNat = 1000 * secs.toNat := by
  rw [millis]
  split
  · rename_i h
    have hmul : (secs * 1000).toNat = 1000 * secs.toNat := by
      rw [UInt64.toNat_mul, Nat.mul_comm 1000]
      exact Nat.mod_eq_of_lt h
    rw [Except.ok.injEq, ← UInt64.toNat_inj, hmul]
    omega
  · rename_i h
    simp only [reduceCtorEq, false_iff]
    omega

theorem exists_millis (field : String) (h : 1000 * secs.toNat < UInt64.size) :
    ∃ ms, millis field secs = .ok ms ∧ ms.toNat = 1000 * secs.toNat := by
  have hword : (UInt64.ofNat (1000 * secs.toNat)).toNat = 1000 * secs.toNat :=
    UInt64.toNat_ofNat_of_lt' h
  exact ⟨_, millis_eq_ok_iff.mpr ⟨h, hword⟩, hword⟩

theorem millis_eq_error_iff :
    millis field secs = .error error ↔
      UInt64.size ≤ 1000 * secs.toNat ∧ error = .outOfRange field secs := by
  rw [millis]
  split
  · rename_i h
    simp only [reduceCtorEq, false_iff]
    omega
  · rename_i h
    rw [Except.error.injEq, eq_comm, and_iff_right (by omega)]

end

namespace Candle

section

variable {time : UInt64} {start length stop : Millis} {error : DecodeError}

theorem stopTime_eq_ok_iff :
    stopTime time start length = .ok stop ↔
      start.toNat + length.toNat < UInt64.size ∧ stop.toNat = start.toNat + length.toNat - 100 := by
  rw [stopTime]
  split
  · rename_i h
    have hcast : (UInt64.ofNat (start.toNat + length.toNat - 100)).toNat =
        start.toNat + length.toNat - 100 :=
      UInt64.toNat_ofNat_of_lt' (lt_of_le_of_lt (Nat.sub_le _ _) h)
    rw [Except.ok.injEq, ← UInt64.toNat_inj, hcast]
    omega
  · rename_i h
    simp only [reduceCtorEq, false_iff]
    omega

theorem exists_stopTime (time : UInt64) (h : start.toNat + length.toNat < UInt64.size) :
    ∃ stop, stopTime time start length = .ok stop ∧
      stop.toNat = start.toNat + length.toNat - 100 := by
  have hstop : stopTime time start length = .ok (.ofNat (start.toNat + length.toNat - 100)) := by
    rw [stopTime, if_pos h]
  exact ⟨_, hstop, (stopTime_eq_ok_iff.mp hstop).2⟩

theorem stopTime_eq_error_iff :
    stopTime time start length = .error error ↔
      UInt64.size ≤ start.toNat + length.toNat ∧ error = .outOfRange "t" time := by
  rw [stopTime]
  split
  · rename_i h
    simp only [reduceCtorEq, false_iff]
    omega
  · rename_i h
    rw [Except.error.injEq, eq_comm, and_iff_right (by omega)]

end

/-! ### Entries -/

/-- A name is an interval, an underscore and a contract. The contract may have
underscores, too. -/
structure Named (name interval symbol : String) : Prop where
  parts : name.toList = interval.toList ++ '_' :: symbol.toList
  first : '_' ∉ interval.toList

theorem exists_named {name : String} (h : '_' ∈ name.toList) :
    ∃ interval symbol, Named name interval symbol := by
  obtain ⟨before, after, hparts, hbefore⟩ := List.eq_append_cons_of_mem h
  exact ⟨.ofList before, .ofList after, by simpa using hparts, by simpa using hbefore⟩

/-- All numbers of an entry fit. -/
structure Fits (r : Entry) (interval symbol : String) (secs : UInt64) : Prop where
  named : Named r.name interval symbol
  seconds : Interval.seconds (normalInterval interval) = .ok secs
  start : 1000 * r.time.toNat < UInt64.size
  length : 1000 * secs.toNat < UInt64.size
  stop : 1000 * r.time.toNat + 1000 * secs.toNat < UInt64.size

/-- The first thing that is wrong with an entry. -/
inductive Fault (r : Entry) : DecodeError → Prop
  | unnamed (h : '_' ∉ r.name.toList) : Fault r (.unknownInterval r.name)
  | start {interval symbol : String} (hname : Named r.name interval symbol)
      (h : UInt64.size ≤ 1000 * r.time.toNat) : Fault r (.outOfRange "t" r.time)
  | interval {interval symbol : String} (hname : Named r.name interval symbol)
      (hstart : 1000 * r.time.toNat < UInt64.size)
      (h : ∀ secs, Interval.seconds (normalInterval interval) ≠ .ok secs) :
      Fault r (.unknownInterval (normalInterval interval))
  | length {interval symbol : String} {secs : UInt64} (hname : Named r.name interval symbol)
      (hstart : 1000 * r.time.toNat < UInt64.size)
      (hsecs : Interval.seconds (normalInterval interval) = .ok secs)
      (h : UInt64.size ≤ 1000 * secs.toNat) : Fault r (.outOfRange "n" secs)
  | stop {interval symbol : String} {secs : UInt64} (hname : Named r.name interval symbol)
      (hsecs : Interval.seconds (normalInterval interval) = .ok secs)
      (hlength : 1000 * secs.toNat < UInt64.size)
      (hstart : 1000 * r.time.toNat < UInt64.size)
      (h : UInt64.size ≤ 1000 * r.time.toNat + 1000 * secs.toNat) :
      Fault r (.outOfRange "t" r.time)

section

variable {e : Envelope} {r : Entry} {interval symbol : String} {secs : UInt64} {c : Candle}
  {error : DecodeError}

/-- The candle of an entry, but for its two times. -/
def shown (e : Envelope) (r : Entry) (interval symbol : String) (start stop : Millis) : Candle :=
  ⟨symbol, normalInterval interval, start, stop, r.opening, r.closing, r.high, r.low, r.volume,
    e.timeMillis⟩

theorem ofEntry_of_named (h : Named r.name interval symbol) :
    ofEntry e r = millis "t" r.time >>= fun start =>
      Interval.seconds (normalInterval interval) >>= fun secs =>
        millis "n" secs >>= fun length =>
          stopTime r.time start length >>= fun stop =>
            .ok (shown e r interval symbol start stop) := by
  rw [ofEntry, h.parts, Text.splitAtFirst?_append h.first]
  dsimp only
  rw [String.ofList_toList, String.ofList_toList]
  rfl

theorem ofEntry_of_unnamed (h : '_' ∉ r.name.toList) :
    ofEntry e r = .error (.unknownInterval r.name) := by
  rw [ofEntry, Text.splitAtFirst?_eq_none_iff.mpr h]
  rfl

/-- An entry that fits is a candle. -/
theorem Fits.exists_ofEntry (h : Fits r interval symbol secs) :
    ∃ start stop, ofEntry e r = .ok (shown e r interval symbol start stop) ∧
      start.toNat = 1000 * r.time.toNat ∧
      stop.toNat = 1000 * r.time.toNat + 1000 * secs.toNat - 100 := by
  obtain ⟨start, hstart, hstart'⟩ := exists_millis "t" h.start
  obtain ⟨length, hlength, hlength'⟩ := exists_millis "n" h.length
  have hsum : start.toNat + length.toNat < UInt64.size := by
    rw [hstart', hlength']
    exact h.stop
  obtain ⟨stop, hstop, hstop'⟩ := exists_stopTime r.time hsum
  refine ⟨start, stop, ?_, hstart', by omega⟩
  rw [ofEntry_of_named h.named, hstart, ok_bind, h.seconds, ok_bind, hlength, ok_bind, hstop,
    ok_bind]

theorem exists_fits_of_ofEntry (h : ofEntry e r = .ok c) :
    ∃ interval symbol secs, Fits r interval symbol secs := by
  by_cases hmem : '_' ∈ r.name.toList
  · obtain ⟨interval, symbol, hname⟩ := exists_named hmem
    rw [ofEntry_of_named hname] at h
    obtain ⟨start, hstart, h⟩ := bind_eq_ok h
    obtain ⟨secs, hsecs, h⟩ := bind_eq_ok h
    obtain ⟨length, hlength, h⟩ := bind_eq_ok h
    obtain ⟨stop, hstop, -⟩ := bind_eq_ok h
    obtain ⟨hstart, hstart'⟩ := millis_eq_ok_iff.mp hstart
    obtain ⟨hlength, hlength'⟩ := millis_eq_ok_iff.mp hlength
    obtain ⟨hstop, -⟩ := stopTime_eq_ok_iff.mp hstop
    exact ⟨interval, symbol, secs, hname, hsecs, hstart, hlength, by omega⟩
  · rw [ofEntry_of_unnamed hmem] at h
    simp at h

/-- An entry is refused for the first thing that is wrong with it. -/
theorem fault_of_ofEntry (h : ofEntry e r = .error error) : Fault r error := by
  by_cases hmem : '_' ∈ r.name.toList
  · obtain ⟨interval, symbol, hname⟩ := exists_named hmem
    rw [ofEntry_of_named hname] at h
    rcases bind_eq_error_iff.mp h with h | ⟨start, hstart, h⟩
    · obtain ⟨hsize, rfl⟩ := millis_eq_error_iff.mp h
      exact .start hname hsize
    obtain ⟨hstart, hstart'⟩ := millis_eq_ok_iff.mp hstart
    rcases bind_eq_error_iff.mp h with h | ⟨secs, hsecs, h⟩
    · obtain ⟨hunknown, rfl⟩ := Interval.seconds_eq_error_iff.mp h
      exact .interval hname hstart hunknown
    rcases bind_eq_error_iff.mp h with h | ⟨length, hlength, h⟩
    · obtain ⟨hsize, rfl⟩ := millis_eq_error_iff.mp h
      exact .length hname hstart hsecs hsize
    obtain ⟨hlength, hlength'⟩ := millis_eq_ok_iff.mp hlength
    rcases bind_eq_error_iff.mp h with h | ⟨stop, -, h⟩
    · obtain ⟨hsize, rfl⟩ := stopTime_eq_error_iff.mp h
      exact .stop hname hsecs hlength hstart (by omega)
    · simp at h
  · rw [ofEntry_of_unnamed hmem] at h
    obtain rfl := Except.error.inj h
    exact .unnamed hmem

theorem Fault.ofEntry_eq (h : Fault r error) : ofEntry e r = .error error := by
  cases h with
  | unnamed h => exact ofEntry_of_unnamed h
  | start hname h =>
    rw [ofEntry_of_named hname, millis_eq_error_iff.mpr ⟨h, rfl⟩, error_bind]
  | interval hname hstart h =>
    obtain ⟨start, hstart, -⟩ := exists_millis "t" hstart
    rw [ofEntry_of_named hname, hstart, ok_bind, Interval.seconds_eq_error_iff.mpr ⟨h, rfl⟩,
      error_bind]
  | length hname hstart hsecs h =>
    obtain ⟨start, hstart, -⟩ := exists_millis "t" hstart
    rw [ofEntry_of_named hname, hstart, ok_bind, hsecs, ok_bind,
      millis_eq_error_iff.mpr ⟨h, rfl⟩, error_bind]
  | stop hname hsecs hlength hstart h =>
    obtain ⟨start, hstart, hstart'⟩ := exists_millis "t" hstart
    obtain ⟨length, hlength, hlength'⟩ := exists_millis "n" hlength
    have hsum : UInt64.size ≤ start.toNat + length.toNat := by omega
    rw [ofEntry_of_named hname, hstart, ok_bind, hsecs, ok_bind, hlength, ok_bind,
      stopTime_eq_error_iff.mpr ⟨hsum, rfl⟩, error_bind]

/-- **The window of a candle is exact.** An entry is accepted if it has a name and its
interval, its start, its length and its end fit, and refused for its first fault
otherwise. What is accepted lasts from its start to a tenth of a second before its
end, whatever these are, and keeps all else. -/
theorem ofEntry_exact (e : Envelope) (r : Entry) :
    ((∃ c, ofEntry e r = .ok c) ↔ ∃ interval symbol secs, Fits r interval symbol secs) ∧
    (∀ interval symbol secs, Fits r interval symbol secs →
      ∃ c, ofEntry e r = .ok c ∧
        c.symbol = symbol ∧ c.interval = normalInterval interval ∧
        (c.start.toNat : ℤ) = 1000 * r.time.toNat ∧
        (c.stop.toNat : ℤ) = max 0 (1000 * r.time.toNat + 1000 * secs.toNat - 100) ∧
        c = shown e r interval symbol c.start c.stop) ∧
    ∀ error, ofEntry e r = .error error ↔ Fault r error := by
  refine ⟨⟨?_, ?_⟩, fun interval symbol secs hfits => ?_, fun error => ?_⟩
  · rintro ⟨c, hc⟩
    exact exists_fits_of_ofEntry hc
  · rintro ⟨interval, symbol, secs, hfits⟩
    obtain ⟨start, stop, hc, -⟩ := hfits.exists_ofEntry (e := e)
    exact ⟨_, hc⟩
  · obtain ⟨start, stop, hc, hstart, hstop⟩ := hfits.exists_ofEntry (e := e)
    refine ⟨_, hc, rfl, rfl, ?_, ?_, rfl⟩
    · show (start.toNat : ℤ) = _
      omega
    · show (stop.toNat : ℤ) = _
      omega
  · exact ⟨fault_of_ofEntry, fun h => h.ofEntry_eq⟩

end

/-- A message with candles. -/
def candleMessage : Envelope :=
  ⟨some 1615366400, some "futures.candlesticks", some "update", none, none⟩

/-- A candle of seven days for a contract with underscores in its name. -/
def sevenDays : Entry := ⟨1615366400, .zero, .zero, .zero, .zero, .zero, "7d_BTC_USD_20210326"⟩

/-- A candle that starts in the last second that fits, so that it cannot end. -/
def lastSecond : Entry := ⟨18446744073709551, .zero, .zero, .zero, .zero, .zero, "1s_BTC_USD"⟩

theorem ofEntry_exact_sevenDays :
    (∃ c, ofEntry candleMessage sevenDays = .ok c ∧ c.symbol = "BTC_USD_20210326" ∧ c.interval = "1w" ∧
      (c.start.toNat : ℤ) = 1615366400000 ∧ (c.stop.toNat : ℤ) = 1615971199900) ∧
    ofEntry candleMessage lastSecond = .error (.outOfRange "t" 18446744073709551) := by
  constructor
  · have hname : Named sevenDays.name "7d" "BTC_USD_20210326" := ⟨by decide +kernel, by decide⟩
    have hseconds : Interval.seconds (normalInterval "7d") = .ok 604800 := by rfl
    have hfits : Fits sevenDays "7d" "BTC_USD_20210326" 604800 :=
      ⟨hname, hseconds, by decide, by decide, by decide⟩
    obtain ⟨-, hexact, -⟩ := ofEntry_exact candleMessage sevenDays
    obtain ⟨c, hc, hsymbol, hinterval, hstart, hstop, -⟩ := hexact _ _ _ hfits
    exact ⟨c, hc, hsymbol, hinterval, hstart, hstop⟩
  · have hname : Named lastSecond.name "1s" "BTC_USD" := ⟨by decide +kernel, by decide⟩
    have hseconds : Interval.seconds (normalInterval "1s") = .ok 1 := by rfl
    obtain ⟨-, -, hfault⟩ := ofEntry_exact candleMessage lastSecond
    exact (hfault _).mpr (.stop hname hseconds (by decide) (by decide) (by decide))

end Candle

end BookSync
