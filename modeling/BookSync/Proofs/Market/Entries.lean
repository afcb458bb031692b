/-
Lists of market events.

A payload holds a list of entries, or one entry without a list around it. All entries
are decoded before the first is converted, and all are converted before the first
is told. For the trades, the candles and the funding of contracts alike

* `Entrywise`: lists may be cut anywhere and decoded part by part, each entry is
  decoded as if it stood alone, and one bad entry spoils them all;
* `Delivers`: a feed tells what has been decoded, in this order, or nothing.

`lists_decode_entrywise` puts them together.
-/
import BookSync.Proofs.Sync.Frames
import BookSync.Proofs.Sync.Content

namespace BookSync

/-- The same message with another payload. -/
def Envelope.carrying (e : Envelope) (v : Json.Value) : Envelope := { e with result := some v }

/-- **Entries are decoded one by one, all or none.** -/
structure Entrywise {α : Type} (decode : Envelope → Except DecodeError (List α)) : Prop where
  append (e : Envelope) (xs ys : List Json.Value) (ts : List α) :
    decode (e.carrying (.array (xs ++ ys))) = .ok ts ↔
      ∃ as bs, decode (e.carrying (.array xs)) = .ok as ∧
        decode (e.carrying (.array ys)) = .ok bs ∧ ts = as ++ bs
  /-- There is one value for each entry, the one that it has alone. -/
  entries (e : Envelope) (xs : List Json.Value) (as : List α) :
    decode (e.carrying (.array xs)) = .ok as ↔
      List.Forall₂ (fun x a => decode (e.carrying (.array [x])) = .ok [a]) xs as
  length (e : Envelope) (xs : List Json.Value) (as : List α)
    (h : decode (e.carrying (.array xs)) = .ok as) : as.length = xs.length
  /-- A record without a list around it is a list of one. -/
  single (e : Envelope) (members : List (String × Json.Value)) :
    decode (e.carrying (.object members)) = decode (e.carrying (.array [.object members]))

/-- What is decoded, and nothing if that fails. -/
def decoded {α : Type} (r : Except DecodeError (List α)) : List α := r.toOption.getD []

/-- **A feed tells all that has been decoded, or nothing.** In a run the events stand
between those of the frames before and after. -/
structure Delivers {α : Type} (channel : Channel)
    (decode : Envelope → Except DecodeError (List α)) (event : α → Event) : Prop where
  accepted (f : Feed) (text : String) (e : Envelope) (as : List α)
    (h : Content.Carries text e channel) (has : decode e = .ok as) :
    f.handle text = (f, .ok none, ⟨as.map event, []⟩)
  refused (f : Feed) (text : String) (e : Envelope) (error : DecodeError)
    (h : Content.Carries text e channel) (herror : decode e = .error error) :
    f.handle text = (f, .error (.decode error), ⟨[], [.malformedFrame error]⟩)
  run (f : Feed) (inbound before after : List String) (text : String) (e : Envelope)
    (h : Content.Carries text e channel) (hframes : f.backlog ++ inbound = before ++ text :: after)
    (hend : (f.run inbound).error = none) :
    let start := (Feed.new f.coordinator).handleAll before
    (f.run inbound).effects.events =
      start.2.events ++ (decoded (decode e)).map event ++ (start.1.handleAll after).2.events

/-! ### Decoding -/

section

variable {α ρ : Type} {decoder : Json.Decoder ρ}

/-- One entry. -/
def readEntry (decoder : Json.Decoder ρ) (v : Json.Value) : Except DecodeError ρ :=
  (decoder v.toDraft).mapError .json

theorem decodeList_array (e : Envelope) (items : List Json.Value) :
    (e.carrying (.array items)).decodeList decoder = items.mapM (readEntry decoder) := rfl

theorem decodeList_object (e : Envelope) (members : List (String × Json.Value)) :
    (e.carrying (.object members)).decodeList decoder =
      (e.carrying (.array [.object members])).decodeList decoder := by
  rw [decodeList_array, List.mapM_cons, List.mapM_nil]
  rfl

theorem forall₂_append_iff {β γ : Type} {R : β → γ → Prop} {xs ys : List β} {zs : List γ} :
    List.Forall₂ R (xs ++ ys) zs ↔
      ∃ as bs, List.Forall₂ R xs as ∧ List.Forall₂ R ys bs ∧ zs = as ++ bs := by
  constructor
  · intro h
    have htake := List.forall₂_take xs.length h
    have hdrop := List.forall₂_drop xs.length h
    rw [List.take_left] at htake
    rw [List.drop_left] at hdrop
    exact ⟨_, _, htake, hdrop, (List.take_append_drop xs.length zs).symm⟩
  · rintro ⟨as, bs, has, hbs, rfl⟩
    exact List.rel_append has hbs

/-- A list that is decoded and then converted entry by entry. The time of the message
does not depend on its payload. -/
theorem entrywise {decode : Envelope → Except DecodeError (List α)}
    {convert : Envelope → ρ → Except DecodeError α}
    (hdecode : ∀ e, decode e = e.decodeList decoder >>= fun rs => rs.mapM (convert e))
    (hconvert : ∀ e v, convert (e.carrying v) = convert e) : Entrywise decode := by
  have hlist : ∀ e xs as, decode (e.carrying (.array xs)) = .ok as ↔
      List.Forall₂ (fun x a => ∃ r, readEntry decoder x = .ok r ∧ convert e r = .ok a) xs as := by
    intro e xs as
    rw [hdecode, decodeList_array, hconvert]
    exact mapM_mapM_eq_ok_iff
  have halone : ∀ e x a, decode (e.carrying (.array [x])) = .ok [a] ↔
      ∃ r, readEntry decoder x = .ok r ∧ convert e r = .ok a := by
    intro e x a
    rw [hlist, List.forall₂_cons]
    exact and_iff_left .nil
  refine ⟨fun e xs ys ts => ?_, fun e xs as => ?_, fun e xs as h => ?_, fun e members => ?_⟩
  · simp only [hlist]
    exact forall₂_append_iff
  · simp only [halone]
    exact hlist e xs as
  · exact ((hlist e xs as).mp h).length_eq.symm
  · rw [hdecode, hdecode, decodeList_object, hconvert, hconvert]

theorem entrywise_trades : Entrywise Trade.ofEnvelope :=
  entrywise (fun _ => rfl) fun _ _ => rfl

theorem entrywise_candles : Entrywise Candle.ofEnvelope :=
  entrywise (fun _ => rfl) fun _ _ => rfl

/-- The funding of a contract cannot fail to be converted. -/
theorem entrywise_funding : Entrywise Funding.ofEnvelope := by
  have hdecode : ∀ e, Funding.ofEnvelope e = e.decodeList Funding.entry >>= fun rs =>
      rs.mapM fun r => .ok (Funding.ofEntry e r) := by
    intro e
    rw [Funding.ofEnvelope]
    cases e.decodeList Funding.entry with
    | error error => rfl
    | ok rs =>
      have hmap : rs.mapM (fun r => .ok (Funding.ofEntry e r)) =
          (.ok (rs.map (Funding.ofEntry e)) : Except DecodeError _) := List.mapM_pure
      rw [ok_bind, hmap]
      rfl
  exact entrywise hdecode fun _ _ => rfl

end

/-! ### Telling -/

theorem delivers {α : Type} {channel : Channel}
    {decode : Envelope → Except DecodeError (List α)} {event : α → Event}
    (h : ∀ text e, Content.onChannel text e channel =
      (decode e).map fun as => .market (as.map event)) : Delivers channel decode event := by
  have hparse : ∀ text e, Content.Carries text e channel →
      Content.parse text = (decode e).map fun as => .market (as.map event) := by
    intro text e hcarries
    rw [hcarries.parse_eq, h]
  have haccepted : ∀ (f : Feed) text e as, Content.Carries text e channel → decode e = .ok as →
      f.handle text = (f, .ok none, ⟨as.map event, []⟩) := by
    intro f text e as hcarries has
    rw [Feed.handle, hparse text e hcarries, has]
    rfl
  have hrefused : ∀ (f : Feed) text e error, Content.Carries text e channel →
      decode e = .error error →
      f.handle text = (f, .error (.decode error), ⟨[], [.malformedFrame error]⟩) := by
    intro f text e error hcarries herror
    rw [Feed.handle, hparse text e hcarries, herror]
    rfl
  refine ⟨haccepted, hrefused, fun f inbound before after text e hcarries hframes hend => ?_⟩
  -- a run that ends well has handled all frames in order
  obtain ⟨taken, hruns⟩ := (f.run_ends inbound).runsTo
  have htaken : taken = before ++ text :: after := by
    rw [← hframes, hruns.split, hruns.finished hend, List.append_nil]
  intro start
  have hone : (start.1.handle text).1 = start.1 ∧
      (start.1.handle text).2.2.events = (decoded (decode e)).map event := by
    cases hd : decode e with
    | ok as =>
      rw [haccepted start.1 text e as hcarries hd]
      exact ⟨rfl, rfl⟩
    | error error =>
      rw [hrefused start.1 text e error hcarries hd]
      exact ⟨rfl, rfl⟩
  rw [hruns.events, htaken, (Feed.handleAll_append _ before (text :: after)).2,
    (Feed.handleAll_cons _ text after).2]
  show [] ++ (start.2.events ++ ((start.1.handle text).2.2.events ++
    ((start.1.handle text).1.handleAll after).2.events)) = _
  rw [hone.1, hone.2, List.nil_append, List.append_assoc]

/-- Only a message about a book can hold a batch. -/
theorem batchOf?_of_carries {text : String} {e : Envelope} {channel : Channel}
    (h : Content.Carries text e channel) (hc : channel ≠ .bookUpdate) :
    Feed.batchOf? (Content.parse text) = none := by
  rw [h.parse_eq]
  cases ho : Content.onChannel text e channel with
  | error error => rfl
  | ok content => exact (Content.onChannel_market hc ho).1

/-- **Lists are decoded entry by entry, all or nothing, and told in order.** -/
theorem lists_decode_entrywise :
    (Entrywise Trade.ofEnvelope ∧ Delivers .trades Trade.ofEnvelope .trade) ∧
    (Entrywise Candle.ofEnvelope ∧ Delivers .candles Candle.ofEnvelope .candle) ∧
    (Entrywise Funding.ofEnvelope ∧ Delivers .tickers Funding.ofEnvelope .funding) :=
  ⟨⟨entrywise_trades, delivers fun _ _ => rfl⟩, ⟨entrywise_candles, delivers fun _ _ => rfl⟩,
    entrywise_funding, delivers fun _ _ => rfl⟩

/-! ### A list of trades, and one with a bad entry -/

namespace Trade

/-- A message with trades. -/
def tradeMessage : Envelope := ⟨some 1, some "futures.trades", some "update", none, none⟩

/-- The entry of a sale. -/
def saleEntry : Json.Value :=
  .array [.number (.integer (-2)), .text "a", .null, .number (.integer 5), .text "9", .text "X"]

/-- The entry of a purchase. -/
def purchaseEntry : Json.Value :=
  .array [.number (.integer 3), .text "b", .null, .number (.integer 6), .text "9", .text "X"]

/-- The sale. -/
def sale : Trade := ⟨"X", .sell, .ofCoeff 2 0, .ofCoeff 9 0, 5, "a"⟩

/-- The purchase. -/
def purchase : Trade := ⟨"X", .buy, .ofCoeff 3 0, .ofCoeff 9 0, 6, "b"⟩

/-- A frame with both. -/
def twoTrades : String :=
  "[1,\"futures.trades\",\"update\",null,[[-2,\"a\",null,5,\"9\",\"X\"],[3,\"b\",null,6,\"9\",\"X\"]]]"

/-- A frame with the sale and an entry without fields. -/
def brokenTrades : String :=
  "[1,\"futures.trades\",\"update\",null,[[-2,\"a\",null,5,\"9\",\"X\"],[]]]"

/-- What is said about an entry without fields. -/
def noFields : DecodeError := .json (.invalidLength 0 "struct TradeResult with 6 elements")

theorem carries_twoTrades : Content.Carries twoTrades
    (tradeMessage.carrying (.array [saleEntry, purchaseEntry])) .trades := by
  have hchars : twoTrades.toList = ['[', '1', ',', '"', 'f', 'u', 't', 'u', 'r', 'e', 's', '.', 't',
      'r', 'a', 'd', 'e', 's', '"', ',', '"', 'u', 'p', 'd', 'a', 't', 'e', '"', ',', 'n', 'u', 'l',
      'l', ',', '[', '[', '-', '2', ',', '"', 'a', '"', ',', 'n', 'u', 'l', 'l', ',', '5', ',', '"',
      '9', '"', ',', '"', 'X', '"', ']', ',', '[', '3', ',', '"', 'b', '"', ',', 'n', 'u',
      'l', 'l', ',', '6', ',', '"', '9', '"', ',', '"', 'X', '"', ']', ']', ']'] := by
    simp [twoTrades]
  refine ⟨?_, rfl, rfl, rfl⟩
  rw [Envelope.parse, Json.ofText?, hchars]
  rfl

theorem carries_brokenTrades : Content.Carries brokenTrades
    (tradeMessage.carrying (.array [saleEntry, .array []])) .trades := by
  have hchars : brokenTrades.toList = ['[', '1', ',', '"', 'f', 'u', 't', 'u', 'r', 'e', 's', '.',
      't', 'r', 'a', 'd', 'e', 's', '"', ',', '"', 'u', 'p', 'd', 'a', 't', 'e', '"', ',', 'n', 'u',
      'l', 'l', ',', '[', '[', '-', '2', ',', '"', 'a', '"', ',', 'n', 'u', 'l', 'l', ',', '5', ',',
      '"', '9', '"', ',', '"', 'X', '"', ']', ',', '[', ']', ']', ']'] := by
    simp [brokenTrades]
  refine ⟨?_, rfl, rfl, rfl⟩
  rw [Envelope.parse, Json.ofText?, hchars]
  rfl

theorem ofEnvelope_brokenTrades :
    Trade.ofEnvelope (tradeMessage.carrying (.array [saleEntry, .array []])) = .error noFields := by
  with_unfolding_all rfl

end Trade

open Trade in
/-- A sale and a purchase are told in this order, and neither is the sale with an entry
without fields behind it. -/
theorem lists_decode_entrywise_trades :
    let f := Feed.new (.new ⟨fun _ _ => .error .transport, fun _ _ => 0⟩ .global)
    Trade.ofEnvelope (tradeMessage.carrying (.array [saleEntry, purchaseEntry])) =
        .ok [sale, purchase] ∧
      f.handle twoTrades = (f, .ok none, ⟨[.trade sale, .trade purchase], []⟩) ∧
      f.handle brokenTrades = (f, .error (.decode noFields), ⟨[], [.malformedFrame noFields]⟩) ∧
      (f.run [brokenTrades, twoTrades]).effects.events = [.trade sale, .trade purchase] := by
  intro f
  obtain ⟨⟨hentrywise, hdelivers⟩, -, -⟩ := lists_decode_entrywise
  have hsale : Trade.ofEnvelope (tradeMessage.carrying (.array [saleEntry])) = .ok [sale] := by
    with_unfolding_all rfl
  have hpurchase :
      Trade.ofEnvelope (tradeMessage.carrying (.array [purchaseEntry])) = .ok [purchase] := by
    with_unfolding_all rfl
  have hboth : Trade.ofEnvelope (tradeMessage.carrying (.array [saleEntry, purchaseEntry])) =
      .ok [sale, purchase] :=
    (hentrywise.append tradeMessage [saleEntry] [purchaseEntry] _).mpr
      ⟨[sale], [purchase], hsale, hpurchase, rfl⟩
  have haccepted := hdelivers.accepted f _ _ _ carries_twoTrades hboth
  have hrefused := hdelivers.refused f _ _ _ carries_brokenTrades ofEnvelope_brokenTrades
  refine ⟨hboth, haccepted, hrefused, ?_⟩
  have hframes : f.backlog ++ [brokenTrades, twoTrades] = [brokenTrades] ++ twoTrades :: [] := rfl
  have hnew : Feed.new f.coordinator = f := rfl
  -- what the frames hold is known by now, and the feed is not to be run
  clear_value f
  have hend : (f.run [brokenTrades, twoTrades]).error = none := by
    refine Feed.run_error_eq_none fun text htext => ?_
    have htext : text = brokenTrades ∨ text = twoTrades := by simpa [hframes] using htext
    rcases htext with rfl | rfl
    · exact batchOf?_of_carries carries_brokenTrades (by simp)
    · exact batchOf?_of_carries carries_twoTrades (by simp)
  have hafter : (f.run [brokenTrades, twoTrades]).effects.events =
      (f.handleAll [brokenTrades]).2.events ++ [.trade sale, .trade purchase] ++
        ((f.handleAll [brokenTrades]).1.handleAll []).2.events := by
    have hrun := hdelivers.run f [brokenTrades, twoTrades] [brokenTrades] [] twoTrades _
      carries_twoTrades hframes hend
    rw [hnew, hboth] at hrun
    exact hrun
  have hbefore : (f.handleAll [brokenTrades]).2.events = [] := by
    rw [(f.handleAll_cons brokenTrades []).2, hrefused]
    rfl
  rw [hafter, hbefore]
  rfl

end BookSync
