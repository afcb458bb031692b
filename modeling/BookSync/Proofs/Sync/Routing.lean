/-
Which frames reach the books and the market.

A channel name is cut at its first point, and only what stands behind the point
is looked at. The product in front of it is never asked for:

* `Channel.ofFutures_iff`: a name is that of a futures feed if its feed is listed and
  no other product stands in front;
* `Feed.moves_iff`: a frame makes a difference if it holds a batch or events of the
  market;
* `Content.ofEnvelope_product`: messages that differ in their product only are decoded
  to the same;
* `Feed.moves_on_listed_feeds`: what makes a difference is on a listed feed, and on that
  of futures unless the name has another product. Other feeds are noted down;
* `Feed.spot_moves_books`: an update of another product does reach the books.
-/
import BookSync.Proofs.Sync.Content
import BookSync.Proofs.Sync.Frames
import BookSync.Proofs.Sync.Idle
import BookSync.Proofs.Sync.Isolation
import BookSync.Proofs.Text.Parts

namespace BookSync

/-! ### Names of channels -/

namespace Channel

/-- The feeds that are taken. -/
def feeds : List String :=
  ["order_book_update", "book_ticker", "trades", "candlesticks", "tickers"]

/-- The name is that of a feed that is taken, alone or as one of futures. -/
def OfFutures (name : String) : Prop := ∃ feed ∈ feeds, name = feed ∨ name = "futures." ++ feed

/-- The name has another product in front. -/
def OfOther (name : String) : Prop :=
  ∃ product feed : String, '.' ∉ product.toList ∧ product ≠ "futures" ∧
    name = product ++ "." ++ feed

theorem splitAtFirst?_name {product : String} (h : '.' ∉ product.toList) (feed : String) :
    Text.splitAtFirst? '.' (product ++ "." ++ feed).toList =
      some (product.toList, feed.toList) := by
  have hchars : (product ++ "." ++ feed).toList = product.toList ++ '.' :: feed.toList := by
    simp
  rw [hchars, Text.splitAtFirst?_append h]

theorem feedName_product {product : String} (h : '.' ∉ product.toList) (feed : String) :
    feedName (product ++ "." ++ feed) = feed := by
  rw [feedName, splitAtFirst?_name h]
  exact String.ofList_toList

/-- A name is that of its feed, or has a product in front of it. -/
theorem eq_feedName_or_product (name : String) :
    (feedName name = name ∧ '.' ∉ name.toList) ∨
      ∃ product : String, '.' ∉ product.toList ∧ name = product ++ "." ++ feedName name := by
  by_cases h : '.' ∈ name.toList
  · right
    obtain ⟨before, after, hname, hbefore⟩ := List.eq_append_cons_of_mem h
    have hproduct : '.' ∉ (String.ofList before).toList := by rwa [String.toList_ofList]
    have heq : name = String.ofList before ++ "." ++ String.ofList after := by
      apply String.toList_injective
      rw [hname]
      simp
    refine ⟨String.ofList before, hproduct, ?_⟩
    rw [heq, feedName_product hproduct]
  · refine Or.inl ⟨?_, h⟩
    rw [feedName, Text.splitAtFirst?_eq_none_iff.mpr h]

theorem not_mem_of_mem_feeds : ∀ feed ∈ feeds, '.' ∉ feed.toList := by
  decide

/-- The names of futures feeds are those of listed feeds without another product. -/
theorem ofFutures_iff {name : String} :
    OfFutures name ↔ feedName name ∈ feeds ∧ ¬ OfOther name := by
  constructor
  · rintro ⟨feed, hfeed, rfl | rfl⟩
    · -- the name of a feed has no point, so nothing stands in front of it
      have hpoint := not_mem_of_mem_feeds name hfeed
      rcases eq_feedName_or_product name with ⟨hname, -⟩ | ⟨product, -, hname⟩
      · refine ⟨hname.symm ▸ hfeed, ?_⟩
        rintro ⟨product, rest, -, -, hname⟩
        exact hpoint (by rw [hname]; simp)
      · exact absurd (by rw [hname]; simp) hpoint
    · have hfutures : '.' ∉ "futures".toList := by decide
      have hsplit := splitAtFirst?_name hfutures feed
      refine ⟨?_, ?_⟩
      · rw [show "futures." ++ feed = "futures" ++ "." ++ feed from rfl,
          feedName_product hfutures]
        exact hfeed
      · rintro ⟨product, rest, hproduct, hother, hname⟩
        -- a text has only one first point
        rw [show "futures" ++ "." ++ feed = product ++ "." ++ rest from hname,
          splitAtFirst?_name hproduct] at hsplit
        have hsame := congrArg Prod.fst (Option.some_inj.mp hsplit)
        exact hother (String.toList_injective hsame)
  · rintro ⟨hfeed, hother⟩
    rcases eq_feedName_or_product name with ⟨hname, -⟩ | ⟨product, hproduct, hname⟩
    · exact ⟨feedName name, hfeed, Or.inl hname.symm⟩
    · have hfutures : product = "futures" := by
        by_contra h
        exact hother ⟨product, _, hproduct, h, hname⟩
      rw [hfutures] at hname
      exact ⟨feedName name, hfeed, Or.inr hname⟩

theorem ofName_of_not_mem {name : String} (h : feedName name ∉ feeds) :
    ofName name = .other (feedName name) := by
  simp only [feeds, List.mem_cons, List.not_mem_nil, or_false, not_or] at h
  obtain ⟨hbook, hticker, htrades, hcandles, htickers⟩ := h
  rw [ofName]
  split <;> first | contradiction | rfl

end Channel

/-! ### What frames hold -/

namespace Content

variable {text : String}

/-- Batches and events of the market come over channels that are taken. -/
theorem exists_carries {content : Content} (h : parse text = .ok content)
    (hc : content.batch? ≠ none ∨ content.events ≠ []) :
    ∃ e channel, Carries text e channel ∧ ∀ feed, channel ≠ .other feed := by
  have hk := kinds text
  rw [h] at hk
  generalize hr : Except.ok content = r at hk
  cases hk with
  | malformed => exact absurd hr (by simp)
  | venueError | ack | noChannel =>
    obtain rfl := Except.ok.inj hr
    simp [batch?, events] at hc
  | @carried e channel hcarries =>
    refine ⟨e, channel, hcarries, ?_⟩
    rintro feed rfl
    obtain rfl := Except.ok.inj hr
    simp [batch?, events] at hc

/-- Of the envelope only its payload and its time are used. -/
theorem onChannel_congr {e e' : Envelope} (hpayload : e.payload = e'.payload)
    (htime : e.time = e'.time) (channel : Channel) :
    onChannel text e channel = onChannel text e' channel := by
  have hmillis : e.timeMillis = e'.timeMillis := by
    rw [Envelope.timeMillis, htime, Envelope.timeMillis]
  have hlist {α : Type} (decoder : Json.Decoder α) :
      e.decodeList decoder = e'.decodeList decoder := by
    rw [Envelope.decodeList, hpayload, Envelope.decodeList]
  have hone {α : Type} (decoder : Json.Decoder α) : e.decode decoder = e'.decode decoder := by
    rw [Envelope.decode, hpayload, Envelope.decode]
  have htrade : Trade.ofEntry e = Trade.ofEntry e' := by
    funext r
    rw [Trade.ofEntry, Trade.Entry.time, hmillis, Trade.ofEntry, Trade.Entry.time]
  have hcandle : Candle.ofEntry e = Candle.ofEntry e' := by
    funext r
    rw [Candle.ofEntry, hmillis, Candle.ofEntry]
  have hfunding : Funding.ofEntry e = Funding.ofEntry e' := by
    funext r
    rw [Funding.ofEntry, hmillis, Funding.ofEntry]
  cases channel with
  | bookUpdate => rw [onChannel, hone, onChannel]
  | bookTicker =>
    rw [onChannel, Ticker.ofEnvelope, hone, hmillis, onChannel, Ticker.ofEnvelope]
  | trades => rw [onChannel, Trade.ofEnvelope, hlist, htrade, onChannel, Trade.ofEnvelope]
  | candles => rw [onChannel, Candle.ofEnvelope, hlist, hcandle, onChannel, Candle.ofEnvelope]
  | tickers => rw [onChannel, Funding.ofEnvelope, hlist, hfunding, onChannel, Funding.ofEnvelope]
  | other feed => rfl

/-- **The product makes no difference.** Two messages with a payload that differ
in their product only are decoded to the same. -/
theorem ofEnvelope_product {e : Envelope} (herror : e.venueError? = none) {v : Json.Value}
    (hresult : e.result = some v) (hnull : v.isNull = false) {product other : String}
    (hproduct : '.' ∉ product.toList) (hother : '.' ∉ other.toList) (feed : String) :
    ofEnvelope text { e with channel := some (product ++ "." ++ feed) } =
      ofEnvelope text { e with channel := some (other ++ "." ++ feed) } := by
  have hpayload (channel : Option String) :
      ({ e with channel := channel } : Envelope).payload = .ok v := by
    simp [Envelope.payload, hresult, hnull, Option.filter]
  have hkind (p : String) (hp : '.' ∉ p.toList) :
      ({ e with channel := some (p ++ "." ++ feed) } : Envelope).kind =
        some (Channel.ofName ("futures" ++ "." ++ feed)) := by
    show some (Channel.ofName _) = _
    rw [Channel.ofName, Channel.feedName_product hp, Channel.ofName,
      Channel.feedName_product (by decide)]
  have hnone (channel : Option String) :
      ({ e with channel := channel } : Envelope).venueError? = none := herror
  rw [ofEnvelope, ofEnvelope, hnone, hnone, hkind product hproduct, hkind other hother]
  -- the same feed, and nothing but the payload and the time goes into what is decoded
  dsimp only
  have hsame := (hpayload (product ++ "." ++ feed)).trans (hpayload (other ++ "." ++ feed)).symm
  rw [onChannel_congr hsame rfl]
  rfl

end Content

/-! ### Frames that make a difference -/

namespace Coordinator

variable {c : Coordinator} {batch : Batch}

/-- A batch that finds its book is counted. -/
theorem Applies.stats_ne {r : Coordinator × Outcome × Effects} (h : c.Applies batch r)
    (hb : c.book? batch.symbol ≠ none) : r.1.stats ≠ c.stats := by
  cases h with
  | untracked hnone => exact absurd hnone hb
  | discarded => exact fun h => Nat.succ_ne_self _ (congrArg Stats.staleDiscarded h)
  | gapped => exact fun h => Nat.succ_ne_self _ (congrArg Stats.resets h)
  | committed => exact fun h => Nat.succ_ne_self _ (congrArg Stats.batchesApplied h)

/-- Every batch is fetched for or counted. -/
theorem Processes.moves {r : Coordinator × Except FetchError Outcome × Effects}
    (h : c.Processes batch r) :
    r.1.fetcher.fetched ≠ c.fetcher.fetched ∨ r.1.stats ≠ c.stats := by
  cases hb : c.book? batch.symbol with
  | none =>
    left
    rw [h.fetcher_eq, hb]
    simp
  | some book =>
    right
    cases h with
    | tracked _ happ => exact happ.stats_ne (by simp [hb])
    | failed hnone | fetched hnone => exact absurd (hb.symm.trans hnone) (by simp)

end Coordinator

namespace Feed

variable (f : Feed) (text : String)

/-- The frame causes a fetch, changes books or counts, or has events. -/
def Moves : Prop :=
  (f.handle text).1.coordinator.fetcher.fetched ≠ f.coordinator.fetcher.fetched ∨
    (f.handle text).1.coordinator.books ≠ f.coordinator.books ∨
    (f.handle text).1.coordinator.stats ≠ f.coordinator.stats ∨
    (f.handle text).2.2.events ≠ []

/-- A frame makes a difference if it holds a batch or events of the market. -/
theorem moves_iff : f.Moves text ↔
    ∃ content, Content.parse text = .ok content ∧
      (content.batch? ≠ none ∨ content.events ≠ []) := by
  cases hb : batchOf? (Content.parse text) with
  | none =>
    obtain ⟨hfeed, heffects, -⟩ := handle_of_batchOf?_eq_none (f := f) hb
    rw [Moves, hfeed, heffects]
    cases hc : Content.parse text with
    | error e => simp [sideEffects]
    | ok content =>
      rw [hc] at hb
      have hnone : content.batch? = none := hb
      simp [sideEffects, hnone]
  | some b =>
    obtain ⟨hfeed, -, -⟩ := handle_of_batchOf?_eq_some (f := f) hb
    refine iff_of_true ?_
      ⟨.batch b, parse_of_batchOf?_eq_some hb, Or.inl (by simp [Content.batch?])⟩
    rw [Moves, hfeed]
    rcases (f.coordinator.processes b).moves with hfetched | hstats
    · exact Or.inl hfetched
    · exact Or.inr (Or.inr (Or.inl hstats))

/-- **Only the listed feeds make a difference.** A frame that causes a fetch,
changes books or counts, or has events is a message on a channel with one of the
listed feeds, and its name is that of a futures feed exactly if it has no other
product in front. A message of any other feed is noted down as unhandled; it has no
outcome and no events, and nothing changes. -/
theorem moves_on_listed_feeds :
    (f.Moves text → ∃ e name, Envelope.parse text = .ok e ∧ e.venueError? = none ∧
      e.isAck = false ∧ e.channel = some name ∧ Channel.feedName name ∈ Channel.feeds ∧
      (Channel.OfFutures name ↔ ¬ Channel.OfOther name)) ∧
    ∀ e name, Envelope.parse text = .ok e → e.venueError? = none → e.isAck = false →
      e.channel = some name → Channel.feedName name ∉ Channel.feeds →
      f.handle text = (f, .ok none, ⟨[], [.unhandledChannel (Channel.feedName name)]⟩) := by
  constructor
  · intro hmoves
    obtain ⟨content, hparse, hcontent⟩ := (f.moves_iff text).mp hmoves
    obtain ⟨e, channel, hcarries, hlisted⟩ := Content.exists_carries hparse hcontent
    obtain ⟨name, hname, rfl⟩ := Option.map_eq_some_iff.mp hcarries.kind
    have hfeed : Channel.feedName name ∈ Channel.feeds := by
      by_contra h
      exact hlisted _ (Channel.ofName_of_not_mem h)
    refine ⟨e, name, hcarries.parse, hcarries.venueError, hcarries.ack, hname, hfeed, ?_⟩
    rw [Channel.ofFutures_iff]
    exact and_iff_right hfeed
  · intro e name hparse herror hack hname hfeed
    have hkind : e.kind = some (.other (Channel.feedName name)) := by
      rw [Envelope.kind, hname, ← Channel.ofName_of_not_mem hfeed]
      rfl
    have hcarries : Content.Carries text e _ := ⟨hparse, herror, hack, hkind⟩
    rw [handle, hcarries.parse_eq]
    rfl

/-! ### Updates of another product -/

/-- An update of a spot book without levels. -/
def spotUpdate : String := "[1,\"spot.order_book_update\",\"update\",null,[1,\"X\",1,1]]"

/-- A message of a feed that is not listed. -/
def spotOrders : String := "[1,\"spot.orders\",\"update\",null,[]]"

theorem parse_spotUpdate : Envelope.parse spotUpdate = .ok ⟨some 1, some "spot.order_book_update",
    some "update", none, some (.array [.number (.integer 1), .text "X", .number (.integer 1),
      .number (.integer 1)])⟩ := by
  have hchars : spotUpdate.toList = ['[', '1', ',', '"', 's', 'p', 'o', 't', '.', 'o', 'r', 'd',
      'e', 'r', '_', 'b', 'o', 'o', 'k', '_', 'u', 'p', 'd', 'a', 't', 'e', '"', ',', '"', 'u', 'p',
      'd', 'a', 't', 'e', '"', ',', 'n', 'u', 'l', 'l', ',', '[', '1', ',', '"', 'X', '"', ',', '1',
      ',', '1', ']', ']'] := by simp [spotUpdate]
  rw [Envelope.parse, Json.ofText?, hchars]
  rfl

theorem parse_spotOrders : Envelope.parse spotOrders = .ok ⟨some 1, some "spot.orders",
    some "update", none, some (.array [])⟩ := by
  have hchars : spotOrders.toList = ['[', '1', ',', '"', 's', 'p', 'o', 't', '.', 'o', 'r', 'd',
      'e', 'r', 's', '"', ',', '"', 'u', 'p', 'd', 'a', 't', 'e', '"', ',', 'n', 'u', 'l', 'l', ',',
      '[', ']', ']'] := by simp [spotOrders]
  rw [Envelope.parse, Json.ofText?, hchars]
  rfl

theorem content_spotUpdate : Content.parse spotUpdate =
    .ok (.batch ⟨"X", 1, 1, 1, [], [], some spotUpdate⟩) := by
  have hcarries : Content.Carries spotUpdate _ .bookUpdate := ⟨parse_spotUpdate, rfl, rfl, rfl⟩
  rw [hcarries.parse_eq]
  rfl

theorem moves_spotUpdate : (new (.new freshSource .global)).Moves spotUpdate :=
  (moves_iff _ _).mpr ⟨_, content_spotUpdate, Or.inl (by simp [Content.batch?])⟩

/-- The same rule takes the update of a spot book and passes over spot orders. -/
theorem moves_on_listed_feeds_spot :
    let f := new (.new freshSource .global)
    f.Moves spotUpdate ∧
      (∃ e name, Envelope.parse spotUpdate = .ok e ∧ e.channel = some name ∧
        Channel.feedName name ∈ Channel.feeds) ∧
      f.handle spotOrders = (f, .ok none, ⟨[], [.unhandledChannel "orders"]⟩) := by
  intro f
  obtain ⟨e, name, hparse, -, -, hname, hfeed, -⟩ :=
    (f.moves_on_listed_feeds spotUpdate).1 moves_spotUpdate
  have hspot : '.' ∉ "spot".toList := by decide
  have horders : Channel.feedName "spot.orders" = "orders" :=
    Channel.feedName_product hspot "orders"
  have hunhandled := (f.moves_on_listed_feeds spotOrders).2 _ _ parse_spotOrders rfl rfl rfl
    (by rw [horders]; decide)
  rw [horders] at hunhandled
  exact ⟨moves_spotUpdate, ⟨e, name, hparse, hname, hfeed⟩, hunhandled⟩

/-- **An update of another product reaches the books.** It fetches the book of the
futures contract that has the same name, and changes it. -/
theorem spot_moves_books :
    let f := new (.new freshSource .global)
    Channel.OfOther "spot.order_book_update" ∧
      ¬ (f.Moves spotUpdate → ∃ e name, Envelope.parse spotUpdate = .ok e ∧
        e.channel = some name ∧ Channel.OfFutures name) ∧
      (f.handle spotUpdate).1.coordinator.fetcher.fetched = ["X"] ∧
      ∃ book, (f.handle spotUpdate).1.coordinator.book? "X" = some book ∧ book.cursor = 1 := by
  intro f
  have hother : Channel.OfOther "spot.order_book_update" :=
    ⟨"spot", "order_book_update", by decide, by decide, rfl⟩
  have hbatch : batchOf? (Content.parse spotUpdate) = _ := congrArg batchOf? content_spotUpdate
  refine ⟨hother, ?_, ?_, ?_⟩
  · intro h
    obtain ⟨e, name, hparse, hname, hfutures⟩ := h moves_spotUpdate
    obtain rfl := Except.ok.inj (parse_spotUpdate.symm.trans hparse)
    obtain rfl := Option.some_inj.mp hname
    exact (Channel.ofFutures_iff.mp hfutures).2 hother
  · rw [(handle_of_batchOf?_eq_some hbatch).1]
    rfl
  · rw [(handle_of_batchOf?_eq_some hbatch).1]
    exact ⟨_, rfl, rfl⟩

end Feed

end BookSync
