/-
What a frame can turn out to be.

Decoding a frame fails at many points: in its text, in its payload, in one entry
of a list or in one price level. It yields a batch only at the very end of one of
its branches, and market events only when every entry has been read.

* `Kind`, `kinds`: the branches of `Content.parse`, each with what led there;
* `Idle`, `idle_iff`: the frames without a batch, and which they are;
* `not_ofBook`: what a frame tells by itself is nothing about a book;
* `Spoiled.refused`: one bad entry or level spoils the frame.
-/
import BookSync.Proofs.Book.Changes
import BookSync.Sync.Frame

namespace BookSync

/-! ### Books and market -/

/-- An event that tells what has become of a book. -/
def Event.ofBook : Event → Bool
  | .snapshot _ | .update _ | .reset _ => true
  | _ => false

namespace Content

/-! ### The branches of decoding -/

/-- The frame is a message on a channel, and neither an error of the venue nor
a confirmation. -/
structure Carries (text : String) (e : Envelope) (channel : Channel) : Prop where
  parse : Envelope.parse text = .ok e
  venueError : e.venueError? = none
  ack : e.isAck = false
  kind : e.kind = some channel

/-- How a frame comes to what it is decoded to. -/
inductive Kind (text : String) : Except DecodeError Content → Prop
  | malformed {error : DecodeError} (h : Envelope.parse text = .error error) :
      Kind text (.error error)
  | venueError {e : Envelope} {error : Json.Value} (h : Envelope.parse text = .ok e)
      (he : e.venueError? = some error) : Kind text (.ok (.venueError e.channel error))
  | ack {e : Envelope} (h : Envelope.parse text = .ok e) (ha : e.isAck = true) :
      Kind text (.ok .ack)
  | noChannel {e : Envelope} (h : Envelope.parse text = .ok e) (hk : e.kind = none) :
      Kind text (.ok (.noChannel e.event))
  | carried {e : Envelope} {channel : Channel} (h : Carries text e channel) :
      Kind text (onChannel text e channel)

theorem kinds (text : String) : Kind text (parse text) := by
  rw [parse]
  cases hp : Envelope.parse text with
  | error error => exact .malformed hp
  | ok e =>
    show Kind text (ofEnvelope text e)
    rw [ofEnvelope]
    cases he : e.venueError? with
    | some error => exact .venueError hp he
    | none =>
      dsimp only
      split
      · rename_i ha
        exact .ack hp ha
      · rename_i ha
        cases hk : e.kind with
        | none => exact .noChannel hp hk
        | some channel => exact .carried ⟨hp, he, Bool.eq_false_iff.mpr ha, hk⟩

theorem Carries.parse_eq {text : String} {e : Envelope} {channel : Channel}
    (h : Carries text e channel) : Content.parse text = onChannel text e channel := by
  rw [Content.parse, h.parse]
  show ofEnvelope text e = _
  rw [ofEnvelope, h.venueError, h.ack, h.kind]
  rfl

section

variable {text : String} {e : Envelope} {channel : Channel} {content : Content}

/-- The channel of book updates carries batches. -/
theorem onChannel_bookUpdate (h : onChannel text e .bookUpdate = .ok content) :
    ∃ u b, e.decode BookUpdate.decoder = .ok u ∧ Batch.ofUpdate u = .ok b ∧
      content = .batch { b with raw := some text } := by
  rw [onChannel] at h
  obtain ⟨u, hu, h⟩ := bind_eq_ok h
  obtain ⟨b, hb, h⟩ := bind_eq_ok h
  exact ⟨u, b, hu, hb, (Except.ok.inj h).symm⟩

/-- The other channels carry events of the market, or nothing that is known. -/
theorem onChannel_market (hc : channel ≠ .bookUpdate)
    (h : onChannel text e channel = .ok content) :
    content.batch? = none ∧ ∀ event ∈ content.events, event.ofBook = false := by
  cases channel with
  | bookUpdate => exact absurd rfl hc
  | bookTicker =>
    obtain ⟨t, -, rfl⟩ := map_eq_ok h
    exact ⟨rfl, List.forall_mem_singleton.mpr rfl⟩
  | trades | candles | tickers =>
    obtain ⟨_, -, rfl⟩ := map_eq_ok h
    exact ⟨rfl, List.forall_mem_map.mpr fun _ _ => rfl⟩
  | other feed =>
    obtain rfl := Except.ok.inj h
    exact ⟨rfl, List.forall_mem_nil _⟩

end

/-- The events that a frame holds are of the market. -/
theorem not_ofBook {text : String} {content : Content} (h : parse text = .ok content) :
    ∀ event ∈ content.events, event.ofBook = false := by
  have hk := kinds text
  rw [h] at hk
  generalize hr : Except.ok content = r at hk
  cases hk with
  | malformed => exact absurd hr (by simp)
  | venueError | ack | noChannel =>
    obtain rfl := Except.ok.inj hr
    exact List.forall_mem_nil _
  | @carried e channel =>
    by_cases hc : channel = .bookUpdate
    · obtain ⟨u, b, -, -, rfl⟩ := onChannel_bookUpdate (hc ▸ hr.symm)
      exact List.forall_mem_nil _
    · exact (onChannel_market hc hr.symm).2

/-- The frame yields no batch. -/
def Idle (text : String) : Prop := ∀ b, parse text ≠ .ok (.batch b)

/-- The frames without a batch: those that are refused, errors of the venue,
confirmations, and all that is not on the channel of book updates. -/
theorem idle_iff (text : String) :
    Idle text ↔
      (∃ error, parse text = .error error) ∨
        ∃ e, Envelope.parse text = .ok e ∧
          (e.venueError?.isSome ∨ e.isAck ∨ e.kind ≠ some .bookUpdate) := by
  rw [Idle]
  have hk := kinds text
  generalize parse text = r at hk
  cases hk with
  | malformed h => exact ⟨fun _ => Or.inl ⟨_, rfl⟩, fun _ b => by simp⟩
  | venueError h he =>
    exact ⟨fun _ => Or.inr ⟨_, h, Or.inl (by rw [he]; rfl)⟩, fun _ b => by simp⟩
  | ack h ha => exact ⟨fun _ => Or.inr ⟨_, h, Or.inr (Or.inl ha)⟩, fun _ b => by simp⟩
  | noChannel h hk =>
    exact ⟨fun _ => Or.inr ⟨_, h, Or.inr (Or.inr (by simp [hk]))⟩, fun _ b => by simp⟩
  | @carried e channel h =>
    by_cases hc : channel = .bookUpdate
    · subst hc
      constructor
      · -- only a batch or an error can come of a book update
        intro hb
        cases ho : onChannel text e .bookUpdate with
        | error error => exact Or.inl ⟨error, rfl⟩
        | ok content =>
          obtain ⟨u, b, -, -, rfl⟩ := onChannel_bookUpdate ho
          exact absurd ho (hb _)
      · rintro (⟨error, herror⟩ | ⟨e', he', hkind⟩) b hb
        · exact absurd (hb.symm.trans herror) (by simp)
        · obtain rfl := Except.ok.inj (h.parse.symm.trans he')
          simp [h.venueError, h.ack, h.kind] at hkind
    · constructor
      · exact fun _ => Or.inr ⟨e, h.parse, Or.inr (Or.inr (by rw [h.kind]; simpa using hc))⟩
      · intro _ b hb
        exact absurd (onChannel_market hc hb).1 (by simp [batch?])

end Content

/-! ### Bad entries -/

/-- The value can be read as an entry of a list on the channel. Channels without
lists do not ask for it. -/
def Channel.Reads (e : Envelope) (v : Json.Value) : Channel → Prop
  | .trades => ∃ r t, Trade.entry v.toDraft = .ok r ∧ Trade.ofEntry e r = .ok t
  | .candles => ∃ r t, Candle.entry v.toDraft = .ok r ∧ Candle.ofEntry e r = .ok t
  | .tickers => ∃ r, Funding.entry v.toDraft = .ok r
  | _ => True

namespace Content

/-- An otherwise good frame with one entry or one level that is bad. -/
inductive Spoiled (text : String) : Prop
  | entry {e : Envelope} {channel : Channel} {items : List Json.Value} {v : Json.Value}
      (h : Carries text e channel) (hp : e.payload = .ok (.array items)) (hv : v ∈ items)
      (hbad : ¬ channel.Reads e v)
  | level {e : Envelope} {u : BookUpdate} {x : Level} (h : Carries text e .bookUpdate)
      (hu : e.decode BookUpdate.decoder = .ok u) (hx : x ∈ u.bids ++ u.asks)
      (hbad : x.size.isNegative = true)

section

variable {text : String} {e : Envelope} {channel : Channel} {items : List Json.Value}

theorem exists_of_decodeList {α : Type} {decoder : Json.Decoder α} {rs : List α}
    (hp : e.payload = .ok (.array items)) (h : e.decodeList decoder = .ok rs) {v : Json.Value}
    (hv : v ∈ items) : ∃ r ∈ rs, decoder v.toDraft = .ok r := by
  rw [Envelope.decodeList, hp] at h
  obtain ⟨r, hr, hread⟩ := exists_of_mapM_eq_ok h v hv
  exact ⟨r, hr, mapError_eq_ok hread⟩

/-- The list is walked twice: all entries are decoded before any is converted. -/
theorem exists_of_convertList {α β : Type} {decoder : Json.Decoder α}
    {convert : α → Except DecodeError β} {bs : List β} (hp : e.payload = .ok (.array items))
    (h : (e.decodeList decoder >>= fun rs => rs.mapM convert) = .ok bs) {v : Json.Value}
    (hv : v ∈ items) : ∃ r b, decoder v.toDraft = .ok r ∧ convert r = .ok b := by
  obtain ⟨rs, hrs, hbs⟩ := bind_eq_ok h
  obtain ⟨r, hr, hread⟩ := exists_of_decodeList hp hrs hv
  obtain ⟨b, -, hb⟩ := exists_of_mapM_eq_ok hbs r hr
  exact ⟨r, b, hread, hb⟩

/-- A list that is accepted has had each of its entries read. -/
theorem reads_of_onChannel {content : Content} (h : onChannel text e channel = .ok content)
    (hp : e.payload = .ok (.array items)) {v : Json.Value} (hv : v ∈ items) :
    channel.Reads e v := by
  cases channel with
  | bookUpdate | bookTicker | other => exact trivial
  | trades | candles =>
    obtain ⟨_, hlist, -⟩ := map_eq_ok h
    exact exists_of_convertList hp hlist hv
  | tickers =>
    obtain ⟨_, hlist, -⟩ := map_eq_ok h
    obtain ⟨rs, hrs, -⟩ := map_eq_ok hlist
    obtain ⟨r, -, hread⟩ := exists_of_decodeList hp hrs hv
    exact ⟨r, hread⟩

/-- One bad entry or level spoils the frame. -/
theorem Spoiled.refused (h : Spoiled text) : ∃ error, parse text = .error error := by
  cases hr : parse text with
  | error error => exact ⟨error, rfl⟩
  | ok content =>
    cases h with
    | entry h hp hv hbad => exact absurd (reads_of_onChannel (h.parse_eq ▸ hr) hp hv) hbad
    | level h hu hx hbad =>
      obtain ⟨u', b, hu', hb, -⟩ := onChannel_bookUpdate (h.parse_eq ▸ hr)
      obtain rfl := Except.ok.inj (hu.symm.trans hu')
      exact absurd (Decimal.isNegative_iff_value.mp hbad)
        (not_lt.mpr ((Batch.ofUpdate_eq_ok hb).2.1 _ hx))

end

end Content

end BookSync
