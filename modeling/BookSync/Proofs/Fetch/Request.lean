/-
A contract cannot break out of the request for its book.

The name of a contract comes from the stream and may be any text. It goes into the query
of a URL, as one value among pairs, and is written there in characters that divide
nothing (`Form.decode_encode`). The rest of the URL is a plain one and is read as it
stands (`parse_https`):

* `url_orderBook`: the URL of an order book, whatever pairs its query has;
* `toString_bookUrl`: its text;
* `request_carries_contract`: the contract has a part in the query only, where it is read
  back as it was, so that no two contracts share a URL.
-/
import BookSync.Fetch.Client
import BookSync.Proofs.Url.Form
import BookSync.Proofs.Url.Hosted

namespace BookSync

/-! ### The base -/

/-- Who is asked for books. -/
def Environment.host : Environment → String
  | live => "api.gateio.ws"
  | testnet => "fx-api-testnet.gateio.ws"

theorem Environment.plain_host (env : Environment) : Url.Host.Plain env.host.toList := by
  have hchars : env.host.toList.all (fun c => decide (Url.Domain.IsPlain c)) = true := by
    cases env <;> decide
  refine ⟨by cases env <;> decide, fun c hc => ?_, by cases env <;> decide,
    by cases env <;> decide⟩
  exact of_decide_eq_true (List.all_eq_true.mp hchars c hc)

namespace Client

theorem base_ofConfig (config : Config) :
    (ofConfig config).base = config.environment.restBase := by
  rw [ofConfig]
  cases config.environment <;> decide

/-! ### The URL of a book -/

/-- The segments of the path of an order book. -/
def bookSegments (settle : String) : List String := ["api", "v4", "futures", settle, "order_book"]

/-- The URL of an order book, with a query that is already written. -/
def bookUrl (env : Environment) (settle query : String) : Url :=
  ⟨"https", some ⟨"", none, .name env.host, none⟩, .segments (bookSegments settle), some query,
    none⟩

/-- The path of a book behind the base is a plain one. -/
theorem toList_base_path (env : Environment) (settle : String) :
    (env.restBase ++ orderBookPath settle).toList = "https://".toList ++ env.host.toList ++
      '/' :: (((bookSegments settle).map String.toList).intersperse ['/']).flatten := by
  cases env <;> simp [Environment.restBase, Environment.host, orderBookPath, bookSegments]

theorem isWord_bookSegments {settle : String} (h : ∀ c ∈ settle.toList, c.isAlphanum = true) :
    ∀ seg ∈ (bookSegments settle).map String.toList, ∀ c ∈ seg, Url.IsWord c := by
  have hfixed : ∀ seg ∈ ["api", "v4", "futures", "order_book"].map String.toList,
      seg.all (fun c => decide (Url.IsWord c)) = true := by decide
  intro seg hseg c hc
  simp only [bookSegments, List.map_cons, List.map_nil, List.mem_cons, List.not_mem_nil,
    or_false] at hseg
  rcases hseg with rfl | rfl | rfl | rfl | rfl
  · exact of_decide_eq_true (List.all_eq_true.mp (hfixed _ (by simp)) c hc)
  · exact of_decide_eq_true (List.all_eq_true.mp (hfixed _ (by simp)) c hc)
  · exact of_decide_eq_true (List.all_eq_true.mp (hfixed _ (by simp)) c hc)
  · exact Or.inl (h c hc)
  · exact of_decide_eq_true (List.all_eq_true.mp (hfixed _ (by simp)) c hc)

/-- **The URL of an order book**, whatever pairs its query has. -/
theorem url_orderBook (config : Config) {settle : String}
    (h : ∀ c ∈ settle.toList, c.isAlphanum = true) (pairs : List (String × String)) :
    (ofConfig config).url (orderBookPath settle) pairs =
      .ok (bookUrl config.environment settle (String.ofList (Url.Form.encode pairs))) := by
  have hparse := Url.parse_https config.environment.plain_host (by simp [bookSegments])
    (isWord_bookSegments h)
  rw [← toList_base_path, String.ofList_toList] at hparse
  have hsegments : ((bookSegments settle).map String.toList).map String.ofList =
      bookSegments settle := by
    simp [bookSegments]
  rw [hsegments, String.ofList_toList] at hparse
  rw [url, base_ofConfig, hparse]
  rfl

/-- The text of the URL of an order book. -/
theorem toString_bookUrl (env : Environment) (settle query : String) :
    toString (bookUrl env settle query) =
      env.restBase ++ "/futures/" ++ settle ++ "/order_book?" ++ query := by
  apply String.toList_injective
  show (String.ofList (bookUrl env settle query).toChars).toList = _
  cases env <;>
    simp [bookUrl, bookSegments, Environment.host, Environment.restBase, Url.toChars, Url.bodyText,
      Url.marked, Url.Authority.text, Url.Authority.credentials, Url.Host.text, Url.Path.text]

/-- **A request carries its contract, and the contract nothing else.** Whatever text the
name of a contract is, the URL of its book has the scheme and host of the environment, the
path of the settle currency, no fragment, and a query of three pairs, which are read back
in their order, the contract as it is. This is the URL that is asked, and two contracts
have different ones, also as texts. -/
theorem request_carries_contract (config : Config) (limit : ℕ) {settle : String}
    (hsettle : ∀ c ∈ settle.toList, c.isAlphanum = true) :
    (∀ contract, ∃ (u : Url) (query : String),
      (ofConfig config).url (orderBookPath settle) (orderBookQuery contract limit) = .ok u ∧
      (∀ reply, (ofConfig config).orderBook reply settle contract limit =
        (reply u).decode BookSnapshot.parse) ∧
      u.scheme = "https" ∧ u.authority = some ⟨"", none, .name config.environment.host, none⟩ ∧
      u.path = .segments ["api", "v4", "futures", settle, "order_book"] ∧
      u.fragment = none ∧ u.query = some query ∧
      Url.Form.decode query.toList =
        [("contract", contract), ("limit", toString limit), ("with_id", "true")] ∧
      toString u = config.environment.restBase ++ "/futures/" ++ settle ++ "/order_book?" ++ query ∧
      '#' ∉ query.toList) ∧
    ∀ contract contract' u u', contract ≠ contract' →
      (ofConfig config).url (orderBookPath settle) (orderBookQuery contract limit) = .ok u →
      (ofConfig config).url (orderBookPath settle) (orderBookQuery contract' limit) = .ok u' →
      u ≠ u' ∧ toString u ≠ toString u' := by
  constructor
  · intro contract
    refine ⟨_, String.ofList (Url.Form.encode (orderBookQuery contract limit)),
      url_orderBook config hsettle _, fun reply => ?_, rfl, rfl, rfl, rfl, rfl, ?_,
      toString_bookUrl _ _ _, ?_⟩
    · rw [orderBook, get, url_orderBook config hsettle]
      rfl
    · rw [String.toList_ofList]
      exact Url.Form.decode_encode (orderBookQuery contract limit)
    · rw [String.toList_ofList]
      exact fun h => Url.Form.not_mem_encode (orderBookQuery contract limit) h
  · intro contract contract' u u' hne hu hu'
    have htext : toString u ≠ toString u' := by
      intro htext
      obtain rfl := Except.ok.inj ((url_orderBook config hsettle _).symm.trans hu)
      obtain rfl := Except.ok.inj ((url_orderBook config hsettle _).symm.trans hu')
      rw [toString_bookUrl, toString_bookUrl, String.append_right_inj] at htext
      -- the same query holds the same pairs, and so the same contract
      have hpairs := Url.Form.encode_injective (String.ofList_injective htext)
      exact hne (Prod.mk.inj (List.cons.inj hpairs).1).2
    exact ⟨fun h => htext (congrArg toString h), htext⟩

/-- A contract with signs that divide queries and end them, and one beyond ASCII. -/
theorem request_carries_contract_divided :
    (∀ c ∈ "usdt".toList, c.isAlphanum = true) ∧
    ∃ u query, (ofConfig .default).url (orderBookPath "usdt")
        (orderBookQuery "BTC&limit=1#é +%41" 5) = .ok u ∧
      u.fragment = none ∧ u.query = some query ∧
      Url.Form.decode query.toList =
        [("contract", "BTC&limit=1#é +%41"), ("limit", "5"), ("with_id", "true")] := by
  have hsettle : ∀ c ∈ "usdt".toList, c.isAlphanum = true := List.all_eq_true.mp (by decide)
  obtain ⟨u, query, hurl, -, -, -, -, hfragment, hquery, hpairs, -⟩ :=
    (request_carries_contract .default 5 hsettle).1 "BTC&limit=1#é +%41"
  exact ⟨hsettle, u, query, hurl, hfragment, hquery, hpairs⟩

end Client

end BookSync
