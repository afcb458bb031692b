/-
When a book cannot be fetched.

A fetch goes through several stages, and each can be the last: there may be no
address to ask at, no answer, an answer that puts off or refuses, a body that broke
off or cannot be read, and a snapshot that a size below zero spoils.

* `Reply.Fails`: all ways in which a reply yields no data, each with its error;
* `Loader.Fails`: all ways in which a loader yields no book.

Both are exact: `Reply.decode_eq_error_iff` and `Loader.book_eq_error_iff`.
-/
import BookSync.Fetch.Client
import BookSync.Proofs.Book.Changes
import BookSync.Sync.Source

namespace BookSync

/-! ### Replies -/

/-- All ways in which a reply yields no data. -/
inductive Reply.Fails {α : Type} (read : String → Except DecodeError α) : Reply → FetchError → Prop
  /-- No answer came back. -/
  | unreachable : Fails read .unreachable .transport
  /-- There were too many requests. -/
  | limited {r : Response} (hlimit : r.status = 429) :
    Fails read (.answered r) (.rateLimited r.retryAfter)
  /-- The venue answered with the status of an error. -/
  | refused {r : Response} (hlimit : r.status ≠ 429) (hstatus : ¬ r.isSuccess = true) :
    Fails read (.answered r) (Response.errorOf r.status (r.text?.getD ""))
  /-- The body broke off. -/
  | brokenOff {r : Response} (hstatus : r.isSuccess = true) (hbody : r.text? = none) :
    Fails read (.answered r) .transport
  /-- The body does not hold what was asked for. -/
  | unreadable {r : Response} {body : String} {cause : DecodeError}
    (hstatus : r.isSuccess = true) (hbody : r.text? = some body)
    (hcause : read body = .error cause) : Fails read (.answered r) (.malformed cause)

theorem Response.ne_limit_of_isSuccess {r : Response} (h : r.isSuccess = true) :
    r.status ≠ 429 := by
  rw [isSuccess, Bool.and_eq_true, decide_eq_true_iff, decide_eq_true_iff] at h
  omega

theorem Reply.decode_eq_error_iff {α : Type} {read : String → Except DecodeError α}
    {reply : Reply} {e : FetchError} : reply.decode read = .error e ↔ reply.Fails read e := by
  constructor
  · intro h
    cases reply with
    | unreachable =>
      obtain rfl := Except.error.inj h
      exact .unreachable
    | answered r =>
      rw [decode, Response.decode] at h
      split at h
      · rename_i hlimit
        obtain rfl := Except.error.inj h
        exact .limited hlimit
      · rename_i hlimit
        split at h
        · rename_i hstatus
          split at h
          · rename_i body hbody
            obtain ⟨cause, hcause, rfl⟩ := mapError_eq_error_iff.mp h
            exact .unreadable hstatus hbody hcause
          · rename_i hbody
            obtain rfl := Except.error.inj h
            exact .brokenOff hstatus hbody
        · rename_i hstatus
          obtain rfl := Except.error.inj h
          exact .refused hlimit hstatus
  · intro h
    cases h with
    | unreachable => rfl
    | limited hlimit => rw [decode, Response.decode, if_pos hlimit]
    | refused hlimit hstatus => rw [decode, Response.decode, if_neg hlimit, if_neg hstatus]
    | brokenOff hstatus hbody =>
      rw [decode, Response.decode, if_neg (Response.ne_limit_of_isSuccess hstatus),
        if_pos hstatus, hbody]
    | unreadable hstatus hbody hcause =>
      rw [decode, Response.decode, if_neg (Response.ne_limit_of_isSuccess hstatus),
        if_pos hstatus, hbody]
      exact mapError_eq_error_iff.mpr ⟨_, hcause, rfl⟩

/-! ### Loaders -/

namespace Loader

/-- Where the book of a contract is asked for. -/
def address (l : Loader) (symbol : String) : Except FetchError Url :=
  l.client.url (Client.orderBookPath l.settle) (Client.orderBookQuery symbol l.depth)

/-- All ways in which a loader yields no book. -/
inductive Fails (l : Loader) (reply : Url → Reply) (symbol : String) : FetchError → Prop
  /-- There is no address to ask at. -/
  | address {e : FetchError} (hurl : l.address symbol = .error e) : Fails l reply symbol e
  /-- The reply yields no snapshot. -/
  | reply {url : Url} {e : FetchError} (hurl : l.address symbol = .ok url)
    (hreply : (reply url).Fails BookSnapshot.parse e) : Fails l reply symbol e
  /-- A size below zero spoils the snapshot, whatever stands in front of it. -/
  | negativeSize {url : Url} {s : BookSnapshot} {before : List Level} {x : Level}
    {after : List Level} (hurl : l.address symbol = .ok url)
    (hreply : (reply url).decode BookSnapshot.parse = .ok s)
    (hlevels : s.bids ++ s.asks = before ++ x :: after)
    (hbefore : ∀ y ∈ before, 0 ≤ y.size.value) (hnegative : x.size.value < 0) :
    Fails l reply symbol (.malformed (.negativeSize x.size x.price))

variable {l : Loader} {reply : Url → Reply} {symbol : String} {e : FetchError}

theorem book_eq_bind : l.book reply symbol =
    (l.address symbol >>= fun url => (reply url).decode BookSnapshot.parse) >>= fun s =>
      (Book.ofSnapshot symbol s).mapError .malformed := rfl

/-- A loader fails exactly in these ways. -/
theorem book_eq_error_iff : l.book reply symbol = .error e ↔ l.Fails reply symbol e := by
  rw [book_eq_bind, bind_eq_error_iff, bind_eq_error_iff]
  constructor
  · rintro ((hurl | ⟨url, hurl, hreply⟩) | ⟨s, hs, hbook⟩)
    · exact .address hurl
    · exact .reply hurl (Reply.decode_eq_error_iff.mp hreply)
    · obtain ⟨url, hurl, hreply⟩ := bind_eq_ok hs
      obtain ⟨cause, hcause, rfl⟩ := mapError_eq_error_iff.mp hbook
      obtain ⟨before, x, after, hlevels, hbefore, hnegative, rfl⟩ :=
        Level.firstNegative?_eq_some_iff.mp (Book.ofSnapshot_eq_error_iff.mp hcause)
      exact .negativeSize hurl hreply hlevels hbefore hnegative
  · intro h
    cases h with
    | address hurl => exact Or.inl (Or.inl hurl)
    | @reply url _ hurl hreply =>
      exact Or.inl (Or.inr ⟨url, hurl, Reply.decode_eq_error_iff.mpr hreply⟩)
    | @negativeSize url s before x after hurl hreply hlevels hbefore hnegative =>
      have hs : (l.address symbol >>= fun url => (reply url).decode BookSnapshot.parse) = .ok s := by
        rw [hurl]
        exact hreply
      have hcause : Book.ofSnapshot symbol s = .error (.negativeSize x.size x.price) :=
        Book.ofSnapshot_eq_error_iff.mpr (Level.firstNegative?_eq_some_iff.mpr
          ⟨before, x, after, hlevels, hbefore, hnegative, rfl⟩)
      exact Or.inr ⟨s, hs, mapError_eq_error_iff.mpr ⟨_, hcause, rfl⟩⟩

/-- A loader as a source: fetch `k` for a symbol is answered by the replies that
the venue gives then. -/
def source (l : Loader) (replies : String → ℕ → Url → Reply) (pending : String → ℕ → ℕ) :
    Source where
  answer symbol k := l.book (replies symbol k) symbol
  pending := pending

end Loader

end BookSync
