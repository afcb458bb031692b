/-
Requests to the venue.

A client knows where requests go and how they are answered. The answers are a
function of the URL, so that nothing here touches a network.

* **`Client.url`** is the URL of a request;
* **`Client.orderBook`** asks for a snapshot;
* **`Loader.book`** asks for one and makes a book of it.
-/
import BookSync.Book.Snapshot
import BookSync.Config
import BookSync.Fetch.Response
import BookSync.Url.Form
import BookSync.Url.Parser

namespace BookSync

/-- Where requests go, without slashes at the end. -/
structure Client where
  base : String
  deriving DecidableEq

namespace Client

/-- A client for a base, from which slashes at the end are dropped. -/
def ofBase (base : String) : Client :=
  ⟨String.ofList (base.toList.reverse.dropWhile (· = '/')).reverse⟩

/-- The client for the venue's system. -/
def ofConfig (c : Config) : Client := ofBase c.environment.restBase

/-- The URL for a path with pairs in its query. -/
def url (c : Client) (path : String) (query : List (String × String)) : Except FetchError Url :=
  match Url.parse (c.base ++ path) with
  | .ok u => .ok (u.appendPairs query)
  | .error fault => .error (.url fault)

/-- Ask for a path and decode the reply. -/
def get {α : Type} (c : Client) (reply : Url → Reply) (path : String)
    (query : List (String × String)) (read : String → Except DecodeError α) :
    Except FetchError α := do
  (reply (← c.url path query)).decode read

/-- The path of the order books of a settle currency. -/
def orderBookPath (settle : String) : String := "/futures/" ++ settle ++ "/order_book"

/-- The query for the order book of a contract, `limit` levels deep. -/
def orderBookQuery (contract : String) (limit : Nat) : List (String × String) :=
  [("contract", contract), ("limit", toString limit), ("with_id", "true")]

/-- Ask for the order book of a contract. -/
def orderBook (c : Client) (reply : Url → Reply) (settle contract : String) (limit : Nat) :
    Except FetchError BookSnapshot :=
  c.get reply (orderBookPath settle) (orderBookQuery contract limit) BookSnapshot.parse

end Client

/-- Loads the books of a settle currency, `depth` levels deep. -/
structure Loader where
  client : Client
  settle : String
  depth : Nat

namespace Loader

/-- The loader that a configuration describes. -/
def ofConfig (c : Config) : Loader := ⟨.ofConfig c, c.settle, c.depth⟩

/-- Ask for the book of a contract. -/
def book (l : Loader) (reply : Url → Reply) (symbol : String) : Except FetchError Book := do
  let snapshot ← l.client.orderBook reply l.settle symbol l.depth
  (Book.ofSnapshot symbol snapshot).mapError .malformed

end Loader

end BookSync
