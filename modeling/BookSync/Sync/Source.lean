/-
Where snapshots come from.

The answers of a source are numbered for each symbol: answer `k` is what the
fetch after `k` earlier ones gets. While a fetch is under way, a number of
frames may arrive that is also up to the source.
-/
import BookSync.Book.Basic

namespace BookSync

/-- A source of snapshots. -/
structure Source where
  /-- The answer to fetch number `k` for a symbol. -/
  answer : String → Nat → Except FetchError Book
  /-- How many frames may arrive during fetch number `k` for a symbol. -/
  pending : String → Nat → Nat

/-- A source together with the symbols fetched from it so far, in order. -/
structure Fetcher where
  source : Source
  fetched : List String

namespace Fetcher

/-- How often a symbol has been fetched. -/
def count (f : Fetcher) (symbol : String) : Nat := f.fetched.count symbol

/-- Fetch the book of a symbol. -/
def fetch (f : Fetcher) (symbol : String) : Fetcher × Except FetchError Book :=
  ({ f with fetched := f.fetched ++ [symbol] }, f.source.answer symbol (f.count symbol))

/-- How many frames may arrive during the next fetch for a symbol. -/
def pending (f : Fetcher) (symbol : String) : Nat := f.source.pending symbol (f.count symbol)

end Fetcher

end BookSync
