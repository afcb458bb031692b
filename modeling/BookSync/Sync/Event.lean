/-
What a listener is told.

Book events come in the order in which the books change: a book appears as a
snapshot, is updated, and is dropped by a reset. Market events do not touch the
books.
-/
import BookSync.Book.Delta
import BookSync.Market.Candle
import BookSync.Market.Funding
import BookSync.Market.Ticker
import BookSync.Market.Trade

namespace BookSync

/-- A book after a batch, and what the batch has changed. -/
structure Update where
  book : Book
  delta : Record
  timestamp : Millis
  sequenceId : SequenceId
  raw : Option String

/-- What a listener is told. -/
inductive Event
  /-- A book has been installed. -/
  | snapshot (book : Book)
  /-- A batch has been applied to a book. -/
  | update (update : Update)
  /-- The books of these contracts have been dropped. -/
  | reset (symbols : List String)
  | ticker (ticker : Ticker)
  | trade (trade : Trade)
  | candle (candle : Candle)
  | funding (funding : Funding)

end BookSync
