/-
Channels of the venue's stream.

A channel name has a product, a point, and the name of the feed; only what
stands behind the first point is looked at, or all of the name if there is no
point.
-/
import BookSync.Text.Split

namespace BookSync

/-- A channel, by what it carries. -/
inductive Channel
  | bookUpdate
  | bookTicker
  | trades
  | candles
  | tickers
  | other (feed : String)
  deriving DecidableEq

/-- The feed that a channel name stands for. -/
def Channel.feedName (name : String) : String :=
  match Text.splitAtFirst? '.' name.toList with
  | some (_, feed) => String.ofList feed
  | none => name

/-- The channel of a name. -/
def Channel.ofName (name : String) : Channel :=
  match feedName name with
  | "order_book_update" => bookUpdate
  | "book_ticker" => bookTicker
  | "trades" => trades
  | "candlesticks" => candles
  | "tickers" => tickers
  | feed => other feed

end BookSync
