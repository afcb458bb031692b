/-
Copies of the books for readers.

The copies are kept up to date by the events alone. An update whose copy has
not run ahead is repeated from its record; in any other case the book itself is
copied.
-/
import BookSync.Sync.Event
import BookSync.Table

namespace BookSync

/-- Copies of books, by contract. -/
structure SharedBooks where
  books : Table Book

namespace SharedBooks

/-- No copies. -/
def empty : SharedBooks := ⟨.empty⟩

/-- The copy for a contract. -/
def get? (s : SharedBooks) (symbol : String) : Option Book := s.books.get? symbol

/-- The copy for a contract after an update. -/
def updated (copy : Option Book) (u : Update) : Book :=
  match copy with
  | some b => if b.cursor ≤ u.sequenceId then (b.replay u.delta).advance u.sequenceId else u.book
  | none => u.book

/-- Follow one event. -/
def observe (s : SharedBooks) : Event → SharedBooks
  | .snapshot book => ⟨s.books.insert book.symbol book⟩
  | .update u => ⟨s.books.insert u.book.symbol (updated (s.get? u.book.symbol) u)⟩
  | .reset symbols => ⟨symbols.foldl Table.erase s.books⟩
  | _ => s

/-- Follow events in order. -/
def observeAll (s : SharedBooks) (events : List Event) : SharedBooks := events.foldl observe s

end SharedBooks

end BookSync
