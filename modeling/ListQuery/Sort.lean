import ListQuery.Column
import ListQuery.Text.Cut

/-!
# Sorting

The sort parameter lists columns between commas.  A minus in front of a column sorts by it
in descending order; a plus in front of it, also after a minus, is dropped.
-/

namespace ListQuery

inductive Direction where
  | ascending
  | descending
  deriving DecidableEq, Repr

structure SortField where
  column : String
  direction : Direction
  deriving DecidableEq, Repr

namespace SortField

def dropPlus (entry : String) : String := (Text.after? "+" entry).getD entry

def split (entry : String) : String × Direction :=
  match Text.after? "-" entry with
  | some rest => (dropPlus rest, .descending)
  | none => (dropPlus entry, .ascending)

def ofEntry (entry : String) : Except QueryError SortField := do
  let (column, direction) := split entry
  Column.validate column
  return ⟨column, direction⟩

end SortField

def parseSort (content? : Option String) : Except QueryError (List SortField) :=
  let content := content?.getD ""
  if content.isEmpty then .ok [] else (Text.splitOn ',' content).mapM SortField.ofEntry

end ListQuery
