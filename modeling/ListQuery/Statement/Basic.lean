import ListQuery.Page
import ListQuery.Statement.Clause
import ListQuery.Step

/-!
# Statements

A selection lists columns of the rows of a table and of the tables joined to it.  A
statement asks for the rows of a selection or for their number.
-/

namespace ListQuery

inductive Projection where
  | allOf (table : String)
  | column (path : String)
  deriving DecidableEq, Repr

structure Selection where
  table : String
  columns : List Projection
  joins : List LeftJoin
  condition : Option Clause
  order : List SortField
  window : Option Window
  deriving BEq, Repr

inductive Statement where
  | rows (selection : Selection)
  /-- The number of rows, under the name `total`. -/
  | count (selection : Selection)
  deriving BEq, Repr

end ListQuery
