import ListQuery.Condition.Basic
import ListQuery.EagerLoad
import ListQuery.Sort

/-!
# Queries

A query says which rows of a model to list, with which columns, in which order, on which
page, and what to load with them.
-/

namespace ListQuery

structure Query where
  page : Nat
  perPage : Nat
  /-- The columns to list; none, or an asterisk alone, stands for all of them. -/
  fields : List String
  sort : List SortField
  condition : Condition
  loads : List EagerLoad
  relationColumns : List String
  deriving BEq, Repr

def Query.selectsAll (query : Query) : Bool :=
  query.fields.isEmpty || query.fields = ["*"]

end ListQuery
