/-!
# Why a query is rejected

Every rejection is a mistake of the client.  It rejects the query as a whole and has one
message.
-/

namespace ListQuery

inductive ColumnFault where
  /-- It is empty or has a character that no column name has. -/
  | unacceptableName
  /-- It starts or ends with a dot. -/
  | unqualified
  deriving DecidableEq, Repr

inductive QueryError where
  | malformedFilter (input : String)
  | invalidColumn (field : String) (fault : ColumnFault)
  /-- A relation is unknown, or may not stand where it does. -/
  | undefinedRelation (path : String)
  | undefinedModel (name : String)
  | undefinedColumns (columns : List String)
  deriving DecidableEq, Repr

def QueryError.message : QueryError → String
  | .malformedFilter input => "Unacceptable query string: " ++ input
  | .invalidColumn field .unacceptableName => "Unacceptable field name: " ++ field
  | .invalidColumn field .unqualified =>
      "You have to define the column specifically: " ++ field
  | .undefinedRelation path => "Undefined relation: " ++ path
  | .undefinedModel name => "Undefined model name: " ++ name
  | .undefinedColumns columns =>
      "Undefined column names: " ++ ",".intercalate columns

end ListQuery
