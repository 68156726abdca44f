import ListQuery.Condition.Compile
import ListQuery.Page
import ListQuery.Query.Basic
import ListQuery.Query.Raw

/-!
# Parsing queries

Page and size are always accepted.  Of the other parameters the first that is wrong rejects
the query, in the order filter, loads, fields, sort.  When all of them are right, the
columns that do not exist are reported together.
-/

namespace ListQuery

def parseFields (content? : Option String) : Except QueryError (List String) :=
  let content := content?.getD ""
  if content.isEmpty then .ok []
  else if Text.trim content = "*" then .ok ["*"]
  else (Text.splitOn ',' content).mapM fun field => do
    Column.validate field
    return field

/-- Whether a column exists: a bare name on the model itself, and a name after a first dot
on the model of the table before it. -/
def columnExists (catalog : Catalog) (model : Model) (column : String) : Bool :=
  match Text.cutAt? '.' column with
  | none => model.hasColumn column
  | some (table, name) => (catalog.modelOfTable? table).any (·.hasColumn name)

namespace Query

def namedColumns (query : Query) : List String :=
  query.fields.filter (· ≠ "*") ++ query.sort.map (·.column)

def checkColumns (catalog : Catalog) (model : Model) (query : Query)
    (filterColumns : List String) : Except QueryError Query :=
  match (query.namedColumns ++ filterColumns).filter (¬ columnExists catalog model ·) with
  | [] => .ok query
  | undefined => .error (.undefinedColumns undefined)

def parse (catalog : Catalog) (model : Model) (raw : RawQuery) : Except QueryError Query := do
  let filter := Condition.compile catalog model raw.filter
  let condition ← filter.result
  let loads ← EagerLoad.resolve catalog model (raw.loads.getD "")
  let fields ← parseFields raw.fields
  let sort ← parseSort raw.sort
  let query : Query :=
    { page := parsePage raw.page
      perPage := parsePerPage raw.perPage
      fields := fields
      sort := sort
      condition := condition
      loads := loads
      relationColumns := EagerLoad.columns model loads }
  query.checkColumns catalog model filter.columns

end Query

end ListQuery
