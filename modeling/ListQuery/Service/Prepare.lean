import ListQuery.Assembly
import ListQuery.Query.Parse
import ListQuery.Statement.Draft

/-!
# Preparing requests

A request names a model and carries a raw query.  Where the catalog has the model and the
query is accepted, it is assembled from scratch and a statement is drafted from the steps.
-/

namespace ListQuery

structure Prepared where
  model : Model
  query : Query
  assembly : Assembly
  draft : Draft

structure Request where
  model : String
  raw : RawQuery
  scope? : Option ParentScope
  paginate : Bool
  deriving DecidableEq, Repr

namespace Request

def assemble (request : Request) (model : Model) (query : Query) : Prepared :=
  let assembly := Assembly.ofQuery model .empty query request.scope? request.paginate
  ⟨model, query, assembly, .ofSteps model.table assembly.steps⟩

def prepare (catalog : Catalog) (request : Request) : Except QueryError Prepared :=
  match catalog.model? request.model with
  | none => .error (.undefinedModel request.model)
  | some model => do
      let query ← Query.parse catalog model request.raw
      return request.assemble model query

end Request

end ListQuery
