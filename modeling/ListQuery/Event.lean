import ListQuery.Service.Prepare
import ListQuery.Response

/-!
# Events

What is done with a request shows in a log of events.  Each has a level, a message and named
texts.
-/

namespace ListQuery

inductive Level where
  | debug
  | warning
  | error
  deriving DecidableEq, Repr

structure Event where
  level : Level
  message : String
  fields : List (String × String)
  deriving DecidableEq, Repr

namespace Event

def ofParse (model : Model) : Except QueryError Query → Event
  | .error error =>
      ⟨.debug, "Rejected list query", [("model", model.name), ("error", error.message)]⟩
  | .ok query =>
      ⟨.debug, "Parsed list query",
        [("model", model.name), ("page", toString query.page),
          ("per_page", toString query.perPage),
          ("fields", toString query.fields.length),
          ("sort", toString query.sort.length),
          ("predicates", toString query.condition.predicates.length),
          ("with", toString query.loads.length)]⟩

def ofJoin (join : Join) : Event :=
  ⟨.debug, "Joining related table for filtering",
    [("relation", join.relation), ("table", join.table)]⟩

def ofAction : Action → List Event
  | .test _ column (.set test values) =>
      if ((Filter.set test values).test?).isSome then []
      else
        [⟨.warning, "Dropping range predicate without exactly two bounds",
          [("column", column), ("op", test.symbol), ("bounds", toString values.length)]⟩]
  | _ => []

mutual

def ofStep : Step → List Event
  | .action action => ofAction action
  | .group _ steps => ofSteps steps

def ofSteps : List Step → List Event
  | [] => []
  | step :: steps => ofStep step ++ ofSteps steps

end

/-- A prepared request: the tests come before the joins. -/
def ofPrepared (paginate : Bool) (prepared : Prepared) : List Event :=
  ofSteps prepared.assembly.steps ++ prepared.assembly.joins.map ofJoin ++
    [⟨.debug, "Assembled list query",
      [("model", prepared.model.name),
        ("joins", toString prepared.assembly.registry.joined.length),
        ("paginate", if paginate then "true" else "false")]⟩]

def ofRequest (catalog : Catalog) (request : Request) : List Event :=
  match catalog.model? request.model with
  | none => []
  | some model =>
      let parsed := Query.parse catalog model request.raw
      ofParse model parsed ::
        match parsed with
        | .error _ => []
        | .ok query => ofPrepared request.paginate (request.assemble model query)

def ofFailure (error : ApiError) : Event :=
  match error with
  | .database error =>
      ⟨.error, "Database error occurred", [("error", error.description)]⟩
  | .internal _ (some details) =>
      ⟨.error, "Internal error occurred", [("details", details)]⟩
  | error =>
      ⟨.debug, "API error", [("error", error.message), ("status", error.status.text)]⟩

end Event

end ListQuery
