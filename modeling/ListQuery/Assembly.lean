import ListQuery.Query.Basic
import ListQuery.Step

/-!
# Assembling queries

A query is assembled in a fixed order: the columns, the test that holds the rows to their
parent, the filter as one group, the joins that the filter needs, the sort fields, the page.
A relation is joined once, however many predicates reach their fields through it.
-/

namespace ListQuery

/-! ## Joins -/

/-- The names of the relations that are joined, as a set and in the order of the joins. -/
structure JoinRegistry where
  known : List String
  joined : List String
  mem_known : ∀ relation, relation ∈ known ↔ relation ∈ joined
  deriving DecidableEq, Repr

namespace JoinRegistry

def empty : JoinRegistry := ⟨[], [], fun _ => Iff.rfl⟩

def contains (registry : JoinRegistry) (relation : String) : Bool :=
  relation ∈ registry.known

theorem contains_iff {registry : JoinRegistry} {relation : String} :
    registry.contains relation = true ↔ relation ∈ registry.joined := by
  rw [contains, decide_eq_true_eq, registry.mem_known]

def register? (registry : JoinRegistry) (relation : String) : Option JoinRegistry :=
  if registry.contains relation then none
  else some
    { known := relation :: registry.known
      joined := registry.joined ++ [relation]
      mem_known := by
        intro other
        rw [List.mem_cons, List.mem_append, List.mem_singleton, registry.mem_known, or_comm] }

theorem register?_eq_none_iff {registry : JoinRegistry} {relation : String} :
    registry.register? relation = none ↔ relation ∈ registry.joined := by
  simp [register?, contains_iff]

theorem register?_eq_some {registry next : JoinRegistry} {relation : String}
    (h : registry.register? relation = some next) :
    relation ∉ registry.joined ∧ next.joined = registry.joined ++ [relation] := by
  unfold register? at h
  split at h
  · cases h
  · next hnew =>
      cases h
      exact ⟨fun hjoined => hnew (contains_iff.mpr hjoined), rfl⟩

end JoinRegistry

structure Join extends LeftJoin where
  relation : String
  deriving DecidableEq, Repr

def Join.step (join : Join) : Step := .action (.leftJoin join.toLeftJoin)

def Predicate.join? (model : Model) (predicate : Predicate) : Option Join :=
  if predicate.table = model.table then none
  else predicate.relation?.map fun relation =>
    { relation := relation.name
      table := predicate.table
      first := predicate.table ++ "." ++ relation.primaryKey
      second := model.qualify relation.foreignKey }

/-- The joins that predicates need and that are not there yet, and all joins after them. -/
def Join.missing (model : Model) :
    JoinRegistry → List Predicate → List Join × JoinRegistry
  | registry, [] => ([], registry)
  | registry, predicate :: predicates =>
      match predicate.join? model with
      | none => missing model registry predicates
      | some join =>
          match registry.register? join.relation with
          | none => missing model registry predicates
          | some registry =>
              let (joins, registry) := missing model registry predicates
              (join :: joins, registry)

/-! ## Tests -/

def Predicate.step (predicate : Predicate) : Step :=
  .action (.test predicate.connective predicate.column predicate.filter)

namespace Condition

mutual

def step : Condition → Step
  | .predicate leaf => leaf.step
  | .group members => .group (Condition.group members).connective (stepsOf members)

def stepsOf : List Condition → List Step
  | [] => []
  | condition :: conditions => condition.step :: stepsOf conditions

end

def filterStep : Condition → Step
  | .predicate leaf => .group .and [leaf.step]
  | .group members => .group .and (stepsOf members)

end Condition

structure ParentScope where
  foreignKey : String
  parentId : Scalar
  deriving DecidableEq, Repr

/-! ## The parts in order -/

namespace Assembly

/-- A column as a path, a bare name being one of the model. -/
def path (model : Model) (column : String) : String :=
  if '.' ∈ column.toList then column else model.qualify column

def projection (model : Model) (query : Query) : Step :=
  if query.selectsAll then .action (.selectAll model.table)
  else .action (.select (query.fields.map (path model) ++ query.relationColumns))

def scopeStep (model : Model) (scope : ParentScope) : Step :=
  .action (.test .and (model.qualify scope.foreignKey) (.compare .equal scope.parentId))

def orderSteps (model : Model) (sort : List SortField) : List Step :=
  sort.map fun field => .action (.orderBy { field with column := path model field.column })

end Assembly

structure Assembly where
  steps : List Step
  joins : List Join
  registry : JoinRegistry
  deriving BEq, Repr

namespace Assembly

def ofCondition (model : Model) (registry : JoinRegistry) (condition : Condition) : Assembly :=
  let (joins, registry) := Join.missing model registry condition.predicates
  ⟨condition.filterStep :: joins.map Join.step, joins, registry⟩

def ofQuery (model : Model) (registry : JoinRegistry) (query : Query)
    (scope? : Option ParentScope) (paginate : Bool) : Assembly :=
  let filter := ofCondition model registry query.condition
  { filter with
    steps := projection model query :: (scope?.map (scopeStep model)).toList ++
      filter.steps ++ orderSteps model query.sort ++
      (if paginate then [.action (.paginate query.perPage query.page)] else []) }

end Assembly

end ListQuery
