import ListQuery.Catalog.Registry
import ListQuery.Error
import ListQuery.Text.Blank
import ListQuery.Text.Cut

/-!
# Related rows to load

A directive lists paths of relations between commas.  Paths with a common beginning share
it, so the loads form a tree whose siblings have different names and stand in the order in
which they are first mentioned.
-/

namespace ListQuery

structure EagerLoad where
  name : String
  relation : Relation
  children : List EagerLoad
  deriving BEq, Repr

namespace EagerLoad

def put (load : EagerLoad) : List EagerLoad → List EagerLoad
  | [] => [load]
  | other :: loads =>
      if other.name = load.name then load :: loads else other :: put load loads

theorem map_name_put_of_mem (load : EagerLoad) (loads : List EagerLoad)
    (h : load.name ∈ loads.map (·.name)) :
    (put load loads).map (·.name) = loads.map (·.name) := by
  induction loads with
  | nil => cases h
  | cons other loads ih =>
      unfold put
      split
      · next hname => simp [hname]
      · next hname =>
          have hrest : load.name ∈ loads.map (·.name) := by
            simpa [Ne.symm hname] using h
          simp only [List.map_cons, ih hrest]

theorem map_name_put_of_not_mem (load : EagerLoad) (loads : List EagerLoad)
    (h : load.name ∉ loads.map (·.name)) :
    (put load loads).map (·.name) = loads.map (·.name) ++ [load.name] := by
  induction loads with
  | nil => rfl
  | cons other loads ih =>
      rw [List.map_cons, List.mem_cons, not_or] at h
      simp [put, Ne.symm h.1, ih h.2]

def find (path : String) (model : Model) (loads : List EagerLoad) (name : String) :
    Except QueryError EagerLoad :=
  match loads.find? (·.name = name) with
  | some load => .ok load
  | none =>
      match model.relation? name with
      | some relation => .ok ⟨name, relation, []⟩
      | none => .error (.undefinedRelation path)

/-- The loads with the segments of a path added.  Every relation but the last of the path
has to lead to a model of the catalog. -/
def insert (catalog : Catalog) (path : String) :
    Model → List String → List EagerLoad → Except QueryError (List EagerLoad)
  | _, [], loads => .ok loads
  | model, [name], loads => do
      let load ← find path model loads name
      return put load loads
  | model, name :: segment :: segments, loads => do
      let load ← find path model loads name
      match catalog.model? load.relation.model with
      | none => .error (.undefinedModel load.relation.model)
      | some related =>
          let children ← insert catalog path related (segment :: segments) load.children
          return put { load with children := children } loads

def paths (directive : String) : List String :=
  ((Text.splitOn ',' directive).map Text.trim).filter (¬ ·.isEmpty)

def resolve (catalog : Catalog) (model : Model) (directive : String) :
    Except QueryError (List EagerLoad) :=
  (paths directive).foldlM
    (fun loads path => insert catalog path model (Text.splitOn '.' path) loads) []

/-- The columns by which loaded rows find the rows they belong to, each of them once. -/
def columns (model : Model) (loads : List EagerLoad) : List String :=
  (loads.map fun load => model.qualify load.relation.foreignKey).eraseDups

end EagerLoad

end ListQuery
