import ListQuery.EagerLoad
import ListQuery.Proofs.Cut
import ListQuery.Proofs.FirstMention

/-!
# Routes of relations

A directive lists its paths as pieces between commas.  The segments of a path are a route: each
names a relation of the model that the segment before it leads to.  Routes are followed here one
by one, without the loads that come from them.
-/

namespace ListQuery

namespace EagerLoad

/-! ## Paths of a directive -/

/-- The paths that pieces list in their order; a blank piece lists none. -/
inductive Lists : List String → List String → Prop
  | nil : Lists [] []
  | blank {piece : String} {pieces listed : List String} (hpiece : Text.IsCore piece "")
      (h : Lists pieces listed) : Lists (piece :: pieces) listed
  | path {piece path : String} {pieces listed : List String} (hpiece : Text.IsCore piece path)
      (hne : path ≠ "") (h : Lists pieces listed) : Lists (piece :: pieces) (path :: listed)

theorem lists_iff {pieces listed : List String} :
    Lists pieces listed ↔ (pieces.map Text.trim).filter (¬ ·.isEmpty) = listed := by
  constructor
  · intro h
    induction h with
    | nil => rfl
    | blank hpiece _ ih => simp [hpiece.trim_eq, ← ih]
    | path hpiece hne _ ih => simp [hpiece.trim_eq, hne, ← ih]
  · rintro rfl
    induction pieces with
    | nil => exact .nil
    | cons piece pieces ih =>
        have hpiece := Text.isCore_trim piece
        by_cases hempty : Text.trim piece = ""
        · simpa [hempty] using Lists.blank (hempty ▸ hpiece) ih
        · simpa [hempty] using Lists.path hpiece hempty ih

/-- The paths of a directive are listed by its pieces between commas. -/
theorem paths_eq_iff {directive : String} {listed : List String} :
    paths directive = listed ↔ ∃ pieces, pieces ≠ [] ∧ (∀ piece ∈ pieces, ',' ∉ piece.toList) ∧
      directive = ",".intercalate pieces ∧ Lists pieces listed := by
  constructor
  · intro h
    exact ⟨Text.splitOn ',' directive, Text.splitOn_ne_nil ',' directive,
      fun _ => Text.not_mem_of_mem_splitOn, (Text.intercalate_splitOn ',' directive).symm,
      lists_iff.mpr h⟩
  · rintro ⟨pieces, hne, hcomma, rfl, hlists⟩
    have hpieces : Text.splitOn ',' (",".intercalate pieces) = pieces :=
      Text.splitOn_intercalate hne hcomma
    rw [paths, hpieces]
    exact lists_iff.mp hlists

def routes (directive : String) : List (List String) :=
  (paths directive).map (Text.splitOn '.')

/-! ## Where a route leads -/

def relationAt? (catalog : Catalog) : Model → List String → Option Relation
  | _, [] => none
  | model, [name] => model.relation? name
  | model, name :: segment :: names => do
      let relation ← model.relation? name
      let related ← catalog.model? relation.model
      relationAt? catalog related (segment :: names)

/-- What is wrong with the first segment at which a route does not lead on. -/
inductive Mistake (catalog : Catalog) (path : String) :
    Model → List String → QueryError → Prop
  | relation {model : Model} {name : String} {names : List String}
      (hrelation : model.relation? name = none) :
      Mistake catalog path model (name :: names) (.undefinedRelation path)
  | target {model : Model} {name segment : String} {names : List String} {relation : Relation}
      (hrelation : model.relation? name = some relation)
      (htarget : catalog.model? relation.model = none) :
      Mistake catalog path model (name :: segment :: names) (.undefinedModel relation.model)
  | beyond {model related : Model} {name segment : String} {names : List String}
      {relation : Relation} {error : QueryError}
      (hrelation : model.relation? name = some relation)
      (htarget : catalog.model? relation.model = some related)
      (hbeyond : Mistake catalog path related (segment :: names) error) :
      Mistake catalog path model (name :: segment :: names) error

variable {catalog : Catalog} {model : Model}

theorem relationAt?_cons_cons {related : Model} {relation : Relation} {name : String}
    (hrelation : model.relation? name = some relation)
    (htarget : catalog.model? relation.model = some related) (segment : String)
    (names : List String) :
    relationAt? catalog model (name :: segment :: names) =
      relationAt? catalog related (segment :: names) := by
  simp [relationAt?, hrelation, htarget]

theorem exists_of_relationAt? {name segment : String} {names : List String}
    {relation : Relation}
    (h : relationAt? catalog model (name :: segment :: names) = some relation) :
    ∃ first related, model.relation? name = some first ∧
      catalog.model? first.model = some related ∧
      relationAt? catalog related (segment :: names) = some relation := by
  simpa only [relationAt?, Option.bind_eq_bind, Option.bind_eq_some_iff,
    exists_and_left] using h

theorem isSome_or_mistake (catalog : Catalog) (model : Model) (path : String)
    {segments : List String} (hne : segments ≠ []) :
    (relationAt? catalog model segments).isSome ∨
      ∃ error, Mistake catalog path model segments error := by
  induction segments generalizing model with
  | nil => exact absurd rfl hne
  | cons name rest ih =>
      cases hrelation : model.relation? name with
      | none => exact .inr ⟨_, .relation hrelation⟩
      | some relation =>
          cases rest with
          | nil => exact .inl (by simp [relationAt?, hrelation])
          | cons segment names =>
              cases htarget : catalog.model? relation.model with
              | none => exact .inr ⟨_, .target hrelation htarget⟩
              | some related =>
                  rw [relationAt?_cons_cons hrelation htarget]
                  refine (ih related (by simp)).imp_right ?_
                  rintro ⟨error, hmistake⟩
                  exact ⟨error, .beyond hrelation htarget hmistake⟩

/-! ## Routes that begin alike -/

def mentioned (routes : List (List String)) (names : List String) : List String :=
  routes.filterMap fun route => if names <+: route then route[names.length]? else none

def heads (routes : List (List String)) : List String := routes.filterMap List.head?

def rest? (name : String) : List String → Option (List String)
  | first :: second :: names => if first = name then some (second :: names) else none
  | _ => none

/-- What is left of the routes that start with a name and go on from there. -/
def beyond (name : String) (routes : List (List String)) : List (List String) :=
  routes.filterMap (rest? name)

variable {routes : List (List String)} {name : String}

theorem mem_heads_iff : name ∈ heads routes ↔ ∃ names, name :: names ∈ routes := by
  simp [heads, List.head?_eq_some_iff]

theorem rest?_eq_some_iff {route names : List String} :
    rest? name route = some names ↔ names ≠ [] ∧ route = name :: names := by
  rcases route with _ | ⟨first, _ | ⟨second, rest⟩⟩
  · simp [rest?]
  · simp +contextual [rest?]
  · by_cases hsame : first = name
    · simp only [rest?, hsame, if_true, Option.some.injEq, List.cons.injEq, true_and]
      refine (and_iff_right_of_imp ?_).symm
      rintro rfl
      simp
    · simp [rest?, hsame]

theorem mem_beyond_iff {names : List String} :
    names ∈ beyond name routes ↔ names ≠ [] ∧ name :: names ∈ routes := by
  simp [beyond, rest?_eq_some_iff, and_left_comm]

theorem exists_mem_beyond_iff {names : List String} (hne : names ≠ []) :
    (∃ rest ∈ beyond name routes, names <+: rest) ↔
      ∃ route ∈ routes, name :: names <+: route := by
  constructor
  · rintro ⟨rest, hrest, hbegins⟩
    exact ⟨name :: rest, (mem_beyond_iff.mp hrest).2, (List.prefix_cons_inj name).mpr hbegins⟩
  · rintro ⟨_, hroute, back, rfl⟩
    have hrest : names ++ back ∈ beyond name routes :=
      mem_beyond_iff.mpr ⟨by simp [hne], hroute⟩
    exact ⟨names ++ back, hrest, List.prefix_append names back⟩

theorem beyond_eq_nil_of_not_mem (h : name ∉ heads routes) : beyond name routes = [] := by
  rw [List.eq_nil_iff_forall_not_mem]
  intro names hnames
  exact h (mem_heads_iff.mpr ⟨names, (mem_beyond_iff.mp hnames).2⟩)

theorem heads_concat (routes : List (List String)) (name : String) (names : List String) :
    heads (routes ++ [name :: names]) = heads routes ++ [name] := by
  simp [heads]

theorem beyond_concat_of_ne {other : String} (h : other ≠ name) (routes : List (List String))
    (names : List String) : beyond other (routes ++ [name :: names]) = beyond other routes := by
  cases names <;> simp [beyond, rest?, h.symm]

theorem beyond_concat_last (name : String) (routes : List (List String)) :
    beyond name (routes ++ [[name]]) = beyond name routes := by
  simp [beyond, rest?]

theorem beyond_concat_cons (name segment : String) (routes : List (List String))
    (names : List String) :
    beyond name (routes ++ [name :: segment :: names]) =
      beyond name routes ++ [segment :: names] := by
  simp [beyond, rest?]

theorem mentioned_nil (routes : List (List String)) : mentioned routes [] = heads routes := by
  simp [mentioned, heads, List.head?_eq_getElem?]

theorem mentioned_cons (routes : List (List String)) (name : String) (names : List String) :
    mentioned routes (name :: names) = mentioned (beyond name routes) names := by
  rw [mentioned, mentioned, beyond, List.filterMap_filterMap]
  congr 1
  funext route
  rcases route with _ | ⟨first, _ | ⟨second, rest⟩⟩
  · simp [rest?]
  · simp [rest?]
  · by_cases hsame : first = name
    · simp [rest?, hsame]
    · simp [rest?, hsame, Ne.symm hsame]

end EagerLoad

end ListQuery
