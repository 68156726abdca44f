import ListQuery.Proofs.Command
import ListQuery.Proofs.Compile

/-!
# Binding of client values

The text of the command for an assembled query is a matter of its shape alone.  The values
are bound in the order in which the query has them: the parent, the predicates, the page.
-/

namespace ListQuery

open Sql

/-- The value of the parent, those of the predicates in depth-first order and, on a page,
its limit and offset. -/
def Query.bounds (query : Query) (scope? : Option ParentScope) (paginate : Bool) : List Bound :=
  scope?.toList.map (fun scope => .scalar scope.parentId) ++
    query.condition.predicates.flatMap (fun predicate => predicate.filter.bounds) ++
    if paginate then (Window.of query.perPage query.page).bounds else []

def Action.bounds (action : Action) : List Bound :=
  action.leaf?.elim [] fun leaf => leaf.2.bounds

theorem Predicate.bounds_action (predicate : Predicate) :
    predicate.action.bounds = predicate.filter.bounds := by
  rw [← Filter.elim_bounds_test?]
  simp only [Predicate.action, Action.bounds, Action.leaf?]
  cases predicate.filter.test? <;> rfl

theorem Action.flatMap_bounds_leaf? (actions : List Action) :
    (actions.filterMap leaf?).flatMap (fun leaf => leaf.2.bounds) = actions.flatMap bounds := by
  induction actions with
  | nil => rfl
  | cons action actions ih =>
      cases hleaf : action.leaf? <;> simp [bounds, hleaf, ih]

namespace Assembly

variable (model : Model) (joined : JoinRegistry) (query : Query)
  (scope? : Option ParentScope) (paginate : Bool)

theorem leaves_links :
    (Chain.ofLinks (links model query scope?)).clause?.elim [] Clause.leaves =
      (Action.ofSteps (ofQuery model joined query scope? paginate).steps).filterMap
        Action.leaf? := by
  rw [Chain.elim_leaves_clause?, Chain.ofLinks, Chain.leaves_pushAll, Chain.leaves_empty,
    List.nil_append, ← links_ofQuery model joined query scope? paginate, Link.leaves_ofSteps]

theorem flatMap_bounds_ofQuery :
    (Action.ofSteps (ofQuery model joined query scope? paginate).steps).flatMap Action.bounds =
      scope?.toList.map (fun scope => .scalar scope.parentId) ++
        query.condition.predicates.flatMap fun predicate => predicate.filter.bounds := by
  have htests : ∀ action : Action, action.isTest = false → action.bounds = [] := by
    intro action haction
    cases action with
    | test connective column filter => cases haction
    | _ => rfl
  have hscope (scope : ParentScope) :
      (scopeAction model scope).bounds = [.scalar scope.parentId] := rfl
  rw [flatMap_tests_ofQuery model joined query scope? paginate htests]
  simp only [hscope, Predicate.bounds_action, List.map_eq_flatMap]

theorem values_ofQuery (table : String) (dialect : Dialect) :
    ((Draft.ofSteps table (ofQuery model joined query scope? paginate).steps).rows.command
      dialect).values = query.bounds scope? paginate := by
  have hvalues := (selection model joined query scope? paginate table).bounds_pieces
  rw [selection, leaves_links model joined query scope? paginate, Action.flatMap_bounds_leaf?,
    flatMap_bounds_ofQuery] at hvalues
  rw [rows_ofQuery, Query.bounds]
  refine Eq.trans hvalues ?_
  cases paginate <;> rfl

/-- Queries that differ in their values alone lead to commands that differ in theirs alone:
the values are never part of the text, and each is bound in its place. -/
theorem command_of_masked_eq (table : String) (dialect : Dialect) {first second : Query}
    {firstScope? secondScope? : Option ParentScope} (hquery : first.masked = second.masked)
    (hscope : firstScope?.map ParentScope.masked = secondScope?.map ParentScope.masked) :
    let command query scope? :=
      (Draft.ofSteps table (ofQuery model joined query scope? paginate).steps).rows.command
        dialect
    (command first firstScope?).text = (command second secondScope?).text ∧
      (command first firstScope?).values = first.bounds firstScope? paginate ∧
      (command second secondScope?).values = second.bounds secondScope? paginate := by
  intro command
  -- Both texts are that of the masked query, which the two runs share.
  have hmasked : ∀ query scope?,
      (command query.masked (scope?.map ParentScope.masked)).text =
        (command query scope?).text := by
    intro query scope?
    simp only [command, rows_masked]
    exact Statement.text_masked _ dialect
  refine ⟨?_, values_ofQuery .., values_ofQuery ..⟩
  calc
    (command first firstScope?).text
      = (command first.masked (firstScope?.map ParentScope.masked)).text :=
          (hmasked first firstScope?).symm
    _ = (command second.masked (secondScope?.map ParentScope.masked)).text := by
          rw [hquery, hscope]
    _ = (command second secondScope?).text := hmasked second secondScope?

end Assembly

def Sample.search (pattern least greatest : Scalar) (page : Nat) : Query :=
  { page := page
    perPage := 10
    fields := ["id"]
    sort := []
    condition := .group
      [.predicate ⟨none, "Profile", "profiles", "city", .compare .like pattern,
          some profileOfUser⟩,
        .group
          [.predicate ⟨some .or, "User", "users", "age", .set .isIn [], none⟩,
            .predicate ⟨some .or, "User", "users", "age", .set .between [least, greatest], none⟩,
            .predicate ⟨none, "User", "users", "age", .set .notBetween [least], none⟩]]
    loads := []
    relationColumns := [] }

theorem Assembly.command_of_two_searches :
    let first := Sample.search (.text "B%") (.int 18) (.int 30) 3
    let second := Sample.search (.bool true) (.text "' OR 1=1 --") (.text "") 1
    let command query (parent : Scalar) :=
      (Draft.ofSteps "users" (ofQuery Sample.user .empty query (some ⟨"profile_id", parent⟩)
        true).steps).rows.command .postgres
    first.masked = second.masked ∧
      (command first (.int 5)).text = (command second (.text "5")).text ∧
      (command first (.int 5)).values =
        [.scalar (.int 5), .scalar (.text "B%"), .constant 1, .constant 2, .scalar (.int 18),
          .scalar (.int 30), .rows 10, .rows 20] ∧
      (command second (.text "5")).values =
        [.scalar (.text "5"), .scalar (.text "true"), .constant 1, .constant 2,
          .scalar (.text "' OR 1=1 --"), .scalar (.text ""), .rows 10, .rows 0] :=
  ⟨rfl, command_of_masked_eq Sample.user .empty true "users" .postgres rfl rfl⟩

end ListQuery
