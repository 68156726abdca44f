import ListQuery.Assembly
import ListQuery.Proofs.Draft

/-!
# What assembled queries do

The tests of an assembled query are that of the parent, if there is one, and those of the
predicates in depth-first order.  To the chain of a draft the assembly is at most two links:
the test of the parent and the clause of the whole filter.
-/

namespace ListQuery

/-! ## Filters -/

def Predicate.action (predicate : Predicate) : Action :=
  .test predicate.connective predicate.column predicate.filter

namespace Condition

def filterSteps : Condition → List Step
  | .predicate leaf => [leaf.step]
  | .group members => stepsOf members

theorem filterStep_eq (condition : Condition) :
    condition.filterStep = .group .and condition.filterSteps := by
  cases condition <;> rfl

def clause? (condition : Condition) : Option Clause :=
  (Chain.ofLinks (Link.ofSteps condition.filterSteps)).clause?

theorem link_filterStep (condition : Condition) :
    Link.ofStep? condition.filterStep =
      condition.clause?.map fun clause => (Connective.and, clause) := by
  rw [filterStep_eq]
  rfl

mutual

theorem actions_step : ∀ condition : Condition,
    Action.ofSteps [condition.step] = condition.predicates.map Predicate.action
  | .predicate _ => rfl
  | .group members => by
      rw [step, Action.ofSteps_group, actions_stepsOf members]
      simp [predicates]

theorem actions_stepsOf : ∀ conditions : List Condition,
    Action.ofSteps (stepsOf conditions) = (predicatesAmong conditions).map Predicate.action
  | [] => rfl
  | condition :: conditions => by
      rw [stepsOf, ← List.singleton_append, Action.ofSteps_append, actions_step condition,
        actions_stepsOf conditions]
      simp [predicatesAmong]

end

theorem actions_filterStep (condition : Condition) (steps : List Step) :
    Action.ofSteps (condition.filterStep :: steps) =
      condition.predicates.map Predicate.action ++ Action.ofSteps steps := by
  cases condition with
  | predicate leaf => rfl
  | group members =>
      rw [filterStep, Action.ofSteps_group, actions_stepsOf]
      simp [predicates]

end Condition

/-! ## Whole queries -/

theorem Action.ofSteps_map_action {β : Type} (action : β → Action) (items : List β) :
    Action.ofSteps (items.map fun item => .action (action item)) = items.map action := by
  induction items with
  | nil => rfl
  | cons item items ih => simp [ih]

theorem Link.ofSteps_map_action {β : Type} (action : β → Action) (items : List β)
    (h : ∀ item, Link.ofStep? (.action (action item)) = none) :
    Link.ofSteps (items.map fun item => .action (action item)) = [] := by
  induction items with
  | nil => rfl
  | cons item items ih => simp [Link.ofSteps, h, ih]

def Action.isTest : Action → Bool
  | .test _ _ _ => true
  | _ => false

namespace Assembly

variable (model : Model) (joined : JoinRegistry) (query : Query)
  (scope? : Option ParentScope) (paginate : Bool)

def projectionAction : Action :=
  if query.selectsAll then .selectAll model.table
  else .select (query.fields.map (path model) ++ query.relationColumns)

def scopeAction (scope : ParentScope) : Action :=
  .test .and (model.qualify scope.foreignKey) (.compare .equal scope.parentId)

def orderAction (field : SortField) : Action :=
  .orderBy { field with column := path model field.column }

def neededJoins : List Join := (Join.missing model joined query.condition.predicates).1

theorem steps_ofQuery :
    (ofQuery model joined query scope? paginate).steps =
      .action (projectionAction model query) ::
        (scope?.toList.map fun scope => .action (scopeAction model scope)) ++
        query.condition.filterStep ::
          ((neededJoins model joined query).map fun join => .action (.leftJoin join.toLeftJoin)) ++
        (query.sort.map fun field => .action (orderAction model field)) ++
        (if paginate then [.action (.paginate query.perPage query.page)] else []) := by
  have hprojection : projection model query = .action (projectionAction model query) := by
    unfold projection projectionAction
    split <;> rfl
  rw [← hprojection]
  cases scope? <;> rfl

theorem actions_ofQuery :
    Action.ofSteps (ofQuery model joined query scope? paginate).steps =
      projectionAction model query :: scope?.toList.map (scopeAction model) ++
        query.condition.predicates.map Predicate.action ++
        (neededJoins model joined query).map (fun join => .leftJoin join.toLeftJoin) ++
        query.sort.map (orderAction model) ++
        (if paginate then [.paginate query.perPage query.page] else []) := by
  have hpaginate : Action.ofSteps
      (if paginate then [.action (.paginate query.perPage query.page)] else []) =
      if paginate then [.paginate query.perPage query.page] else [] := by
    cases paginate <;> rfl
  rw [steps_ofQuery]
  simp only [List.cons_append, Action.ofSteps_action, Action.ofSteps_append,
    Action.ofSteps_map_action, Condition.actions_filterStep, hpaginate, List.append_assoc]

def scopeLink (scope : ParentScope) : Link :=
  (.and, .test (model.qualify scope.foreignKey) (.compare .equal scope.parentId))

def links : List Link :=
  scope?.toList.map (scopeLink model) ++
    (query.condition.clause?.map fun clause => (Connective.and, clause)).toList

theorem links_ofQuery :
    Link.ofSteps (ofQuery model joined query scope? paginate).steps =
      links model query scope? := by
  have hprojection : Link.ofStep? (.action (projectionAction model query)) = none := by
    unfold projectionAction
    split <;> rfl
  have hjoins := Link.ofSteps_map_action (fun join : Join => .leftJoin join.toLeftJoin)
    (neededJoins model joined query) (fun _ => rfl)
  have horder := Link.ofSteps_map_action (orderAction model) query.sort (fun _ => rfl)
  have hpaginate : Link.ofSteps
      (if paginate then [.action (.paginate query.perPage query.page)] else []) = [] := by
    cases paginate <;> rfl
  rw [steps_ofQuery]
  simp only [List.cons_append, Link.ofSteps, Link.ofSteps_append, hprojection, hjoins, horder,
    hpaginate, Condition.link_filterStep, List.append_nil, Option.toList_none, List.nil_append,
    List.append_assoc]
  cases scope? <;> rfl

theorem flatMap_actions_ofQuery {β : Type} (part : Action → List β) :
    (Action.ofSteps (ofQuery model joined query scope? paginate).steps).flatMap part =
      part (projectionAction model query) ++
        (scope?.toList.flatMap fun scope => part (scopeAction model scope)) ++
        (query.condition.predicates.flatMap fun predicate => part predicate.action) ++
        ((neededJoins model joined query).flatMap fun join =>
          part (.leftJoin join.toLeftJoin)) ++
        (query.sort.flatMap fun field => part (orderAction model field)) ++
        (if paginate then part (.paginate query.perPage query.page) else []) := by
  rw [actions_ofQuery]
  cases paginate <;> simp [List.flatMap_map]

theorem flatMap_const_nil {β γ : Type} (items : List β) :
    items.flatMap (fun _ => ([] : List γ)) = [] := by
  simp

theorem flatMap_tests_ofQuery {β : Type} {part : Action → List β}
    (hpart : ∀ action, action.isTest = false → part action = []) :
    (Action.ofSteps (ofQuery model joined query scope? paginate).steps).flatMap part =
      (scope?.toList.flatMap fun scope => part (scopeAction model scope)) ++
        query.condition.predicates.flatMap fun predicate => part predicate.action := by
  have hprojection : part (projectionAction model query) = [] := by
    refine hpart _ ?_
    unfold projectionAction
    split <;> rfl
  have hjoin (join : Join) : part (.leftJoin join.toLeftJoin) = [] := hpart _ rfl
  have horder (field : SortField) : part (orderAction model field) = [] := hpart _ rfl
  have hpage : part (.paginate query.perPage query.page) = [] := hpart _ rfl
  simp only [flatMap_actions_ofQuery, hprojection, hjoin, horder, hpage, flatMap_const_nil,
    ite_self, List.nil_append, List.append_nil]

def selection (table : String) : Selection :=
  { table := table
    columns := (projectionAction model query).projections
    joins := (neededJoins model joined query).map Join.toLeftJoin
    condition := (Chain.ofLinks (links model query scope?)).clause?
    order := query.sort.map fun field => { field with column := path model field.column }
    window := if paginate then some (.of query.perPage query.page) else none }

theorem rows_ofQuery (table : String) :
    (Draft.ofSteps table (ofQuery model joined query scope? paginate).steps).rows =
      .rows (selection model joined query scope? paginate table) := by
  rw [Draft.ofSteps_eq, links_ofQuery, selection]
  simp only [flatMap_actions_ofQuery, projectionAction]
  cases query.selectsAll <;> cases paginate <;>
    simp [scopeAction, Predicate.action, orderAction, Action.projections, Action.joins,
      Action.order, Action.windows, flatMap_const_nil, Draft.rows, Draft.unpaged,
      List.map_eq_flatMap]

theorem value?_ofCondition {α : Type} [Lattice α] [BoundedOrder α] (assignment : Assignment α)
    (condition : Condition) :
    Linked.value? (Linked.ofSteps assignment (ofCondition model joined condition).steps) =
      Linked.value? (Linked.ofSteps assignment condition.filterSteps) := by
  have hsteps : (ofCondition model joined condition).steps =
      .group .and condition.filterSteps ::
        (Join.missing model joined condition.predicates).1.map fun join =>
          .action (.leftJoin join.toLeftJoin) := by
    rw [← Condition.filterStep_eq]
    rfl
  have hjoins : Linked.ofSteps assignment
      ((Join.missing model joined condition.predicates).1.map fun join =>
        .action (.leftJoin join.toLeftJoin)) = [] := by
    rw [Linked.ofSteps, Link.ofSteps_map_action _ _ (fun _ => rfl), List.map_nil]
  rw [hsteps, Linked.ofSteps_group, hjoins, List.append_nil]
  cases Linked.value? (Linked.ofSteps assignment condition.filterSteps) <;> rfl

end Assembly

end ListQuery
