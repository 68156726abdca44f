import Mathlib.Data.List.Basic
import ListQuery.Proofs.Clause
import ListQuery.Statement.Draft

/-!
# What steps do to a draft

Tests and groups reach the chain of a draft, and all that they do there is to push links.
The other parts of a draft are changed by the actions among the steps in their order,
whichever groups the actions are in.
-/

namespace ListQuery

/-! ## Links and actions of steps -/

mutual

def Link.ofStep? : Step → Option Link
  | .action (.test connective column filter) =>
      filter.test?.map fun check => (connective, .test column check)
  | .action _ => none
  | .group connective steps =>
      (Chain.ofLinks (Link.ofSteps steps)).clause?.map fun clause => (connective, clause)

def Link.ofSteps : List Step → List Link
  | [] => []
  | step :: steps => (Link.ofStep? step).toList ++ Link.ofSteps steps

end

theorem Link.ofSteps_append (front back : List Step) :
    Link.ofSteps (front ++ back) = Link.ofSteps front ++ Link.ofSteps back := by
  induction front with
  | nil => rfl
  | cons step front ih => simp [Link.ofSteps, ih]

def Call.action? : Call → Option Action
  | .action made => some made
  | .openGroup _ => none
  | .closeGroup => none

namespace Action

def ofSteps (steps : List Step) : List Action := (Call.ofSteps steps).filterMap Call.action?

@[simp] theorem ofSteps_nil : ofSteps [] = [] := rfl

@[simp] theorem ofSteps_action (action : Action) (steps : List Step) :
    ofSteps (.action action :: steps) = action :: ofSteps steps := rfl

@[simp] theorem ofSteps_group (connective : Connective) (inner steps : List Step) :
    ofSteps (.group connective inner :: steps) = ofSteps inner ++ ofSteps steps := by
  simp [ofSteps, Call.ofSteps, Step.calls, Call.action?, List.filterMap_cons]

theorem ofSteps_append (front back : List Step) :
    ofSteps (front ++ back) = ofSteps front ++ ofSteps back := by
  simp [ofSteps, Call.ofSteps_append]

theorem mem_ofSteps {action : Action} {steps : List Step} :
    action ∈ ofSteps steps ↔ .action action ∈ Call.ofSteps steps := by
  rw [ofSteps, List.mem_filterMap]
  constructor
  · rintro ⟨call, hmem, hcall⟩
    cases call with
    | action other =>
        cases hcall
        exact hmem
    | openGroup connective => cases hcall
    | closeGroup => cases hcall
  · intro hmem
    exact ⟨_, hmem, rfl⟩

def leaf? : Action → Option (String × Test)
  | .test _ column filter => filter.test?.map fun check => (column, check)
  | _ => none

end Action

mutual

theorem Link.leaves_ofStep? : ∀ step : Step,
    (Link.ofStep? step).toList.flatMap (fun link => link.2.leaves) =
      (Action.ofSteps [step]).filterMap Action.leaf?
  | .action (.test connective column filter) => by
      cases hcheck : filter.test? <;>
        simp [Link.ofStep?, Action.leaf?, hcheck, Clause.leaves]
  | .action (.selectAll _) => rfl
  | .action (.select _) => rfl
  | .action (.leftJoin _) => rfl
  | .action (.orderBy _) => rfl
  | .action (.paginate _ _) => rfl
  | .group connective steps => by
      have hinner := Chain.elim_leaves_clause? (Chain.ofLinks (Link.ofSteps steps))
      rw [Chain.ofLinks, Chain.leaves_pushAll, Link.leaves_ofSteps steps] at hinner
      rw [Action.ofSteps_group, Action.ofSteps_nil, List.append_nil, ← List.nil_append
        ((Action.ofSteps steps).filterMap Action.leaf?), ← Chain.leaves_empty, ← hinner]
      simp only [Link.ofStep?, Chain.ofLinks]
      cases (Chain.empty.pushAll (Link.ofSteps steps)).clause? <;> simp

theorem Link.leaves_ofSteps : ∀ steps : List Step,
    (Link.ofSteps steps).flatMap (fun link => link.2.leaves) =
      (Action.ofSteps steps).filterMap Action.leaf?
  | [] => rfl
  | step :: steps => by
      rw [← List.singleton_append, Action.ofSteps_append, List.filterMap_append,
        ← Link.leaves_ofStep? step, ← Link.leaves_ofSteps steps]
      simp [Link.ofSteps]

end

/-! ## The chain of a draft -/

theorem Chain.push?_eq_pushAll (chain : Chain) (connective : Connective)
    (clause? : Option Clause) :
    chain.push? connective clause? =
      chain.pushAll (clause?.map fun clause => (connective, clause)).toList := by
  cases clause? <;> rfl

namespace Draft

mutual

theorem chain_add (draft : Draft) : ∀ step : Step,
    (draft.add step).chain = draft.chain.pushAll (Link.ofStep? step).toList
  | .action (.test connective column filter) => by
      simp [add, act, Chain.push?_eq_pushAll, Link.ofStep?, Option.map_map, Function.comp_def]
  | .action (.selectAll _) => rfl
  | .action (.select _) => rfl
  | .action (.leftJoin _) => rfl
  | .action (.orderBy _) => rfl
  | .action (.paginate _ _) => rfl
  | .group connective steps => by
      have hinner := chain_addAll { draft with chain := .empty } steps
      simp only [add, Chain.push?_eq_pushAll, Link.ofStep?, Chain.ofLinks, hinner]

theorem chain_addAll (draft : Draft) : ∀ steps : List Step,
    (draft.addAll steps).chain = draft.chain.pushAll (Link.ofSteps steps)
  | [] => rfl
  | step :: steps => by
      rw [addAll, chain_addAll (draft.add step) steps, chain_add draft step, Link.ofSteps,
        Chain.pushAll_append]

end

theorem chain_ofSteps (table : String) (steps : List Step) :
    (ofSteps table steps).chain = .ofLinks (Link.ofSteps steps) :=
  chain_addAll (start table) steps

end Draft

/-! ## The condition of a statement -/

def Statement.selection : Statement → Selection
  | .rows selection => selection
  | .count selection => selection

theorem Draft.condition_count (draft : Draft) :
    draft.count.selection.condition = draft.rows.selection.condition := rfl

section Value

variable {α : Type} [Lattice α] [BoundedOrder α] (assignment : Assignment α)

/-- The value of the condition of a statement; a statement without one takes every row. -/
def Statement.value (statement : Statement) : α :=
  (statement.selection.condition.map (Clause.value assignment)).getD ⊤

def Linked.ofSteps (steps : List Step) : List (Connective × α) :=
  (Link.ofSteps steps).map fun link => (link.1, link.2.value assignment)

theorem Linked.ofSteps_test (connective : Connective) (column : String) (filter : Filter)
    (steps : List Step) :
    ofSteps assignment (.action (.test connective column filter) :: steps) =
      (filter.test?.map fun check => (connective, assignment column check)).toList ++
        ofSteps assignment steps := by
  cases hcheck : filter.test? <;> simp [ofSteps, Link.ofSteps, Link.ofStep?, hcheck, Clause.value]

theorem Linked.ofSteps_group (connective : Connective) (inner steps : List Step) :
    ofSteps assignment (.group connective inner :: steps) =
      ((value? (ofSteps assignment inner)).map fun value => (connective, value)).toList ++
        ofSteps assignment steps := by
  rw [ofSteps, ofSteps, ofSteps, ← Chain.map_value_clause?_ofLinks]
  cases hclause : (Chain.ofLinks (Link.ofSteps inner)).clause? <;>
    simp [Link.ofSteps, Link.ofStep?, hclause]

theorem Draft.map_value_condition_ofSteps (table : String) (steps : List Step) :
    (ofSteps table steps).rows.selection.condition.map (Clause.value assignment) =
      Linked.value? (Linked.ofSteps assignment steps) := by
  rw [Linked.ofSteps, ← Chain.map_value_clause?_ofLinks, ← chain_ofSteps table]
  rfl

end Value

namespace Draft

/-! ## The other parts of a draft -/

section View

variable {β : Type} (view : Draft → β) (change : β → Action → β)

mutual

theorem view_add
    (hact : ∀ draft action, view (draft.act action) = change (view draft) action)
    (hchain : ∀ draft chain, view { draft with chain := chain } = view draft)
    (draft : Draft) : ∀ step : Step,
    view (draft.add step) = (Action.ofSteps [step]).foldl change (view draft)
  | .action action => hact draft action
  | .group connective steps => by
      -- The inner steps start from an empty chain, of which the view shows nothing.
      rw [add, hchain, view_addAll hact hchain { draft with chain := .empty } steps, hchain]
      simp

theorem view_addAll
    (hact : ∀ draft action, view (draft.act action) = change (view draft) action)
    (hchain : ∀ draft chain, view { draft with chain := chain } = view draft)
    (draft : Draft) : ∀ steps : List Step,
    view (draft.addAll steps) = (Action.ofSteps steps).foldl change (view draft)
  | [] => rfl
  | step :: steps => by
      rw [addAll, view_addAll hact hchain (draft.add step) steps,
        view_add hact hchain draft step, ← List.foldl_append, ← Action.ofSteps_append,
        List.singleton_append]

end

end View

end Draft

/-! ### Columns, joins, order and window -/

namespace Action

def projections : Action → List Projection
  | .selectAll table => [.allOf table]
  | .select columns => columns.map .column
  | _ => []

def joins : Action → List LeftJoin
  | .leftJoin join => [join]
  | _ => []

def order : Action → List SortField
  | .orderBy field => [field]
  | _ => []

def windows : Action → List Window
  | .paginate perPage page => [.of perPage page]
  | _ => []

end Action

namespace Draft

theorem append_addAll {β : Type} (view : Draft → List β) (part : Action → List β)
    (hact : ∀ draft action, view (draft.act action) = view draft ++ part action)
    (hchain : ∀ draft chain, view { draft with chain := chain } = view draft)
    (draft : Draft) (steps : List Step) :
    view (draft.addAll steps) = view draft ++ (Action.ofSteps steps).flatMap part := by
  rw [view_addAll view (fun done action => done ++ part action) hact hchain, List.flatMap_def,
    List.foldl_append_eq_append]

theorem columns_addAll (draft : Draft) (steps : List Step) :
    (draft.addAll steps).columns =
      draft.columns ++ (Action.ofSteps steps).flatMap Action.projections := by
  refine append_addAll columns Action.projections ?_ (fun _ _ => rfl) draft steps
  intro draft action
  cases action <;> simp [act, Action.projections]

theorem joins_addAll (draft : Draft) (steps : List Step) :
    (draft.addAll steps).joins =
      draft.joins ++ (Action.ofSteps steps).flatMap Action.joins := by
  refine append_addAll joins Action.joins ?_ (fun _ _ => rfl) draft steps
  intro draft action
  cases action <;> simp [act, Action.joins]

theorem order_addAll (draft : Draft) (steps : List Step) :
    (draft.addAll steps).order =
      draft.order ++ (Action.ofSteps steps).flatMap Action.order := by
  refine append_addAll order Action.order ?_ (fun _ _ => rfl) draft steps
  intro draft action
  cases action <;> simp [act, Action.order]

theorem window_addAll (draft : Draft) (steps : List Step) :
    (draft.addAll steps).window =
      ((Action.ofSteps steps).flatMap Action.windows).getLast?.or draft.window := by
  have hview := view_addAll window
    (fun window action => action.windows.getLast?.or window)
    (fun draft action => by cases action <;> rfl) (fun _ _ => rfl) draft steps
  rw [hview]
  generalize draft.window = window
  induction Action.ofSteps steps generalizing window with
  | nil => rfl
  | cons action actions ih =>
      rw [List.foldl_cons, ih, List.flatMap_cons, List.getLast?_append, Option.or_assoc]

theorem table_addAll (draft : Draft) (steps : List Step) :
    (draft.addAll steps).table = draft.table := by
  have hact : ∀ draft action, (act draft action).table = draft.table := by
    intro draft action
    cases action <;> rfl
  rw [view_addAll table (fun table _ => table) hact (fun _ _ => rfl),
    List.foldl_fixed]

theorem ofSteps_eq (table : String) (steps : List Step) :
    ofSteps table steps =
      { table := table
        columns := (Action.ofSteps steps).flatMap Action.projections
        joins := (Action.ofSteps steps).flatMap Action.joins
        chain := .ofLinks (Link.ofSteps steps)
        order := (Action.ofSteps steps).flatMap Action.order
        window := ((Action.ofSteps steps).flatMap Action.windows).getLast? } := by
  have htable := table_addAll (start table) steps
  have hcolumns := columns_addAll (start table) steps
  have hjoins := joins_addAll (start table) steps
  have hchain := chain_ofSteps table steps
  have horder := order_addAll (start table) steps
  have hwindow := window_addAll (start table) steps
  rw [ofSteps] at hchain ⊢
  cases hdraft : (start table).addAll steps with
  | mk =>
      rw [hdraft] at htable hcolumns hjoins hchain horder hwindow
      simp_all [start]

end Draft

end ListQuery
