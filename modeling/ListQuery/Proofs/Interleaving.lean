import ListQuery.Proofs.Draft
import ListQuery.Sql.Writer

/-!
# Steps of different kinds

A part of a statement is made by the steps of one kind, in their order.  The steps of other
kinds may stand between them, and all but the tests may stand in any group: a group changes
nothing but the chain of the draft around it.
-/

namespace ListQuery

/-! ## Kinds of actions -/

inductive Action.Kind where
  | projection
  | test
  | join
  | order
  | page
  deriving DecidableEq, Repr

namespace Action

def kind : Action → Kind
  | .selectAll _ => .projection
  | .select _ => .projection
  | .test _ _ _ => .test
  | .leftJoin _ => .join
  | .orderBy _ => .order
  | .paginate _ _ => .page

def ofKind (kind : Kind) (steps : List Step) : List Action :=
  (ofSteps steps).filter (·.kind = kind)

def page? : Action → Option (Nat × Nat)
  | .paginate perPage page => some (perPage, page)
  | _ => none

theorem toList_page? (action : Action) :
    (action.page?.map fun page => Window.of page.1 page.2).toList = action.windows := by
  cases action <;> rfl

theorem projections_eq_nil {action : Action} (h : action.kind ≠ .projection) :
    action.projections = [] := by
  cases action <;> simp [kind, projections] at h ⊢

theorem joins_eq_nil {action : Action} (h : action.kind ≠ .join) : action.joins = [] := by
  cases action <;> simp [kind, joins] at h ⊢

theorem order_eq_nil {action : Action} (h : action.kind ≠ .order) : action.order = [] := by
  cases action <;> simp [kind, order] at h ⊢

theorem flatMap_filter {β : Type} {part : Action → List β} {kept : Action → Bool}
    (h : ∀ action, kept action = false → part action = []) (actions : List Action) :
    (actions.filter kept).flatMap part = actions.flatMap part := by
  induction actions with
  | nil => rfl
  | cons action actions ih =>
      cases hkept : kept action with
      | false => simp [hkept, h action hkept, ih]
      | true => simp [hkept, ih]

theorem flatMap_ofKind {β : Type} {part : Action → List β} {kind : Kind}
    (h : ∀ {action : Action}, action.kind ≠ kind → part action = []) (steps : List Step) :
    (ofKind kind steps).flatMap part = (ofSteps steps).flatMap part :=
  flatMap_filter (fun _ hother => h (of_decide_eq_false hother)) _

end Action

/-! ## Programs with some of their actions -/

namespace Step

section Keep

variable (kept : Action → Bool)

mutual

/-- A step with those of its actions that are kept; a group stays, whatever is left in it. -/
def keep : Step → List Step
  | .action made => if kept made then [.action made] else []
  | .group connective steps => [.group connective (keepAll steps)]

def keepAll : List Step → List Step
  | [] => []
  | step :: steps => step.keep ++ keepAll steps

end

mutual

theorem actions_keep : ∀ step : Step,
    Action.ofSteps (step.keep kept) = (Action.ofSteps [step]).filter kept
  | .action made => by
      cases hkept : kept made <;> simp [keep, hkept]
  | .group connective steps => by
      simp [keep, actions_keepAll steps]

theorem actions_keepAll : ∀ steps : List Step,
    Action.ofSteps (keepAll kept steps) = (Action.ofSteps steps).filter kept
  | [] => rfl
  | step :: steps => by
      rw [keepAll, Action.ofSteps_append, actions_keep step, actions_keepAll steps,
        ← List.filter_append, ← Action.ofSteps_append, List.singleton_append]

end

variable {kept}

mutual

theorem links_keep (htests : ∀ action : Action, action.kind = .test → kept action = true) :
    ∀ step : Step, Link.ofSteps (step.keep kept) = (Link.ofStep? step).toList
  | .action made => by
      cases hkept : kept made with
      | true => simp [keep, hkept, Link.ofSteps]
      | false =>
          -- An action that is not kept is no test, and no other action makes a link.
          cases made with
          | test connective column filter => cases hkept.symm.trans (htests _ rfl)
          | _ => simp [keep, hkept, Link.ofSteps, Link.ofStep?]
  | .group connective steps => by
      simp [keep, Link.ofSteps, Link.ofStep?, links_keepAll htests steps]

theorem links_keepAll (htests : ∀ action : Action, action.kind = .test → kept action = true) :
    ∀ steps : List Step, Link.ofSteps (keepAll kept steps) = Link.ofSteps steps
  | [] => rfl
  | step :: steps => by
      rw [keepAll, Link.ofSteps_append, links_keep htests step, links_keepAll htests steps,
        Link.ofSteps]

end

end Keep

def filters (steps : List Step) : List Step := keepAll (fun made => made.kind = .test) steps

def lastPage? (steps : List Step) : Option (Nat × Nat) :=
  ((Action.ofSteps steps).filterMap Action.page?).getLast?

/-- Two programs have the same steps of each kind; of the pages it is enough that the last
ones are the same. -/
structure Agree (first second : List Step) : Prop where
  projections : Action.ofKind .projection first = Action.ofKind .projection second
  filters : filters first = filters second
  joins : Action.ofKind .join first = Action.ofKind .join second
  order : Action.ofKind .order first = Action.ofKind .order second
  page : lastPage? first = lastPage? second

theorem links_filters (steps : List Step) : Link.ofSteps (filters steps) = Link.ofSteps steps :=
  links_keepAll (fun _ htest => decide_eq_true htest) steps

theorem getLast?_windows (steps : List Step) :
    ((Action.ofSteps steps).flatMap Action.windows).getLast? =
      (lastPage? steps).map fun page => Window.of page.1 page.2 := by
  rw [lastPage?, ← List.getLast?_map, List.map_filterMap, List.filterMap_eq_flatMap_toList]
  simp only [Action.toList_page?]

end Step

/-! ## Drafts -/

namespace Draft

theorem ofSteps_eq_parts (table : String) (steps : List Step) :
    ofSteps table steps =
      { table := table
        columns := (Action.ofKind .projection steps).flatMap Action.projections
        joins := (Action.ofKind .join steps).flatMap Action.joins
        chain := .ofLinks (Link.ofSteps (Step.filters steps))
        order := (Action.ofKind .order steps).flatMap Action.order
        window := (Step.lastPage? steps).map fun page => .of page.1 page.2 } := by
  rw [ofSteps_eq, Step.getLast?_windows, Step.links_filters,
    Action.flatMap_ofKind Action.projections_eq_nil, Action.flatMap_ofKind Action.joins_eq_nil,
    Action.flatMap_ofKind Action.order_eq_nil]

theorem ofSteps_eq_of_agree (table : String) {first second : List Step}
    (h : Step.Agree first second) : ofSteps table first = ofSteps table second := by
  rw [ofSteps_eq_parts, ofSteps_eq_parts, h.projections, h.filters, h.joins, h.order, h.page]

open Sql in
/-- Programs with the same steps of each kind make the same statements, however their kinds
are interleaved and whichever groups the steps that are no tests are in. -/
theorem statements_of_agree (table : String) {first second : List Step}
    (h : Step.Agree first second) :
    let draft := ofSteps table first
    let other := ofSteps table second
    draft.rows = other.rows ∧ draft.count = other.count ∧
      ∀ dialect : Dialect,
        draft.rows.command dialect = other.rows.command dialect ∧
          draft.rows.inlined dialect = other.rows.inlined dialect ∧
          draft.count.command dialect = other.count.command dialect ∧
          draft.count.inlined dialect = other.count.inlined dialect := by
  intro draft other
  have hdraft : draft = other := ofSteps_eq_of_agree table h
  rw [hdraft]
  exact ⟨rfl, rfl, fun _ => ⟨rfl, rfl, rfl, rfl⟩⟩

theorem statements_of_scattered :
    let adult : Action := .test .and "users.age" (.compare .greaterOrEqual (.int 18))
    let nearby : Action := .test .or "profiles.city" (.compare .equal (.text "Bern"))
    let join : Action := .leftJoin ⟨"profiles", "profiles.id", "users.profile_id"⟩
    let order : Action := .orderBy ⟨"users.id", .descending⟩
    let scattered : List Step :=
      [.group .and
          [.action adult, .action (.paginate 50 1), .action join,
            .group .or [.action order, .action nearby, .action (.paginate 20 3)]],
        .action (.select ["users.id"])]
    let sorted : List Step :=
      [.action (.select ["users.id"]), .action join,
        .group .and [.action adult, .group .or [.action nearby]], .action order,
        .action (.paginate 20 3)]
    Step.Agree scattered sorted ∧
      (ofSteps "users" scattered).rows = (ofSteps "users" sorted).rows ∧
      (ofSteps "users" scattered).count = (ofSteps "users" sorted).count := by
  intro adult nearby join order scattered sorted
  have hagree : Step.Agree scattered sorted := ⟨rfl, rfl, rfl, rfl, rfl⟩
  obtain ⟨hrows, hcount, -⟩ := statements_of_agree "users" hagree
  exact ⟨hagree, hrows, hcount⟩

end Draft

end ListQuery
