import ListQuery.Proofs.Assembly
import ListQuery.Proofs.Compile
import ListQuery.Proofs.Leaves

/-!
# Assembled calls read back

The calls that a query is assembled to stand in a fixed order, with one group for its filter.
Reading the calls in this group from left to right gives the condition back, empty groups
included.  A call tells a predicate by its link, its path and its filter, so its model and its
relation are lost, and its table and field are told apart only by the first dot of the path.
-/

namespace ListQuery

/-! ## Balanced calls -/

namespace Call

/-- Every group that is opened is closed, and no other. -/
inductive Balanced : List Call → Prop
  | nil : Balanced []
  | action (made : Action) {calls : List Call} (h : Balanced calls) :
      Balanced (.action made :: calls)
  | group (connective : Connective) {inner calls : List Call} (hinner : Balanced inner)
      (h : Balanced calls) : Balanced (.openGroup connective :: (inner ++ .closeGroup :: calls))

mutual

theorem Balanced.calls_append : ∀ (step : Step) {calls : List Call}, Balanced calls →
    Balanced (step.calls ++ calls)
  | .action made, _, h => .action made h
  | .group connective steps, calls, h => by
      have hinner := Balanced.ofSteps_append steps .nil
      rw [List.append_nil] at hinner
      simpa [Step.calls] using Balanced.group connective hinner h

theorem Balanced.ofSteps_append : ∀ (steps : List Step) {calls : List Call}, Balanced calls →
    Balanced (ofSteps steps ++ calls)
  | [], _, h => h
  | step :: steps, _, h => by
      rw [ofSteps, List.append_assoc]
      exact Balanced.calls_append step (Balanced.ofSteps_append steps h)

end

theorem balanced_ofSteps (steps : List Step) : Balanced (ofSteps steps) := by
  simpa using Balanced.ofSteps_append steps .nil

end Call

theorem Call.ofSteps_map_action {β : Type} (action : β → Action) (items : List β) :
    ofSteps (items.map fun item => .action (action item)) =
      items.map fun item => .action (action item) := by
  induction items with
  | nil => rfl
  | cons item items ih => simp [ofSteps, Step.calls, ih]

/-! ## Reading calls -/

def Condition.asGroup : Condition → Condition
  | .predicate leaf => .group [.predicate leaf]
  | .group members => .group members

namespace Predicate

def ofCall? (connective : Connective) (path : String) (filter : Filter) : Option Predicate :=
  (Text.cutAt? '.' path).map fun (table, field) =>
    ⟨some connective, "", table, field, filter, none⟩

/-- A predicate that says how it is linked, without its model and its relation. -/
def bare (predicate : Predicate) : Predicate :=
  { predicate with connective? := some predicate.connective, model := "", relation? := none }

def told (predicate : Predicate) : Predicate :=
  (ofCall? predicate.connective predicate.column predicate.filter).getD predicate.bare

theorem exists_cutAt?_column (predicate : Predicate) :
    ∃ table field, Text.cutAt? '.' predicate.column = some (table, field) := by
  have hdot : Text.cutAt? '.' predicate.column ≠ none := by
    rw [Ne, Text.cutAt?_eq_none_iff, not_not]
    simp [column]
  obtain ⟨⟨table, field⟩, hcut⟩ := Option.ne_none_iff_exists'.mp hdot
  exact ⟨table, field, hcut⟩

section

variable {predicate : Predicate} {table field : String}

theorem ofCall?_of_cutAt? (h : Text.cutAt? '.' predicate.column = some (table, field)) :
    ofCall? predicate.connective predicate.column predicate.filter =
      some { predicate.bare with table := table, field := field } := by
  rw [ofCall?, h]
  rfl

theorem told_of_cutAt? (h : Text.cutAt? '.' predicate.column = some (table, field)) :
    predicate.told = { predicate.bare with table := table, field := field } := by
  rw [told, ofCall?_of_cutAt? h, Option.getD_some]

end

theorem ofCall?_eq (predicate : Predicate) :
    ofCall? predicate.connective predicate.column predicate.filter = some predicate.told := by
  obtain ⟨table, field, hcut⟩ := predicate.exists_cutAt?_column
  rw [ofCall?_of_cutAt? hcut, told_of_cutAt? hcut]

theorem connective_told (predicate : Predicate) :
    predicate.told.connective = predicate.connective := by
  obtain ⟨table, field, hcut⟩ := predicate.exists_cutAt?_column
  rw [told_of_cutAt? hcut]
  rfl

theorem column_told (predicate : Predicate) : predicate.told.column = predicate.column := by
  obtain ⟨table, field, hcut⟩ := predicate.exists_cutAt?_column
  rw [told_of_cutAt? hcut, ← String.toList_inj, Text.toList_of_cutAt? hcut]
  simp [column]

theorem told_eq_bare_iff (predicate : Predicate) :
    predicate.told = predicate.bare ↔ '.' ∉ predicate.table.toList := by
  obtain ⟨table, field, hcut⟩ := predicate.exists_cutAt?_column
  rw [told_of_cutAt? hcut]
  constructor
  · intro h
    have htable : table = predicate.table := congrArg Predicate.table h
    rw [← htable]
    exact Text.not_mem_of_cutAt? hcut
  · intro hdot
    have hown : Text.cutAt? '.' predicate.column = some (predicate.table, predicate.field) := by
      rw [Text.cutAt?_eq_some_iff]
      exact ⟨hdot, by simp [column]⟩
    cases hcut.symm.trans hown
    rfl

end Predicate

/-- What is left open after some calls: the members of the innermost group and, from the inside
to the outside, the groups around it with their connectives and the members before them. -/
structure Unclosed where
  members : List Condition
  groups : List (Connective × List Condition)

namespace Unclosed

def read? (unclosed : Unclosed) : Call → Option Unclosed
  | .action (.test connective path filter) =>
      (Predicate.ofCall? connective path filter).map fun leaf =>
        { unclosed with members := unclosed.members ++ [.predicate leaf] }
  | .action _ => none
  | .openGroup connective => some ⟨[], (connective, unclosed.members) :: unclosed.groups⟩
  | .closeGroup =>
      match unclosed.groups with
      | [] => none
      | (connective, members) :: groups =>
          if connective = (Condition.group unclosed.members).connective then
            some ⟨members ++ [.group unclosed.members], groups⟩
          else none

theorem read?_step (unclosed : Unclosed) (leaf : Predicate) :
    leaf.step.calls.foldlM read? unclosed =
      some { unclosed with members := unclosed.members ++ [.predicate leaf.told] } := by
  simp [Predicate.step, Step.calls, read?, leaf.ofCall?_eq]

mutual

/-- The calls of a condition add what they tell to the members that were read before. -/
theorem foldlM_read?_step : ∀ (condition : Condition) (unclosed : Unclosed),
    condition.step.calls.foldlM read? unclosed =
      some { unclosed with members := unclosed.members ++ [condition.map Predicate.told] }
  | .predicate leaf, unclosed => unclosed.read?_step leaf
  | .group members, unclosed => by
      have hinner := foldlM_read?_stepsOf members
        ⟨[], ((Condition.group members).connective, unclosed.members) :: unclosed.groups⟩
      have hconnective := Condition.connective_map Predicate.connective_told (.group members)
      rw [Condition.map] at hconnective ⊢
      simp [Condition.step, Step.calls, read?, hinner, hconnective]

theorem foldlM_read?_stepsOf : ∀ (conditions : List Condition) (unclosed : Unclosed),
    (Call.ofSteps (Condition.stepsOf conditions)).foldlM read? unclosed =
      some { unclosed with
        members := unclosed.members ++ Condition.mapAmong Predicate.told conditions }
  | [], unclosed => by simp [Condition.stepsOf, Call.ofSteps, Condition.mapAmong]
  | condition :: conditions, unclosed => by
      rw [Condition.stepsOf, Call.ofSteps, List.foldlM_append,
        foldlM_read?_step condition unclosed]
      simp [foldlM_read?_stepsOf conditions, Condition.mapAmong]

end

end Unclosed

def Condition.ofCalls? (calls : List Call) : Option Condition := do
  let unclosed ← calls.foldlM Unclosed.read? ⟨[], []⟩
  if unclosed.groups.isEmpty then some (.group unclosed.members) else none

theorem Condition.ofCalls?_filterSteps (condition : Condition) :
    ofCalls? (Call.ofSteps condition.filterSteps) =
      some (condition.asGroup.map Predicate.told) := by
  have hsteps : ∃ members, condition.asGroup = .group members ∧
      condition.filterSteps = stepsOf members := by
    cases condition with
    | predicate leaf => exact ⟨[.predicate leaf], rfl, rfl⟩
    | group members => exact ⟨members, rfl, rfl⟩
  obtain ⟨members, hgroup, hfilter⟩ := hsteps
  rw [hgroup, hfilter, ofCalls?, Unclosed.foldlM_read?_stepsOf]
  simp [map]

theorem Condition.told_eq_bare_iff (condition : Condition) :
    condition.asGroup.map Predicate.told = condition.asGroup.map Predicate.bare ↔
      ∀ leaf ∈ condition.predicates, '.' ∉ leaf.table.toList := by
  have hpredicates : condition.asGroup.predicates = condition.predicates := by
    cases condition <;> rfl
  simp only [map_eq_map_iff, hpredicates, Predicate.told_eq_bare_iff]

/-! ## Assembled queries -/

namespace Assembly

theorem calls_ofQuery (model : Model) (joined : JoinRegistry) (query : Query)
    (scope? : Option ParentScope) (paginate : Bool) :
    Call.ofSteps (ofQuery model joined query scope? paginate).steps =
      .action (projectionAction model query) ::
        scope?.toList.map (fun scope => .action (scopeAction model scope)) ++
        .openGroup .and :: Call.ofSteps query.condition.filterSteps ++ .closeGroup ::
        (neededJoins model joined query).map (fun join => .action (.leftJoin join.toLeftJoin)) ++
        query.sort.map (fun field => .action (orderAction model field)) ++
        (if paginate then [.action (.paginate query.perPage query.page)] else []) := by
  have hpaginate : Call.ofSteps
      (if paginate then [.action (.paginate query.perPage query.page)] else []) =
      if paginate then [.action (.paginate query.perPage query.page)] else [] := by
    cases paginate <;> rfl
  rw [steps_ofQuery]
  simp only [List.cons_append, Call.ofSteps, Step.calls, Call.ofSteps_append,
    Call.ofSteps_map_action, Condition.filterStep_eq, hpaginate, List.append_assoc,
    List.nil_append]

/-- The calls of an assembled query come in a fixed order.  Those of its filter are balanced and
give back the condition as a group of bare predicates, their tables and fields as the first dots
of their paths tell them: as they were just where no table has a dot. -/
theorem calls_read_back (model : Model) (query : Query) (scope? : Option ParentScope)
    (paginate : Bool) :
    let assembled := ofQuery model .empty query scope? paginate
    ∃ inner : List Call,
      Call.ofSteps assembled.steps =
          .action (projectionAction model query) ::
            scope?.toList.map (fun scope => .action (scopeAction model scope)) ++
            .openGroup .and :: inner ++ .closeGroup ::
            assembled.joins.map (fun join => .action (.leftJoin join.toLeftJoin)) ++
            query.sort.map (fun field => .action (orderAction model field)) ++
            (if paginate then [.action (.paginate query.perPage query.page)] else []) ∧
        Call.Balanced inner ∧
        Condition.ofCalls? inner = some (query.condition.asGroup.map Predicate.told) ∧
        (∀ leaf : Predicate, leaf.told.column = leaf.column) ∧
        (Condition.ofCalls? inner = some (query.condition.asGroup.map Predicate.bare) ↔
          ∀ leaf ∈ query.condition.predicates, '.' ∉ leaf.table.toList) := by
  intro assembled
  have hread := query.condition.ofCalls?_filterSteps
  refine ⟨_, calls_ofQuery .., Call.balanced_ofSteps _, hread, Predicate.column_told, ?_⟩
  rw [hread, Option.some.injEq]
  exact query.condition.told_eq_bare_iff

end Assembly

def Sample.filteredBy (leaf : Predicate) : Query :=
  { page := 1
    perPage := 10
    fields := []
    sort := []
    condition := .predicate leaf
    loads := []
    relationColumns := [] }

/-- A table with a dot cannot be told from a field with a dot: the predicates differ in table
and field, their calls do not. -/
theorem Assembly.not_read_back_of_dot :
    let first := Sample.filteredBy ⟨none, "User", "public", "users.id", .null .isNull, none⟩
    let second := Sample.filteredBy ⟨none, "User", "public.users", "id", .null .isNull, none⟩
    let calls (query : Query) := Call.ofSteps (ofQuery Sample.user .empty query none false).steps
    calls first = calls second ∧
      ¬ ∃ decode : List Call → Option Condition,
        decode (calls first) = some (first.condition.asGroup.map Predicate.bare) ∧
          decode (calls second) = some (second.condition.asGroup.map Predicate.bare) := by
  intro first second calls
  have hcalls : calls first = calls second := by decide +kernel
  refine ⟨hcalls, ?_⟩
  rintro ⟨decode, hfirst, hsecond⟩
  rw [hcalls, hsecond, Option.some.injEq] at hfirst
  have htables := congrArg (fun condition => condition.predicates.map Predicate.table) hfirst
  revert htables
  decide

end ListQuery
