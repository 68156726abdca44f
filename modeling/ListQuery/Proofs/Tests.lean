import ListQuery.Event
import ListQuery.Proofs.Binding
import ListQuery.Proofs.Identifier

/-!
# Tests of compiled filters

The condition of a statement has one test for each predicate of a filter that was compiled,
in the order of the predicates.  All ranges among them have two bounds, so none is dropped
and there is nothing to warn of.
-/

namespace ListQuery

def Statement.tests (statement : Statement) : List (String × Filter) :=
  (statement.selection.condition.elim [] Clause.leaves).map fun leaf => (leaf.1, leaf.2.filter)

namespace Event

mutual

theorem ofStep_eq_flatMap : ∀ step : Step,
    ofStep step = (Action.ofSteps [step]).flatMap ofAction
  | .action action => by simp [ofStep]
  | .group connective steps => by
      rw [ofStep, ofSteps_eq_flatMap steps, Action.ofSteps_group, Action.ofSteps_nil,
        List.append_nil]

theorem ofSteps_eq_flatMap : ∀ steps : List Step,
    ofSteps steps = (Action.ofSteps steps).flatMap ofAction
  | [] => rfl
  | step :: steps => by
      rw [ofSteps, ofStep_eq_flatMap step, ofSteps_eq_flatMap steps, ← List.flatMap_append,
        ← Action.ofSteps_append, List.singleton_append]

end

end Event

/-! ## Tests of actions -/

def Action.test? (action : Action) : Option (String × Filter) :=
  action.leaf?.map fun leaf => (leaf.1, leaf.2.filter)

theorem Predicate.test?_action {predicate : Predicate} (h : predicate.filter.IsWellShaped) :
    predicate.action.test? = some (predicate.column, predicate.filter) := by
  obtain ⟨check, hcheck, hfilter⟩ := Filter.exists_test_of_isWellShaped h
  simp [Action.test?, Action.leaf?, action, hcheck, hfilter]

theorem Predicate.ofAction_action {predicate : Predicate} (h : predicate.filter.IsWellShaped) :
    Event.ofAction predicate.action = [] := by
  obtain ⟨check, hcheck, -⟩ := Filter.exists_test_of_isWellShaped h
  unfold action
  cases hfilter : predicate.filter with
  | null test => rfl
  | compare comparison value => rfl
  | set test values =>
      rw [hfilter] at hcheck
      exact if_pos (Option.isSome_iff_exists.mpr ⟨check, hcheck⟩)

namespace Assembly

variable (model : Model) (joined : JoinRegistry) {query : Query} (scope? : Option ParentScope)
  (paginate : Bool)

theorem tests_ofQuery (table : String)
    (h : ∀ predicate ∈ query.condition.predicates, predicate.filter.IsWellShaped) :
    (Draft.ofSteps table (ofQuery model joined query scope? paginate).steps).rows.tests =
      scope?.toList.map (fun scope =>
          (model.qualify scope.foreignKey, .compare .equal scope.parentId)) ++
        query.condition.predicates.map fun predicate => (predicate.column, predicate.filter) := by
  have htests : (Draft.ofSteps table (ofQuery model joined query scope? paginate).steps).rows.tests
      = (Action.ofSteps (ofQuery model joined query scope? paginate).steps).flatMap
          fun action => action.test?.toList := by
    rw [rows_ofQuery, ← List.filterMap_eq_flatMap_toList]
    have hleaves := leaves_links model joined query scope? paginate
    exact (congrArg (List.map _) hleaves).trans List.map_filterMap
  have hnone : ∀ action : Action, action.isTest = false → action.test?.toList = [] := by
    intro action haction
    cases action with
    | test connective column filter => cases haction
    | _ => rfl
  have hscope (scope : ParentScope) : (scopeAction model scope).test? =
      some (model.qualify scope.foreignKey, .compare .equal scope.parentId) := rfl
  have hpredicates : (query.condition.predicates.flatMap fun predicate =>
      predicate.action.test?.toList) =
      query.condition.predicates.map fun predicate => (predicate.column, predicate.filter) := by
    rw [List.map_eq_flatMap]
    refine List.flatMap_congr ?_
    intro predicate hmem
    rw [Predicate.test?_action (h predicate hmem)]
    rfl
  rw [htests, flatMap_tests_ofQuery model joined query scope? paginate hnone, hpredicates]
  simp only [hscope, Option.toList_some, List.map_eq_flatMap]

theorem ofSteps_ofQuery
    (h : ∀ predicate ∈ query.condition.predicates, predicate.filter.IsWellShaped) :
    Event.ofSteps (ofQuery model joined query scope? paginate).steps = [] := by
  have hnone : ∀ action : Action, action.isTest = false → Event.ofAction action = [] := by
    intro action haction
    cases action with
    | test connective column filter => cases haction
    | _ => rfl
  have hscope (scope : ParentScope) : Event.ofAction (scopeAction model scope) = [] := rfl
  have hpredicates : (query.condition.predicates.flatMap fun predicate =>
      Event.ofAction predicate.action) = [] := by
    rw [List.flatMap_eq_nil_iff]
    intro predicate hmem
    exact Predicate.ofAction_action (h predicate hmem)
  rw [Event.ofSteps_eq_flatMap, flatMap_tests_ofQuery model joined query scope? paginate hnone,
    hpredicates]
  simp only [hscope, flatMap_const_nil, List.append_nil]

/-- No predicate of a compiled filter is lost: each is well shaped and has its test in the
condition of the statement, after that of the parent and in the order of the predicates. -/
theorem tests_of_compile {catalog : Catalog} {payload? : Option String}
    (h : (Condition.compile catalog model payload?).result = .ok query.condition)
    (table : String) :
    let assembled := ofQuery model joined query scope? paginate
    (∀ predicate ∈ query.condition.predicates, predicate.filter.IsWellShaped) ∧
      (Draft.ofSteps table assembled.steps).rows.tests =
        scope?.toList.map (fun scope =>
            (model.qualify scope.foreignKey, .compare .equal scope.parentId)) ++
          query.condition.predicates.map (fun predicate =>
            (predicate.column, predicate.filter)) ∧
      Event.ofSteps assembled.steps = [] := by
  intro assembled
  have hshaped : ∀ predicate ∈ query.condition.predicates, predicate.filter.IsWellShaped := by
    intro predicate hmem
    obtain ⟨key, value, hpair⟩ := Condition.isOfPair_of_compile h predicate hmem
    exact Predicate.isWellShaped_of_ofPair hpair
  exact ⟨hshaped, tests_ofQuery model joined scope? paginate table hshaped,
    ofSteps_ofQuery model joined scope? paginate hshaped⟩

end Assembly

def Sample.ranged : Query :=
  { Sample.listing with
    condition := .group
      [.group
          [.predicate ⟨none, "User", "users", "age", .set .between [.int 18, .int 30], none⟩],
        .group
          [.predicate ⟨some .or, "Profile", "profiles", "city", .compare .like (.text "B%"),
            some profileOfUser⟩]] }

theorem Assembly.tests_of_ranged :
    let payload := "[\x7b\"age.$between\":\"18:30\"\x7d, \x7b\"$or.profile.city.$like\":\"B*\"\x7d]"
    let assembled := ofQuery Sample.user .empty Sample.ranged (some ⟨"profile_id", .int 5⟩) true
    (Condition.compile Sample.registry.catalog Sample.user (some payload)).result =
        .ok Sample.ranged.condition ∧
      (Draft.ofSteps "users" assembled.steps).rows.tests =
        [("users.profile_id", .compare .equal (.int 5)),
          ("users.age", .set .between [.int 18, .int 30]),
          ("profiles.city", .compare .like (.text "B%"))] ∧
      Event.ofSteps assembled.steps = [] := by
  intro payload assembled
  have hstrip : Condition.stripPayload payload =
      "[\x7b\"age.$between\":\"18:30\"\x7d,\x7b\"$or.profile.city.$like\":\"B*\"\x7d]" := by
    decide +kernel
  have hdocument : Condition.document? (some payload) = some (.array
      [.object [("age.$between", .text "18:30")],
        .object [("$or.profile.city.$like", .text "B*")]]) := by
    rw [Condition.document?, Option.getD_some, hstrip]
    rfl
  have hcompile : (Condition.compile Sample.registry.catalog Sample.user (some payload)).result =
      .ok Sample.ranged.condition := by
    have hage : Predicate.ofPair Sample.registry.catalog Sample.user "age.$between"
        (.text "18:30") =
        .ok ⟨none, "User", "users", "age", .set .between [.int 18, .int 30], none⟩ := by
      decide +kernel
    have hcity : Predicate.ofPair Sample.registry.catalog Sample.user "$or.profile.city.$like"
        (.text "B*") =
        .ok ⟨some .or, "Profile", "profiles", "city", .compare .like (.text "B%"),
          some Sample.profileOfUser⟩ := by
      decide +kernel
    rw [Condition.compile_eq, hdocument]
    simp only [Condition.compileValue, Condition.compileItems, Condition.compilePairs,
      Predicate.compile_of_ofPair hage, Predicate.compile_of_ofPair hcity]
    rfl
  exact ⟨hcompile, (tests_of_compile Sample.user .empty (some ⟨"profile_id", .int 5⟩) true hcompile
    "users").2⟩

end ListQuery
