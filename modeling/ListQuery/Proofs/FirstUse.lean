import ListQuery.Proofs.FirstMention
import ListQuery.Proofs.Tables

/-!
# Joins in the order of first use

The registry of an assembler outlasts the filter that it is used for.  However many filters are
applied one after the other, each relation through which their predicates reach another table is
joined once, for the first of these predicates.
-/

namespace ListQuery

/-! ## Filters one after the other -/

namespace Assembly

def ofConditions (model : Model) : JoinRegistry → List Condition → Assembly
  | registry, [] => ⟨[], [], registry⟩
  | registry, condition :: conditions =>
      let first := ofCondition model registry condition
      let rest := ofConditions model first.registry conditions
      ⟨first.steps ++ rest.steps, first.joins ++ rest.joins, rest.registry⟩

theorem joins_ofCondition (model : Model) (registry : JoinRegistry) (condition : Condition) :
    (Action.ofSteps (ofCondition model registry condition).steps).flatMap Action.joins =
      (ofCondition model registry condition).joins.map Join.toLeftJoin := by
  have htests : (condition.predicates.map Predicate.action).flatMap Action.joins = [] := by
    simp [List.flatMap_map, Predicate.action, Action.joins]
  have hjoins : Action.ofSteps ((ofCondition model registry condition).joins.map Join.step) =
      (ofCondition model registry condition).joins.map fun join =>
        .leftJoin join.toLeftJoin :=
    Action.ofSteps_map_action _ _
  have hsteps : (ofCondition model registry condition).steps =
      condition.filterStep :: (ofCondition model registry condition).joins.map Join.step := rfl
  rw [hsteps, Condition.actions_filterStep, List.flatMap_append, htests, hjoins,
    List.flatMap_map, List.map_eq_flatMap]
  rfl

theorem joins_ofConditions (model : Model) (registry : JoinRegistry)
    (conditions : List Condition) :
    (Action.ofSteps (ofConditions model registry conditions).steps).flatMap Action.joins =
      (ofConditions model registry conditions).joins.map Join.toLeftJoin := by
  induction conditions generalizing registry with
  | nil => rfl
  | cons condition conditions ih =>
      simp only [ofConditions, Action.ofSteps_append, List.flatMap_append, List.map_append,
        joins_ofCondition, ih]

end Assembly

/-! ## Predicates on other tables -/

/-- The predicates on other tables than that of the model, each with the relation that it was
reached through. -/
def Predicate.reaching (model : Model) (predicates : List Predicate) :
    List (Predicate × Relation) :=
  predicates.filterMap fun predicate =>
    if predicate.table = model.table then none else predicate.relation?.map (predicate, ·)

theorem Predicate.reaching_append (model : Model) (front back : List Predicate) :
    reaching model (front ++ back) = reaching model front ++ reaching model back :=
  List.filterMap_append

namespace Join

variable {model : Model}

theorem reaching_of_join?_eq_none {predicate : Predicate} (h : predicate.join? model = none) :
    Predicate.reaching model [predicate] = [] := by
  unfold Predicate.join? at h
  split at h
  · next hown => simp [Predicate.reaching, hown]
  · next hforeign => simpa [Predicate.reaching, hforeign] using h

theorem reaching_of_join?_eq_some {predicate : Predicate} {join : Join}
    (h : predicate.join? model = some join) :
    ∃ relation, Predicate.reaching model [predicate] = [(predicate, relation)] ∧
      join.relation = relation.name ∧ join.toLeftJoin = predicate.joinAlong model relation := by
  obtain ⟨hforeign, relation, hrelation, rfl⟩ := join?_eq_some_iff.mp h
  exact ⟨relation, by simp [Predicate.reaching, hforeign, hrelation], rfl, rfl⟩

/-! ## First uses -/

def first? (model : Model) (reached : List (Predicate × Relation)) (name : String) :
    Option LeftJoin :=
  (reached.find? (·.2.name = name)).map fun (predicate, relation) =>
    predicate.joinAlong model relation

/-- The relations are registered in the order of their first use and joined for it. -/
structure AreFirstUses (model : Model) (reached : List (Predicate × Relation))
    (joins : List Join) (registry : JoinRegistry) : Prop where
  joined : registry.joined = (reached.map (·.2.name)).eraseDups
  joins : joins.map (fun join => some join.toLeftJoin) =
    registry.joined.map (first? model reached)

variable {reached : List (Predicate × Relation)} {joins : List Join} {registry : JoinRegistry}

theorem AreFirstUses.mem_joined_iff (h : AreFirstUses model reached joins registry)
    {name : String} : name ∈ registry.joined ↔ ∃ used ∈ reached, used.2.name = name := by
  rw [h.joined, List.mem_eraseDups, List.mem_map]

theorem AreFirstUses.map_first? (h : AreFirstUses model reached joins registry)
    (later : List (Predicate × Relation)) :
    registry.joined.map (first? model (reached ++ later)) =
      registry.joined.map (first? model reached) := by
  rw [List.map_inj_left]
  intro name hname
  obtain ⟨used, hused, rfl⟩ := h.mem_joined_iff.mp hname
  have hfound : (reached.find? (·.2.name = used.2.name)).isSome := by
    rw [List.find?_isSome]
    exact ⟨used, hused, by simp⟩
  obtain ⟨found, hfound⟩ := Option.isSome_iff_exists.mp hfound
  simp [first?, List.find?_append, hfound]

theorem AreFirstUses.again (h : AreFirstUses model reached joins registry)
    {used : Predicate × Relation} (hjoined : used.2.name ∈ registry.joined) :
    AreFirstUses model (reached ++ [used]) joins registry := by
  have hmem : used.2.name ∈ reached.map (·.2.name) := by
    rwa [h.joined, List.mem_eraseDups] at hjoined
  constructor
  · rw [List.map_append, List.map_singleton, eraseDups_concat_of_mem hmem]
    exact h.joined
  · rw [h.map_first?]
    exact h.joins

theorem AreFirstUses.new (h : AreFirstUses model reached joins registry)
    {predicate : Predicate} {relation : Relation} {join : Join} {next : JoinRegistry}
    (hnew : relation.name ∉ registry.joined)
    (hjoin : join.toLeftJoin = predicate.joinAlong model relation)
    (hnext : next.joined = registry.joined ++ [relation.name]) :
    AreFirstUses model (reached ++ [(predicate, relation)]) (joins ++ [join]) next := by
  have hnames : relation.name ∉ reached.map (·.2.name) := by
    rwa [h.joined, List.mem_eraseDups] at hnew
  have hnone : reached.find? (·.2.name = relation.name) = none := by
    rw [List.find?_eq_none]
    intro used hused hsame
    exact hnames (List.mem_map.mpr ⟨used, hused, by simpa using hsame⟩)
  constructor
  · rw [hnext, h.joined, List.map_append, List.map_singleton,
      eraseDups_concat_of_not_mem hnames]
  · rw [hnext, List.map_append, List.map_append, h.map_first?, h.joins]
    simp [first?, List.find?_append, hnone, hjoin]

theorem AreFirstUses.missing {visited : List Predicate}
    (h : AreFirstUses model (Predicate.reaching model visited) joins registry)
    (predicates : List Predicate) :
    AreFirstUses model (Predicate.reaching model (visited ++ predicates))
      (joins ++ (missing model registry predicates).1)
      (missing model registry predicates).2 := by
  -- What was visited, and the joins made for it, grow with every predicate.
  induction predicates generalizing visited joins registry with
  | nil => simpa [Join.missing] using h
  | cons predicate predicates ih =>
      rw [List.append_cons]
      rcases missing_cons registry predicate predicates with
        ⟨hcontained, hsame⟩ | ⟨join, next, hjoin, hnew, hnext, hmissing⟩
      · rw [hsame]
        apply ih
        rw [Predicate.reaching_append]
        cases hneeded : predicate.join? model with
        | none =>
            rw [reaching_of_join?_eq_none hneeded, List.append_nil]
            exact h
        | some join =>
            obtain ⟨relation, hreaching, hname, -⟩ := reaching_of_join?_eq_some hneeded
            rw [hreaching]
            apply h.again
            rw [← hname]
            exact hcontained join hneeded
      · obtain ⟨relation, hreaching, hname, halong⟩ := reaching_of_join?_eq_some hjoin
        rw [hname] at hnew hnext
        have hstep := h.new hnew halong hnext
        rw [← hreaching, ← Predicate.reaching_append] at hstep
        rw [hmissing]
        simpa only [List.append_assoc, List.singleton_append] using ih hstep

theorem AreFirstUses.ofConditions {visited : List Predicate}
    (h : AreFirstUses model (Predicate.reaching model visited) joins registry)
    (conditions : List Condition) :
    AreFirstUses model
      (Predicate.reaching model (visited ++ conditions.flatMap Condition.predicates))
      (joins ++ (Assembly.ofConditions model registry conditions).joins)
      (Assembly.ofConditions model registry conditions).registry := by
  induction conditions generalizing visited joins registry with
  | nil => simpa [Assembly.ofConditions] using h
  | cons condition conditions ih =>
      have hfirst := ih (h.missing condition.predicates)
      simpa only [Assembly.ofConditions, Assembly.ofCondition, List.flatMap_cons,
        List.append_assoc] using hfirst

end Join

/-- Over all filters that an assembler applies, each relation is joined once, in the order of
first use, with the table and the keys of the first predicate that was reached through it. -/
theorem Assembly.joins_of_filters (model : Model) (conditions : List Condition) :
    let assembly := ofConditions model .empty conditions
    let reached := Predicate.reaching model (conditions.flatMap Condition.predicates)
    ((Action.ofSteps assembly.steps).flatMap Action.joins).map some =
        assembly.registry.joined.map (fun name =>
          (reached.find? (·.2.name = name)).map fun (predicate, relation) =>
            predicate.joinAlong model relation) ∧
      assembly.registry.joined = (reached.map (·.2.name)).eraseDups ∧
      assembly.registry.joined.Nodup ∧
      ∀ name, assembly.registry.contains name = true ↔ name ∈ assembly.registry.joined := by
  intro assembly reached
  have hempty : Join.AreFirstUses model (Predicate.reaching model []) [] .empty := ⟨rfl, rfl⟩
  have hall : Join.AreFirstUses model reached assembly.joins assembly.registry :=
    hempty.ofConditions conditions
  refine ⟨?_, hall.joined, ?_, fun name => JoinRegistry.contains_iff⟩
  · rw [joins_ofConditions, List.map_map]
    exact hall.joins
  · rw [hall.joined]
    exact nodup_eraseDups _

end ListQuery
