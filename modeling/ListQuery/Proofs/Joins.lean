import Mathlib.Data.List.Nodup
import ListQuery.Proofs.Declared

/-!
# Joined tables

Joins are kept apart by the names of their relations.  A relation is joined once, and the
table of the model itself is never joined, but two relations that lead to one table make two
joins of this table.
-/

namespace ListQuery

/-! ## Joins that are missing -/

namespace Join

variable {model : Model}

theorem missing_cons (registry : JoinRegistry) (predicate : Predicate)
    (predicates : List Predicate) :
    ((∀ join, predicate.join? model = some join → join.relation ∈ registry.joined) ∧
      missing model registry (predicate :: predicates) = missing model registry predicates) ∨
    ∃ join next, predicate.join? model = some join ∧ join.relation ∉ registry.joined ∧
      next.joined = registry.joined ++ [join.relation] ∧
      missing model registry (predicate :: predicates) =
        (join :: (missing model next predicates).1, (missing model next predicates).2) := by
  rw [missing]
  cases hneeded : predicate.join? model with
  | none => exact .inl ⟨by simp, rfl⟩
  | some join =>
      cases hnext : registry.register? join.relation with
      | none =>
          have hjoined : join.relation ∈ registry.joined :=
            JoinRegistry.register?_eq_none_iff.mp hnext
          refine .inl ⟨?_, by simp only [hnext]⟩
          rintro _ ⟨⟩
          exact hjoined
      | some next =>
          obtain ⟨hnew, hjoined⟩ := JoinRegistry.register?_eq_some hnext
          exact .inr ⟨join, next, rfl, hnew, hjoined, by simp only [hnext]⟩

theorem joined_missing (registry : JoinRegistry) (predicates : List Predicate) :
    (missing model registry predicates).2.joined =
      registry.joined ++ (missing model registry predicates).1.map (·.relation) := by
  induction predicates generalizing registry with
  | nil => simp [missing]
  | cons predicate predicates ih =>
      rcases missing_cons registry predicate predicates with
        ⟨-, hsame⟩ | ⟨join, next, -, -, hjoined, hmissing⟩
      · rw [hsame]
        exact ih registry
      · rw [hmissing]
        simp [ih next, hjoined]

theorem nodup_joined_missing {registry : JoinRegistry} (h : registry.joined.Nodup)
    (predicates : List Predicate) : (missing model registry predicates).2.joined.Nodup := by
  induction predicates generalizing registry with
  | nil => exact h
  | cons predicate predicates ih =>
      rcases missing_cons registry predicate predicates with
        ⟨-, hsame⟩ | ⟨join, next, -, hnew, hjoined, hmissing⟩
      · rw [hsame]
        exact ih h
      · have hnext : next.joined.Nodup := by
          rw [hjoined, ← List.concat_eq_append]
          exact h.concat hnew
        rw [hmissing]
        exact ih hnext

theorem relation_mem_missing {registry : JoinRegistry} {predicates : List Predicate}
    {predicate : Predicate} {join : Join} (hmem : predicate ∈ predicates)
    (hjoin : predicate.join? model = some join) :
    join.relation ∈ (missing model registry predicates).2.joined := by
  induction predicates generalizing registry with
  | nil => cases hmem
  | cons first predicates ih =>
      rcases missing_cons registry first predicates with
        ⟨hcontained, hsame⟩ | ⟨other, next, hother, -, hjoined, hmissing⟩
      · rw [hsame]
        rcases List.mem_cons.mp hmem with rfl | hmem
        · rw [joined_missing]
          exact List.mem_append_left _ (hcontained join hjoin)
        · exact ih hmem
      · rw [hmissing]
        rcases List.mem_cons.mp hmem with rfl | hmem
        · cases hother.symm.trans hjoin
          rw [joined_missing, hjoined]
          simp
        · exact ih hmem

/-! ## Joins of accepted predicates -/

theorem join?_eq_some_iff {predicate : Predicate} {join : Join} :
    predicate.join? model = some join ↔
      predicate.table ≠ model.table ∧ ∃ relation, predicate.relation? = some relation ∧
        join = ⟨⟨predicate.table, predicate.table ++ "." ++ relation.primaryKey,
          model.qualify relation.foreignKey⟩, relation.name⟩ := by
  unfold Predicate.join?
  by_cases htable : predicate.table = model.table
  · simp [htable]
  · rw [if_neg htable, Option.map_eq_some_iff]
    constructor
    · rintro ⟨relation, hrelation, rfl⟩
      exact ⟨htable, relation, hrelation, rfl⟩
    · rintro ⟨-, relation, hrelation, rfl⟩
      exact ⟨relation, hrelation, rfl⟩

variable {catalog : Catalog}

theorem relation_of_isOfPair {predicate : Predicate} {relation : Relation}
    (hpair : predicate.IsOfPair catalog model) (h : predicate.relation? = some relation) :
    model.toOne? relation.name = some relation ∧
      ∃ related, catalog.model? relation.model = some related ∧
        predicate.table = related.table := by
  obtain ⟨key, value, hpair⟩ := hpair
  obtain ⟨path, filter, -, hlocate, -⟩ := Predicate.ofPair_eq_ok hpair
  rcases Predicate.locate_eq_ok hlocate with
    ⟨-, rfl⟩ | ⟨name, _, found, related, -, hfound, hrelated, rfl⟩
  · cases h
  · cases h
    have hname : relation.name = name := by
      have hcondition := List.find?_some hfound
      simp only [Bool.and_eq_true, decide_eq_true_eq] at hcondition
      exact hcondition.1
    rw [hname]
    exact ⟨hfound, related, hrelated, rfl⟩

theorem eq_of_relation_eq {first second : Predicate} {join other : Join}
    (hfirst : first.IsOfPair catalog model) (hsecond : second.IsOfPair catalog model)
    (hjoin : first.join? model = some join) (hother : second.join? model = some other)
    (hrelation : join.relation = other.relation) : join = other := by
  obtain ⟨-, relation, htaken, rfl⟩ := join?_eq_some_iff.mp hjoin
  obtain ⟨-, relation', htaken', rfl⟩ := join?_eq_some_iff.mp hother
  obtain ⟨hfound, related, hrelated, htable⟩ := relation_of_isOfPair hfirst htaken
  obtain ⟨hfound', related', hrelated', htable'⟩ := relation_of_isOfPair hsecond htaken'
  have hname : relation.name = relation'.name := hrelation
  rw [hname] at hfound
  cases hfound.symm.trans hfound'
  cases hrelated.symm.trans hrelated'
  rw [htable, htable']

end Join

/-! ## Joins of assembled queries -/

namespace Assembly

variable {catalog : Catalog} {model : Model} {query : Query}

theorem nodup_relations (model : Model) (query : Query) :
    ((neededJoins model .empty query).map (·.relation)).Nodup := by
  have hnodup : (Join.missing model .empty query.condition.predicates).2.joined.Nodup :=
    Join.nodup_joined_missing List.nodup_nil query.condition.predicates
  rw [Join.joined_missing] at hnodup
  exact hnodup

theorem mem_neededJoins_iff
    (hpairs : ∀ predicate ∈ query.condition.predicates, predicate.IsOfPair catalog model)
    {join : Join} :
    join ∈ neededJoins model .empty query ↔
      ∃ predicate ∈ query.condition.predicates, predicate.join? model = some join := by
  constructor
  · exact Join.exists_of_mem_missing
  · rintro ⟨predicate, hmem, hjoin⟩
    have hrelation : join.relation ∈
        (Join.missing model .empty query.condition.predicates).2.joined :=
      Join.relation_mem_missing hmem hjoin
    rw [Join.joined_missing] at hrelation
    obtain ⟨other, hother, hname⟩ := List.mem_map.mp hrelation
    obtain ⟨second, hsecond, hneeded⟩ := Join.exists_of_mem_missing hother
    have hsame : join = other := Join.eq_of_relation_eq (hpairs predicate hmem)
      (hpairs second hsecond) hjoin hneeded hname.symm
    rw [hsame]
    exact hother

theorem table_ne_of_mem_neededJoins {joined : JoinRegistry} {join : Join}
    (h : join ∈ neededJoins model joined query) : join.table ≠ model.table := by
  obtain ⟨predicate, -, hneeded⟩ := Join.exists_of_mem_missing h
  obtain ⟨hforeign, relation, -, rfl⟩ := Join.join?_eq_some_iff.mp hneeded
  exact hforeign

/-- The predicates that reach a field of another table do so through one relation for each
table. -/
def ReachesTablesOnce (model : Model) (query : Query) : Prop :=
  ∀ first ∈ query.condition.predicates, ∀ second ∈ query.condition.predicates,
    ∀ relation other, first.relation? = some relation → second.relation? = some other →
      first.table = second.table → first.table ≠ model.table → relation.name = other.name

theorem reachesTablesOnce_of_nodup
    (hpairs : ∀ predicate ∈ query.condition.predicates, predicate.IsOfPair catalog model)
    (hnodup : ((neededJoins model .empty query).map (·.table)).Nodup) :
    ReachesTablesOnce model query := by
  intro first hfirst second hsecond relation other hrelation hother htable hforeign
  have hforeign' : second.table ≠ model.table := htable ▸ hforeign
  have hjoin := (mem_neededJoins_iff hpairs).mpr
    ⟨first, hfirst, Join.join?_eq_some_iff.mpr ⟨hforeign, relation, hrelation, rfl⟩⟩
  have hjoin' := (mem_neededJoins_iff hpairs).mpr
    ⟨second, hsecond, Join.join?_eq_some_iff.mpr ⟨hforeign', other, hother, rfl⟩⟩
  have hsame := List.inj_on_of_nodup_map hnodup hjoin hjoin' htable
  exact congrArg Join.relation hsame

theorem nodup_of_reachesTablesOnce
    (hpairs : ∀ predicate ∈ query.condition.predicates, predicate.IsOfPair catalog model)
    (honce : ReachesTablesOnce model query) :
    ((neededJoins model .empty query).map (·.table)).Nodup := by
  refine List.Nodup.map_on ?_ (nodup_relations model query).of_map
  intro join hjoin other hother htable
  obtain ⟨first, hfirst, hneeded⟩ := (mem_neededJoins_iff hpairs).mp hjoin
  obtain ⟨second, hsecond, hneeded'⟩ := (mem_neededJoins_iff hpairs).mp hother
  -- Joins of one table have one relation, and a relation has one join.
  apply Join.eq_of_relation_eq (hpairs first hfirst) (hpairs second hsecond) hneeded hneeded'
  obtain ⟨hforeign, relation, hrelation, rfl⟩ := Join.join?_eq_some_iff.mp hneeded
  obtain ⟨-, relation', hrelation', rfl⟩ := Join.join?_eq_some_iff.mp hneeded'
  exact honce first hfirst second hsecond relation relation' hrelation hrelation' htable hforeign

end Assembly

/-- A relation is joined once and the table of the model never, but two relations to one
table join it twice. -/
theorem Request.nodup_tables_iff {catalog : Catalog} {request : Request} {prepared : Prepared}
    (h : request.prepare catalog = .ok prepared) :
    let tables := prepared.draft.joins.map (·.table)
    prepared.draft.joins = prepared.assembly.joins.map Join.toLeftJoin ∧
      (prepared.assembly.joins.map (·.relation)).Nodup ∧
      prepared.draft.table ∉ tables ∧
      ((prepared.draft.table :: tables).Nodup ↔
        Assembly.ReachesTablesOnce prepared.model prepared.query) := by
  intro tables
  obtain ⟨-, hparse, hprepared⟩ := prepare_eq_ok_iff.mp h
  have hpairs := Query.isOfPair_of_parse hparse
  have hneeded : prepared.assembly.joins =
      Assembly.neededJoins prepared.model .empty prepared.query := by
    rw [hprepared]
    rfl
  have htables : tables =
      (Assembly.neededJoins prepared.model .empty prepared.query).map (·.table) := by
    simp only [tables, joins_of_prepare h, List.map_map]
    rfl
  have hown : prepared.draft.table ∉ tables := by
    rw [htables, table_of_prepare h]
    intro hmem
    obtain ⟨join, hjoin, htable⟩ := List.mem_map.mp hmem
    exact Assembly.table_ne_of_mem_neededJoins hjoin htable
  refine ⟨?_, ?_, hown, ?_⟩
  · rw [hneeded]
    exact joins_of_prepare h
  · rw [hneeded]
    exact Assembly.nodup_relations prepared.model prepared.query
  · rw [List.nodup_cons, and_iff_right hown, htables]
    exact ⟨Assembly.reachesTablesOnce_of_nodup hpairs,
      Assembly.nodup_of_reachesTablesOnce hpairs⟩

theorem Request.nodup_tables_of_rawListing :
    let request : Request := ⟨"User", Sample.rawListing, none, true⟩
    let prepared := request.assemble Sample.user Sample.listing
    request.prepare Sample.registry.catalog = .ok prepared ∧
      (prepared.draft.table :: prepared.draft.joins.map (·.table)).Nodup := by
  intro request prepared
  have hprepare : request.prepare Sample.registry.catalog = .ok prepared :=
    prepare_eq_ok_iff.mpr ⟨rfl, Sample.parse_rawListing, rfl⟩
  have honce : Assembly.ReachesTablesOnce prepared.model prepared.query := by
    have hprofile : ∀ predicate ∈ Sample.listing.condition.predicates, ∀ relation,
        predicate.relation? = some relation → relation = Sample.profileOfUser := by
      have hcases : ∀ predicate ∈ Sample.listing.condition.predicates,
          predicate.relation? = some Sample.profileOfUser ∨ predicate.relation? = none := by
        decide
      intro predicate hmem relation hrelation
      rcases hcases predicate hmem with hfound | hnone
      · exact Option.some.inj (hrelation.symm.trans hfound)
      · cases hrelation.symm.trans hnone
    intro first hfirst second hsecond relation other hrelation hother _ _
    rw [hprofile first hfirst relation hrelation, hprofile second hsecond other hother]
  exact ⟨hprepare, (nodup_tables_iff hprepare).2.2.2.mpr honce⟩

namespace Sample

def author : Relation := ⟨"author", .one, "User", "id", "author_id"⟩

def editor : Relation := ⟨"editor", .one, "User", "id", "editor_id"⟩

def comment : Model :=
  ⟨"Comment", "comments", ["id", "author_id", "editor_id"], [author, editor], [], none⟩

def discussion : Registry := .ofList [user, comment]

end Sample

theorem Request.joins_users_twice :
    ∃ prepared,
      (Request.filteredBy "Comment" none
          "\x7b\"author.age\":36,\"editor.age\":85\x7d").prepare
          Sample.discussion.catalog = .ok prepared ∧
        prepared.draft.table = "comments" ∧
        prepared.draft.joins =
          [⟨"users", "users.id", "comments.author_id"⟩,
            ⟨"users", "users.id", "comments.editor_id"⟩] := by
  let payload := "\x7b\"author.age\":36,\"editor.age\":85\x7d"
  let condition : Condition := .group
    [.predicate ⟨none, "User", "users", "age", .compare .equal (.int 36), some Sample.author⟩,
      .predicate ⟨none, "User", "users", "age", .compare .equal (.int 85), some Sample.editor⟩]
  have hstrip : Condition.stripPayload payload =
      "\x7b\"author.age\":36,\"editor.age\":85\x7d" := by
    decide +kernel
  have hdocument : Condition.document? (some payload) = some (.object
      [("author.age", .number (.integer 36)), ("editor.age", .number (.integer 85))]) := by
    rw [Condition.document?, Option.getD_some, hstrip]
    rfl
  have hcompile : Condition.compile Sample.discussion.catalog Sample.comment (some payload) =
      ⟨.ok condition, ["users.age", "users.age"]⟩ := by
    rw [Condition.compile_eq, hdocument]
    rfl
  have hfields : parseFields none = .ok [] := by rfl
  have hexist : ∀ column ∈ ["users.age", "users.age"],
      columnExists Sample.discussion.catalog Sample.comment column = true := by
    decide +kernel
  have hmodel : Sample.discussion.catalog.model? "Comment" = some Sample.comment := by rfl
  exact ⟨_, prepare_filteredBy hmodel hfields hcompile hexist, rfl, rfl⟩

end ListQuery
