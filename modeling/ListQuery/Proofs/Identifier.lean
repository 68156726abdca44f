import ListQuery.Proofs.Assembly
import ListQuery.Proofs.Parse

/-!
# Identifiers of assembled queries

The names that an accepted query brings into a statement are names of the catalog.  They
come in by five ways: fields, sort fields, predicates on the model itself, predicates on a
related model, and the columns that loaded rows are matched by.
-/

namespace ListQuery

/-! ## Names of the catalog -/

namespace Registry

/-- A path that leads to a column, in the table that it names or in that of the model. -/
def Declares (registry : Registry) (model : Model) (path : String) : Prop :=
  (∃ table name owner, path = table ++ "." ++ name ∧
    registry.catalog.modelOfTable? table = some owner ∧ name ∈ owner.columns) ∨
  ∃ name ∈ model.columns, path = model.qualify name

/-- A path that is one of the names, by itself or behind the table of a registered model. -/
def Qualifies (registry : Registry) (names : List String) (path : String) : Prop :=
  path ∈ names ∨ ∃ name ∈ names, ∃ owner ∈ registry.models, path = owner.qualify name

variable {registry : Registry} {model : Model} {column : String}

theorem declares_path (h : columnExists registry.catalog model column = true) :
    registry.Declares model (Assembly.path model column) := by
  unfold columnExists at h
  split at h
  · next hcut =>
      rw [Assembly.path, if_neg (Text.cutAt?_eq_none_iff.mp hcut)]
      exact .inr ⟨column, by simpa [Model.hasColumn] using h, rfl⟩
  · next table name hcut =>
      have htext := Text.toList_of_cutAt? hcut
      have hdot : '.' ∈ column.toList := by simp [htext]
      have hcolumn : column = table ++ "." ++ name := by
        rw [← String.toList_inj, htext]
        simp
      obtain ⟨owner, howner, hname⟩ := (Option.any_eq_true ..).mp h
      rw [Assembly.path, if_pos hdot]
      exact .inl ⟨table, name, owner, hcolumn, howner, by simpa [Model.hasColumn] using hname⟩

theorem qualifies_path (hmodel : model ∈ registry.models) {names : List String}
    (h : column ∈ names) : registry.Qualifies names (Assembly.path model column) := by
  unfold Assembly.path
  split
  · exact .inl h
  · exact .inr ⟨column, h, model, hmodel, rfl⟩

end Registry

/-! ## Predicates and joins -/

namespace Predicate

variable {registry : Registry} {model : Model} {predicate : Predicate}

theorem path_column (model : Model) (predicate : Predicate) :
    Assembly.path model predicate.column = predicate.column := by
  rw [Assembly.path, if_pos]
  simp [column]

theorem spelled_field (h : predicate.IsOfPair registry.catalog model) :
    Column.Spelled predicate.field := by
  obtain ⟨key, value, hpair⟩ := h
  obtain ⟨_, _, -, -, hvalid⟩ := ofPair_eq_ok hpair
  exact Column.spelled_of_validate hvalid

theorem exists_owner (hmodel : model ∈ registry.models)
    (h : predicate.IsOfPair registry.catalog model) :
    ∃ owner ∈ registry.models, predicate.column = owner.qualify predicate.field := by
  obtain ⟨key, value, hpair⟩ := h
  obtain ⟨path, filter, -, hlocate, -⟩ := ofPair_eq_ok hpair
  rcases locate_eq_ok hlocate with ⟨-, rfl⟩ | ⟨_, _, relation, related, -, -, hrelated, rfl⟩
  · exact ⟨model, hmodel, rfl⟩
  · exact ⟨related, List.mem_of_find?_eq_some hrelated, rfl⟩

end Predicate

namespace Join

variable {catalog : Catalog} {model : Model} {join : Join}

def IsDeclared (catalog : Catalog) (model : Model) (join : LeftJoin) : Prop :=
  ∃ relation ∈ model.relations, ∃ related,
    catalog.model? relation.model = some related ∧
      join = ⟨related.table, related.qualify relation.primaryKey,
        model.qualify relation.foreignKey⟩

theorem exists_of_mem_missing {predicates : List Predicate} {joined : JoinRegistry}
    (h : join ∈ (missing model joined predicates).1) :
    ∃ predicate ∈ predicates, predicate.join? model = some join := by
  induction predicates generalizing joined with
  | nil => cases h
  | cons predicate predicates ih =>
      have hrest : ∀ {joined}, join ∈ (missing model joined predicates).1 →
          ∃ other ∈ predicate :: predicates, other.join? model = some join := by
        intro joined hmem
        obtain ⟨other, hother, hjoin⟩ := ih hmem
        exact ⟨other, List.mem_cons_of_mem predicate hother, hjoin⟩
      rw [missing] at h
      split at h
      · exact hrest h
      · next found hfound =>
          split at h
          · exact hrest h
          · rcases List.mem_cons.mp h with rfl | hmem
            · exact ⟨predicate, List.mem_cons_self, hfound⟩
            · exact hrest hmem

theorem isDeclared_of_join? {predicate : Predicate} (h : predicate.join? model = some join)
    (hpair : predicate.IsOfPair catalog model) : IsDeclared catalog model join.toLeftJoin := by
  obtain ⟨key, value, hpair⟩ := hpair
  obtain ⟨path, filter, -, hlocate, -⟩ := Predicate.ofPair_eq_ok hpair
  rcases Predicate.locate_eq_ok hlocate with
    ⟨-, rfl⟩ | ⟨_, _, relation, related, -, hrelation, hrelated, rfl⟩
  · simp [Predicate.join?] at h
  · unfold Predicate.join? at h
    split at h
    · cases h
    · cases h
      exact ⟨relation, List.mem_of_find?_eq_some hrelation, related, hrelated, rfl⟩

end Join

/-! ## Accepted queries -/

def Query.givenNames (query : Query) : List String :=
  query.namedColumns ++ query.condition.predicates.map (·.field)

/-- What an action may name: columns that exist and are spelled out of given names, and keys
of relations of the model. -/
def Action.IsDeclared (registry : Registry) (model : Model) (names : List String) :
    Action → Prop
  | .selectAll table => table = model.table
  | .select paths => ∀ path ∈ paths,
      (registry.Declares model path ∧ registry.Qualifies names path) ∨
        ∃ relation ∈ model.relations, path = model.qualify relation.foreignKey
  | .test _ path _ => registry.Declares model path ∧ registry.Qualifies names path
  | .leftJoin join => Join.IsDeclared registry.catalog model join
  | .orderBy field => registry.Declares model field.column ∧ registry.Qualifies names field.column
  | .paginate _ _ => True

section Parsed

variable {registry : Registry} {model : Model} {raw : RawQuery} {query : Query}

theorem Query.spelled_of_parse (h : parse registry.catalog model raw = .ok query) :
    ∀ name ∈ query.givenNames, Column.Spelled name := by
  obtain ⟨hcondition, -, hfields, hsort, -⟩ := parse_eq_ok h
  intro name hname
  simp only [givenNames, namedColumns, List.mem_append, List.mem_filter, List.mem_map,
    decide_eq_true_eq] at hname
  rcases hname with (⟨hname, hstar⟩ | ⟨field, hfield, rfl⟩) | ⟨predicate, hpredicate, rfl⟩
  · rcases parseFields_eq_ok hfields with hnil | hall | hspelled
    · rw [hnil] at hname
      cases hname
    · rw [hall] at hname
      exact absurd (List.mem_singleton.mp hname) hstar
    · exact hspelled name hname
  · exact spelled_of_parseSort hsort field hfield
  · exact Predicate.spelled_field
      (Condition.isOfPair_of_compile hcondition predicate hpredicate)

theorem Query.mem_namedColumns_of_fields (h : parse registry.catalog model raw = .ok query)
    (hall : query.selectsAll = false) {field : String} (hfield : field ∈ query.fields) :
    field ∈ query.namedColumns := by
  obtain ⟨-, -, hfields, -⟩ := parse_eq_ok h
  rw [namedColumns, List.mem_append, List.mem_filter]
  refine .inl ⟨hfield, ?_⟩
  rcases parseFields_eq_ok hfields with hnil | hstar | hspelled
  · rw [hnil] at hfield
    cases hfield
  · simp [selectsAll, hstar] at hall
  · simpa using (hspelled field hfield).ne_star

/-- Only identifiers of the catalog reach a statement: the paths that an assembled query
passes on are paths to columns that exist or to keys of relations of the model, whatever its
client sends, and what they take from the client is spelled as a column path. -/
theorem Assembly.isDeclared_of_parse (hmodel : model ∈ registry.models)
    (hparse : Query.parse registry.catalog model raw = .ok query) (joined : JoinRegistry)
    (paginate : Bool) :
    (∀ name ∈ query.givenNames, Column.Spelled name) ∧
      ∀ action, .action action ∈ Call.ofSteps (ofQuery model joined query none paginate).steps →
        action.IsDeclared registry model query.givenNames := by
  refine ⟨Query.spelled_of_parse hparse, ?_⟩
  obtain ⟨hcondition, hloads, hfields, hsort, hrelations, -, -, hexist⟩ :=
    Query.parse_eq_ok hparse
  obtain ⟨document, -, hcompile, -⟩ := Condition.compile_eq_ok hcondition
  have hpairs := (Condition.compileValue_eq_ok document hcompile).2
  have hnamed : ∀ column ∈ query.namedColumns, registry.Declares model (path model column) ∧
      registry.Qualifies query.givenNames (path model column) := by
    intro column hcolumn
    exact ⟨Registry.declares_path (hexist column (List.mem_append_left _ hcolumn)),
      Registry.qualifies_path hmodel (List.mem_append_left _ hcolumn)⟩
  intro action haction
  rw [← Action.mem_ofSteps, actions_ofQuery] at haction
  simp only [Option.toList_none, List.map_nil, List.cons_append, List.nil_append,
    List.mem_cons, List.mem_append, List.mem_map] at haction
  rcases haction with rfl |
    (((⟨predicate, hpredicate, rfl⟩ | ⟨join, hjoin, rfl⟩) | ⟨field, hfield, rfl⟩) | hpage)
  · unfold projectionAction
    cases hall : query.selectsAll with
    | true => rfl
    | false =>
        intro path hpath
        rcases List.mem_append.mp hpath with hmapped | hrelation
        · obtain ⟨field, hfield, rfl⟩ := List.mem_map.mp hmapped
          exact .inl (hnamed field (Query.mem_namedColumns_of_fields hparse hall hfield))
        · rw [hrelations] at hrelation
          obtain ⟨load, hload, rfl⟩ := EagerLoad.exists_of_mem_columns hrelation
          exact .inr ⟨load.relation, EagerLoad.relation_mem_of_resolve hloads load hload, rfl⟩
  · -- The column that was checked is the one that is passed on, with its table in front.
    have hcolumn := hexist predicate.column
      (List.mem_append_right _ (List.mem_map_of_mem hpredicate))
    obtain ⟨owner, howner, hqualified⟩ :=
      Predicate.exists_owner hmodel (hpairs predicate hpredicate)
    constructor
    · rw [← Predicate.path_column model predicate]
      exact Registry.declares_path hcolumn
    · exact .inr ⟨predicate.field, List.mem_append_right _ (List.mem_map_of_mem hpredicate),
        owner, howner, hqualified⟩
  · obtain ⟨predicate, hpredicate, hneeded⟩ := Join.exists_of_mem_missing hjoin
    exact Join.isDeclared_of_join? hneeded (hpairs predicate hpredicate)
  · exact hnamed field.column
      (List.mem_append_right _ (List.mem_map_of_mem hfield))
  · cases paginate with
    | true =>
        cases List.mem_singleton.mp hpage
        trivial
    | false => cases hpage

end Parsed

namespace Sample

def rawListing : RawQuery :=
  { page := none
    perPage := none
    fields := some "id,users.age"
    sort := some "-age"
    filter := some "\x7b\"profile.city\": \"Bern\", \"$or.age.$gte\": 18\x7d"
    loads := some "profile" }

def listing : Query :=
  { page := 1
    perPage := 10
    fields := ["id", "users.age"]
    sort := [⟨"age", .descending⟩]
    condition := .group
      [.predicate ⟨none, "Profile", "profiles", "city", .compare .equal (.text "Bern"),
          some profileOfUser⟩,
        .predicate ⟨some .or, "User", "users", "age", .compare .greaterOrEqual (.int 18), none⟩]
    loads := [⟨"profile", profileOfUser, []⟩]
    relationColumns := ["users.profile_id"] }

theorem parse_rawListing : Query.parse registry.catalog user rawListing = .ok listing := by
  have hstrip : Condition.stripPayload (rawListing.filter.getD "") =
      "\x7b\"profile.city\":\"Bern\",\"$or.age.$gte\":18\x7d" := by
    decide +kernel
  have hdocument : Condition.document? rawListing.filter = some (.object
      [("profile.city", .text "Bern"), ("$or.age.$gte", .number (.integer 18))]) := by
    rw [Condition.document?, hstrip]
    rfl
  have hcompile : Condition.compile registry.catalog user rawListing.filter =
      ⟨.ok listing.condition, ["profiles.city", "users.age"]⟩ := by
    rw [Condition.compile_eq, hdocument]
    rfl
  have hloads : EagerLoad.resolve registry.catalog user (rawListing.loads.getD "") =
      .ok listing.loads := by
    rfl
  have hfields : parseFields rawListing.fields = .ok listing.fields := by rfl
  have hsort : parseSort rawListing.sort = .ok listing.sort := by rfl
  have hcolumns : listing.checkColumns registry.catalog user ["profiles.city", "users.age"] =
      .ok listing := by
    rfl
  rw [Query.parse, hcompile, hloads, hfields, hsort]
  exact hcolumns

end Sample

theorem Assembly.isDeclared_of_rawListing :
    Sample.user ∈ Sample.registry.models ∧
      Query.parse Sample.registry.catalog Sample.user Sample.rawListing = .ok Sample.listing ∧
      (∀ name ∈ Sample.listing.givenNames, Column.Spelled name) ∧
      ∀ action, .action action ∈
          Call.ofSteps (ofQuery Sample.user .empty Sample.listing none true).steps →
        action.IsDeclared Sample.registry Sample.user Sample.listing.givenNames := by
  have hmodel : Sample.user ∈ Sample.registry.models := List.mem_cons_self
  exact ⟨hmodel, Sample.parse_rawListing,
    isDeclared_of_parse hmodel Sample.parse_rawListing .empty true⟩

end ListQuery
