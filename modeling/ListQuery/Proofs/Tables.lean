import ListQuery.Proofs.Joins
import ListQuery.Proofs.Rejection

/-!
# Tables of a statement

Rows come from the table of the model and from the tables that are joined.  Joins are made for
predicates alone.  A predicate on a related row has its join unless the related model has the
table of the model itself; then it tests the row of the model.  Fields and sort fields may name
any table of the catalog, and they bring no join with them.
-/

namespace ListQuery

/-! ## Actions of prepared requests -/

section Prepared

variable {catalog : Catalog} {request : Request} {prepared : Prepared}

/-- Whatever a prepared request does to a statement has one of six causes. -/
theorem Request.action_mem_iff (h : request.prepare catalog = .ok prepared) {action : Action} :
    .action action ∈ Call.ofSteps prepared.assembly.steps ↔
      action = Assembly.projectionAction prepared.model prepared.query ∨
        (∃ scope ∈ request.scope?, Assembly.scopeAction prepared.model scope = action) ∨
        (∃ predicate ∈ prepared.query.condition.predicates, predicate.action = action) ∨
        (∃ join ∈ Assembly.neededJoins prepared.model .empty prepared.query,
          .leftJoin join.toLeftJoin = action) ∨
        (∃ field ∈ prepared.query.sort, Assembly.orderAction prepared.model field = action) ∨
        (request.paginate = true ∧
          action = .paginate prepared.query.perPage prepared.query.page) := by
  obtain ⟨-, -, hprepared⟩ := prepare_eq_ok_iff.mp h
  have hsteps : prepared.assembly.steps = (Assembly.ofQuery prepared.model .empty prepared.query
      request.scope? request.paginate).steps := by
    rw [hprepared]
    rfl
  rw [← Action.mem_ofSteps, hsteps, Assembly.actions_ofQuery]
  simp only [List.cons_append, List.mem_cons, List.mem_append, List.mem_map,
    Option.mem_toList, or_assoc]
  cases request.paginate <;> simp

def Predicate.joinAlong (model : Model) (relation : Relation) (predicate : Predicate) :
    LeftJoin :=
  ⟨predicate.table, predicate.table ++ "." ++ relation.primaryKey,
    model.qualify relation.foreignKey⟩

theorem Request.leftJoin_mem_iff (h : request.prepare catalog = .ok prepared)
    {join : LeftJoin} :
    .action (.leftJoin join) ∈ Call.ofSteps prepared.assembly.steps ↔
      ∃ predicate ∈ prepared.query.condition.predicates, ∃ relation,
        predicate.relation? = some relation ∧ predicate.table ≠ prepared.model.table ∧
          join = predicate.joinAlong prepared.model relation := by
  obtain ⟨-, hparse, -⟩ := prepare_eq_ok_iff.mp h
  have hpairs := Query.isOfPair_of_parse hparse
  have hprojection :
      .leftJoin join ≠ Assembly.projectionAction prepared.model prepared.query := by
    unfold Assembly.projectionAction
    split <;> exact Action.noConfusion
  have hneeded : .action (.leftJoin join) ∈ Call.ofSteps prepared.assembly.steps ↔
      ∃ needed ∈ Assembly.neededJoins prepared.model .empty prepared.query,
        needed.toLeftJoin = join := by
    rw [action_mem_iff h]
    simp [hprojection, Assembly.scopeAction, Predicate.action, Assembly.orderAction]
  rw [hneeded]
  simp only [Assembly.mem_neededJoins_iff hpairs, Join.join?_eq_some_iff]
  constructor
  · rintro ⟨_, ⟨predicate, hmem, hforeign, relation, hrelation, rfl⟩, rfl⟩
    exact ⟨predicate, hmem, relation, hrelation, hforeign, rfl⟩
  · rintro ⟨predicate, hmem, relation, hrelation, hforeign, rfl⟩
    exact ⟨_, ⟨predicate, hmem, hforeign, relation, hrelation, rfl⟩, rfl⟩

/-- A table that rows come from: that of the model, or one that is joined. -/
def Prepared.HasTable (prepared : Prepared) (table : String) : Prop :=
  table = prepared.model.table ∨
    ∃ join, .action (.leftJoin join) ∈ Call.ofSteps prepared.assembly.steps ∧ join.table = table

theorem Request.hasTable_iff (h : request.prepare catalog = .ok prepared) {table : String} :
    prepared.HasTable table ↔ table = prepared.model.table ∨
      ∃ predicate ∈ prepared.query.condition.predicates,
        predicate.relation?.isSome ∧ predicate.table = table := by
  unfold Prepared.HasTable
  simp only [leftJoin_mem_iff h]
  constructor
  · rintro (hown | ⟨_, ⟨predicate, hmem, relation, hrelation, -, rfl⟩, htable⟩)
    · exact .inl hown
    · exact .inr ⟨predicate, hmem, by rw [hrelation]; rfl, htable⟩
  · rintro (hown | ⟨predicate, hmem, hsome, rfl⟩)
    · exact .inl hown
    · obtain ⟨relation, hrelation⟩ := Option.isSome_iff_exists.mp hsome
      by_cases hown : predicate.table = prepared.model.table
      · exact .inl hown
      · exact .inr ⟨_, ⟨predicate, hmem, relation, hrelation, hown, rfl⟩, rfl⟩

/-! ## Predicates on related rows -/

/-- A predicate that was reached through a relation has the join of this relation just where
the related model has another table than the model of the request.  Otherwise no join brings
in the table a second time, and the predicate tests the row of the model itself. -/
theorem Request.joins_along_iff (h : request.prepare catalog = .ok prepared)
    {predicate : Predicate} (hmem : predicate ∈ prepared.query.condition.predicates)
    {relation : Relation} (hrelation : predicate.relation? = some relation) :
    ∃ related, prepared.model.toOne? relation.name = some relation ∧
      catalog.model? relation.model = some related ∧
      predicate.column = related.qualify predicate.field ∧
      (.action (.leftJoin (predicate.joinAlong prepared.model relation)) ∈
          Call.ofSteps prepared.assembly.steps ↔ related.table ≠ prepared.model.table) ∧
      (related.table = prepared.model.table →
        predicate.column = prepared.model.qualify predicate.field ∧
          ∀ join, .action (.leftJoin join) ∈ Call.ofSteps prepared.assembly.steps →
            join.table ≠ prepared.model.table) := by
  obtain ⟨-, hparse, -⟩ := prepare_eq_ok_iff.mp h
  obtain ⟨hfound, related, hrelated, htable⟩ :=
    Join.relation_of_isOfPair (Query.isOfPair_of_parse hparse predicate hmem) hrelation
  have hcolumn : predicate.column = related.qualify predicate.field := by
    rw [Predicate.column, htable]
    rfl
  have hforeign (join : LeftJoin)
      (hjoin : .action (.leftJoin join) ∈ Call.ofSteps prepared.assembly.steps) :
      join.table ≠ prepared.model.table := by
    obtain ⟨other, -, along, -, hother, rfl⟩ := (leftJoin_mem_iff h).mp hjoin
    exact hother
  refine ⟨related, hfound, hrelated, hcolumn, ?_, ?_⟩
  · constructor
    · intro hjoin
      rw [← htable]
      exact hforeign _ hjoin
    · intro hother
      rw [← htable] at hother
      exact (leftJoin_mem_iff h).mpr ⟨predicate, hmem, relation, hrelation, hother, rfl⟩
  · intro hown
    refine ⟨?_, hforeign⟩
    rw [hcolumn, Model.qualify, hown]
    rfl

end Prepared

theorem Request.joins_along_profile :
    let request : Request := ⟨"User", Sample.rawListing, none, true⟩
    let prepared := request.assemble Sample.user Sample.listing
    let predicate : Predicate := ⟨none, "Profile", "profiles", "city",
      .compare .equal (.text "Bern"), some Sample.profileOfUser⟩
    request.prepare Sample.registry.catalog = .ok prepared ∧
      predicate ∈ prepared.query.condition.predicates ∧
      predicate.relation? = some Sample.profileOfUser ∧
      .action (.leftJoin ⟨"profiles", "profiles.id", "users.profile_id"⟩) ∈
        Call.ofSteps prepared.assembly.steps := by
  intro request prepared predicate
  have hprepare : request.prepare Sample.registry.catalog = .ok prepared :=
    prepare_eq_ok_iff.mpr ⟨rfl, Sample.parse_rawListing, rfl⟩
  have hmem : predicate ∈ prepared.query.condition.predicates := List.mem_cons_self
  obtain ⟨related, -, hrelated, -, hjoined, -⟩ := joins_along_iff hprepare hmem rfl
  have hprofile : some related = some Sample.profile := hrelated.symm.trans rfl
  cases hprofile
  exact ⟨hprepare, hmem, rfl, hjoined.mpr (by decide)⟩

namespace Sample

def manager : Relation := ⟨"manager", .one, "Employee", "id", "manager_id"⟩

def employee : Model :=
  ⟨"Employee", "employees", ["id", "name", "manager_id"], [manager], [], none⟩

def staff : Registry := .ofList [employee]

end Sample

theorem Request.omits_join_of_manager :
    ∃ prepared predicate,
      (Request.filteredBy "Employee" none "\x7b\"manager.name\":\"Ada\"\x7d").prepare
          Sample.staff.catalog = .ok prepared ∧
        prepared.query.condition.predicates = [predicate] ∧
        predicate.relation? = some Sample.manager ∧ predicate.column = "employees.name" ∧
        ∀ join, .action (.leftJoin join) ∉ Call.ofSteps prepared.assembly.steps := by
  let predicate : Predicate :=
    ⟨none, "Employee", "employees", "name", .compare .equal (.text "Ada"), some Sample.manager⟩
  have hread : Json.read? "\x7b\"manager.name\":\"Ada\"\x7d" =
      some (.object [("manager.name", .text "Ada")]) := by
    rfl
  have hdocument := Condition.document?_of_read? (by decide) (by decide) hread
  have hcompile : Condition.compile Sample.staff.catalog Sample.employee
      (some "\x7b\"manager.name\":\"Ada\"\x7d") =
      ⟨.ok (.group [.predicate predicate]), ["employees.name"]⟩ := by
    rw [Condition.compile_eq, hdocument]
    rfl
  have hfields : parseFields none = .ok [] := by rfl
  have hexist : ∀ column ∈ ["employees.name"],
      columnExists Sample.staff.catalog Sample.employee column = true := by
    decide +kernel
  have hmodel : Sample.staff.catalog.model? "Employee" = some Sample.employee := by rfl
  have hprepare := prepare_filteredBy hmodel hfields hcompile hexist
  refine ⟨_, predicate, hprepare, rfl, rfl, rfl, ?_⟩
  intro join hjoin
  obtain ⟨other, hother, -, -, hforeign, -⟩ := (leftJoin_mem_iff hprepare).mp hjoin
  have hsame : other = predicate := List.mem_singleton.mp hother
  rw [hsame] at hforeign
  exact hforeign rfl

/-! ## Listed columns -/

def Action.listedPaths : Action → List String
  | .select paths => paths
  | .orderBy field => [field.column]
  | _ => []

theorem Assembly.path_of_knows {catalog : Catalog} {model : Model} {column : String}
    (h : catalog.Knows model column) :
    '.' ∉ column.toList ∧ path model column = model.qualify column ∨
      path model column = column ∧ ∃ table name owner, '.' ∉ table.toList ∧
        column = table ++ "." ++ name ∧ catalog.modelOfTable? table = some owner ∧
        name ∈ owner.columns := by
  rcases h with ⟨hbare, -⟩ | hqualified
  · exact .inl ⟨hbare, if_neg hbare⟩
  · refine .inr ⟨if_pos ?_, hqualified⟩
    obtain ⟨table, name, owner, -, rfl, -⟩ := hqualified
    simp

section Listed

variable {registry : Registry} {request : Request} {prepared : Prepared}

/-- A name that is listed as a column of the model: a bare one among the fields and the sort
fields, or the key of a load. -/
def Prepared.ListsOwn (prepared : Prepared) (name : String) : Prop :=
  (name ∈ prepared.query.namedColumns ∧ '.' ∉ name.toList) ∨
    ∃ load ∈ prepared.query.loads, name = load.relation.foreignKey

/-- The client gives the path of a column that exists together with its table. -/
def Prepared.GivesTable (catalog : Catalog) (prepared : Prepared) (path table : String) :
    Prop :=
  path ∈ prepared.query.namedColumns ∧ '.' ∉ table.toList ∧ ∃ name owner,
    path = table ++ "." ++ name ∧ catalog.modelOfTable? table = some owner ∧
      name ∈ owner.columns

theorem Request.listedPaths_cases (h : request.prepare registry.catalog = .ok prepared)
    {action : Action} (haction : .action action ∈ Call.ofSteps prepared.assembly.steps)
    {path : String} (hpath : path ∈ action.listedPaths) :
    (∃ load ∈ prepared.query.loads,
        path = prepared.model.qualify load.relation.foreignKey) ∨
      ∃ column ∈ prepared.query.namedColumns, path = Assembly.path prepared.model column := by
  obtain ⟨-, hparse, -⟩ := prepare_eq_ok_iff.mp h
  obtain ⟨-, -, -, -, hrelations, -⟩ := Query.parse_eq_ok hparse
  rcases (action_mem_iff h).mp haction with rfl | ⟨scope, -, rfl⟩ | ⟨predicate, -, rfl⟩ |
    ⟨join, -, rfl⟩ | ⟨field, hfield, rfl⟩ | ⟨-, rfl⟩
  · cases hall : prepared.query.selectsAll with
    | true =>
        rw [Assembly.projectionAction, if_pos hall] at hpath
        cases hpath
    | false =>
        simp only [Assembly.projectionAction, hall] at hpath
        rcases List.mem_append.mp hpath with hmapped | hrelation
        · obtain ⟨field, hfield, hsame⟩ := List.mem_map.mp hmapped
          exact .inr ⟨field, Query.mem_namedColumns_of_fields hparse hall hfield, hsame.symm⟩
        · rw [hrelations] at hrelation
          exact .inl (EagerLoad.exists_of_mem_columns hrelation)
  · cases hpath
  · cases hpath
  · cases hpath
  · exact .inr ⟨field.column, List.mem_append_right _ (List.mem_map_of_mem hfield),
      List.mem_singleton.mp hpath⟩
  · cases hpath

/-- Listed columns are of the table of the model, by a bare name or the key of a load, or the
client names their table.  Such a table is among those that rows come from just where it is
that of the model or a predicate reaches it through a relation. -/
theorem Request.listed_of_prepare (h : request.prepare registry.catalog = .ok prepared)
    {action : Action} (haction : .action action ∈ Call.ofSteps prepared.assembly.steps)
    {path : String} (hpath : path ∈ action.listedPaths) :
    (∃ name, prepared.ListsOwn name ∧ path = prepared.model.qualify name) ∨
      ∃ table, prepared.GivesTable registry.catalog path table ∧
        (prepared.HasTable table ↔ table = prepared.model.table ∨
          ∃ predicate ∈ prepared.query.condition.predicates,
            predicate.relation?.isSome ∧ predicate.table = table) := by
  obtain ⟨-, hparse, -⟩ := prepare_eq_ok_iff.mp h
  obtain ⟨-, -, -, -, -, -, -, hexist⟩ := Query.parse_eq_ok hparse
  rcases listedPaths_cases h haction hpath with ⟨load, hload, hkey⟩ | ⟨column, hcolumn, hsame⟩
  · exact .inl ⟨_, .inr ⟨load, hload, rfl⟩, hkey⟩
  · have hknown := columnExists_iff.mp (hexist column (List.mem_append_left _ hcolumn))
    rcases Assembly.path_of_knows hknown with
      ⟨hbare, hown⟩ | ⟨hgiven, table, name, owner, hdot, hparts, howner, hname⟩
    · exact .inl ⟨column, .inl ⟨hcolumn, hbare⟩, hsame.trans hown⟩
    · rw [hsame, hgiven]
      exact .inr ⟨table, ⟨hcolumn, hdot, name, owner, hparts, howner, hname⟩, hasTable_iff h⟩

theorem Request.listed_of_joined :
    ∃ prepared,
      (Request.filteredBy "User" (some "id,profiles.city")
          "\x7b\"profile.city\":\"Bern\"\x7d").prepare Sample.registry.catalog =
        .ok prepared ∧
      .action (.select ["users.id", "profiles.city"]) ∈ Call.ofSteps prepared.assembly.steps ∧
      "profiles.city" ∈ (Action.select ["users.id", "profiles.city"]).listedPaths ∧
      prepared.HasTable "profiles" := by
  let predicate : Predicate := ⟨none, "Profile", "profiles", "city",
    .compare .equal (.text "Bern"), some Sample.profileOfUser⟩
  have hread : Json.read? "\x7b\"profile.city\":\"Bern\"\x7d" =
      some (.object [("profile.city", .text "Bern")]) := by
    rfl
  have hdocument := Condition.document?_of_read? (by decide) (by decide) hread
  have hcompile : Condition.compile Sample.registry.catalog Sample.user
      (some "\x7b\"profile.city\":\"Bern\"\x7d") =
      ⟨.ok (.group [.predicate predicate]), ["profiles.city"]⟩ := by
    rw [Condition.compile_eq, hdocument]
    rfl
  have hfields : parseFields (some "id,profiles.city") = .ok ["id", "profiles.city"] := by rfl
  have hexist : ∀ column ∈ ["id", "profiles.city", "profiles.city"],
      columnExists Sample.registry.catalog Sample.user column = true := by
    decide +kernel
  have hmodel : Sample.registry.catalog.model? "User" = some Sample.user := by rfl
  have hprepare := prepare_filteredBy hmodel hfields hcompile hexist
  have hselect := (action_mem_iff hprepare).mpr (.inl rfl)
  have hlisted : "profiles.city" ∈ (Action.select ["users.id", "profiles.city"]).listedPaths := by
    decide
  refine ⟨_, hprepare, hselect, hlisted, ?_⟩
  rcases listed_of_prepare hprepare hselect hlisted with
    ⟨name, -, hown⟩ | ⟨table, ⟨-, hdot, name, owner, hparts, -⟩, htable⟩
  · have hhead := congrArg (fun text => text.toList.head?) hown
    simp [Model.qualify, Sample.user, assemble] at hhead
  · have hcut : Text.cutAt? '.' "profiles.city" = some (table, name) := by
      rw [Text.cutAt?_eq_some_iff]
      exact ⟨hdot, by simp [hparts]⟩
    have hprofiles : Text.cutAt? '.' "profiles.city" = some ("profiles", "city") := by rfl
    cases hprofiles.symm.trans hcut
    exact htable.mpr (.inr ⟨predicate, List.mem_singleton_self _, rfl, rfl⟩)

theorem Request.lists_absent_table :
    ∃ prepared,
      (Request.filteredBy "User" (some "id,profiles.city") (Filter.pairText "age" .null)).prepare
          Sample.registry.catalog = .ok prepared ∧
        .action (.select ["users.id", "profiles.city"]) ∈ Call.ofSteps prepared.assembly.steps ∧
        ¬ prepared.HasTable "profiles" := by
  have hspelled : Column.Spelled "age" := Column.spelled_of_validate (by rfl)
  have hcompile := Condition.compile_pairText_null Sample.registry.catalog Sample.user hspelled
    (by decide)
  have hfields : parseFields (some "id,profiles.city") = .ok ["id", "profiles.city"] := by rfl
  have hexist : ∀ column ∈ ["id", "profiles.city", "users.age"],
      columnExists Sample.registry.catalog Sample.user column = true := by
    decide +kernel
  have hmodel : Sample.registry.catalog.model? "User" = some Sample.user := by rfl
  have hprepare := prepare_filteredBy hmodel hfields hcompile hexist
  refine ⟨_, hprepare, (action_mem_iff hprepare).mpr (.inl rfl), ?_⟩
  rw [hasTable_iff hprepare]
  rintro (hown | ⟨predicate, hmem, hsome, -⟩)
  · revert hown
    decide
  · have hsame : predicate = .nullTest Sample.user "age" := List.mem_singleton.mp hmem
    rw [hsame] at hsome
    cases hsome

end Listed

end ListQuery
