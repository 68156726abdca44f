import ListQuery.Proofs.FirstMention
import ListQuery.Proofs.Tables

/-!
# Columns of a projection

A request that lists its fields selects them and the keys by which loaded rows are matched.
Fields are told apart from fields and keys from keys, but a key that is also listed as a field
is selected twice.
-/

namespace ListQuery

namespace EagerLoad

theorem mem_columns_iff {model : Model} {loads : List EagerLoad} {column : String} :
    column ∈ columns model loads ↔
      ∃ load ∈ loads, model.qualify load.relation.foreignKey = column := by
  simp [columns]

theorem nodup_columns (model : Model) (loads : List EagerLoad) : (columns model loads).Nodup :=
  nodup_eraseDups _

end EagerLoad

namespace Query

def selected (model : Model) (query : Query) : List String :=
  query.fields.map (Assembly.path model) ++ EagerLoad.columns model query.loads

theorem mem_selected_iff {model : Model} {query : Query} {column : String} :
    column ∈ query.selected model ↔
      (∃ field ∈ query.fields, Assembly.path model field = column) ∨
        ∃ load ∈ query.loads, model.qualify load.relation.foreignKey = column := by
  rw [selected, List.mem_append, List.mem_map, EagerLoad.mem_columns_iff]

theorem nodup_selected_iff {model : Model} {query : Query}
    (hdistinct : (query.fields.map (Assembly.path model)).Nodup) :
    (query.selected model).Nodup ↔ ∀ field ∈ query.fields, ∀ load ∈ query.loads,
      Assembly.path model field ≠ model.qualify load.relation.foreignKey := by
  rw [selected, List.nodup_append']
  constructor
  · rintro ⟨-, -, hdisjoint⟩ field hfield load hload hsame
    have hkey : Assembly.path model field ∈ EagerLoad.columns model query.loads :=
      EagerLoad.mem_columns_iff.mpr ⟨load, hload, hsame.symm⟩
    exact hdisjoint (List.mem_map_of_mem hfield) hkey
  · intro happart
    refine ⟨hdistinct, EagerLoad.nodup_columns model query.loads, ?_⟩
    intro column hlisted hkey
    obtain ⟨field, hfield, rfl⟩ := List.mem_map.mp hlisted
    obtain ⟨load, hload, hsame⟩ := EagerLoad.mem_columns_iff.mp hkey
    exact happart field hfield load hload hsame.symm

end Query

theorem Condition.compile_none (catalog : Catalog) (model : Model) :
    compile catalog model none = ⟨.ok (.group []), []⟩ := by
  have hdocument : document? none = some .null := by rfl
  rw [compile_eq, hdocument]
  rfl

namespace Sample

def rawKeys : RawQuery :=
  { RawQuery.empty with fields := some "id,profile_id", loads := some "profile" }

def keys : Query :=
  { page := 1
    perPage := 10
    fields := ["id", "profile_id"]
    sort := []
    condition := .group []
    loads := [⟨"profile", profileOfUser, []⟩]
    relationColumns := ["users.profile_id"] }

theorem parse_rawKeys : Query.parse registry.catalog user rawKeys = .ok keys := by
  have hcompile : Condition.compile registry.catalog user rawKeys.filter =
      ⟨.ok (.group []), []⟩ :=
    Condition.compile_none registry.catalog user
  have hloads : EagerLoad.resolve registry.catalog user (rawKeys.loads.getD "") =
      .ok keys.loads := by
    rfl
  have hfields : parseFields rawKeys.fields = .ok keys.fields := by rfl
  have hsort : parseSort rawKeys.sort = .ok keys.sort := by rfl
  have hcolumns : keys.checkColumns registry.catalog user [] = .ok keys := by rfl
  rw [Query.parse, hcompile, hloads, hfields, hsort]
  exact hcolumns

end Sample

namespace Request

variable {catalog : Catalog} {request : Request} {prepared : Prepared}

theorem select_mem_iff (h : request.prepare catalog = .ok prepared)
    (hexplicit : prepared.query.selectsAll = false) {columns : List String} :
    .action (.select columns) ∈ Call.ofSteps prepared.assembly.steps ↔
      columns = prepared.query.selected prepared.model := by
  obtain ⟨-, hparse, -⟩ := prepare_eq_ok_iff.mp h
  obtain ⟨-, -, -, -, hkeys, -⟩ := Query.parse_eq_ok hparse
  rw [action_mem_iff h]
  simp [Assembly.projectionAction, hexplicit, hkeys, Query.selected, Assembly.scopeAction,
    Predicate.action, Assembly.orderAction]

/-- Distinct fields and the keys of loads are all selected, each of them once unless a field
is the key of a load. -/
theorem selects_fields_and_keys (h : request.prepare catalog = .ok prepared)
    (hexplicit : prepared.query.selectsAll = false)
    (hdistinct : (prepared.query.fields.map (Assembly.path prepared.model)).Nodup) :
    ∃ columns,
      (∀ others, .action (.select others) ∈ Call.ofSteps prepared.assembly.steps ↔
        others = columns) ∧
      (∀ column, column ∈ columns ↔
        (∃ field ∈ prepared.query.fields, Assembly.path prepared.model field = column) ∨
          ∃ load ∈ prepared.query.loads,
            prepared.model.qualify load.relation.foreignKey = column) ∧
      (columns.Nodup ↔ ∀ field ∈ prepared.query.fields, ∀ load ∈ prepared.query.loads,
        Assembly.path prepared.model field ≠
          prepared.model.qualify load.relation.foreignKey) :=
  ⟨prepared.query.selected prepared.model, fun _ => select_mem_iff h hexplicit,
    fun _ => Query.mem_selected_iff, Query.nodup_selected_iff hdistinct⟩

theorem selects_rawListing :
    let request : Request := ⟨"User", Sample.rawListing, none, true⟩
    let prepared := request.assemble Sample.user Sample.listing
    request.prepare Sample.registry.catalog = .ok prepared ∧
      prepared.query.selectsAll = false ∧
      (prepared.query.fields.map (Assembly.path prepared.model)).Nodup ∧
      ∃ columns, .action (.select columns) ∈ Call.ofSteps prepared.assembly.steps ∧
        "users.profile_id" ∈ columns ∧ columns.Nodup := by
  intro request prepared
  have hprepare : request.prepare Sample.registry.catalog = .ok prepared :=
    prepare_eq_ok_iff.mpr ⟨rfl, Sample.parse_rawListing, rfl⟩
  have hexplicit : prepared.query.selectsAll = false := by rfl
  have hdistinct : (prepared.query.fields.map (Assembly.path prepared.model)).Nodup := by
    decide
  obtain ⟨columns, hselect, hmem, hnodup⟩ :=
    selects_fields_and_keys hprepare hexplicit hdistinct
  refine ⟨hprepare, hexplicit, hdistinct, columns, (hselect columns).mpr rfl, ?_, ?_⟩
  · exact (hmem _).mpr (.inr ⟨_, List.mem_singleton_self _, rfl⟩)
  · rw [hnodup]
    decide

theorem selects_key_twice :
    let request : Request := ⟨"User", Sample.rawKeys, none, false⟩
    let prepared := request.assemble Sample.user Sample.keys
    request.prepare Sample.registry.catalog = .ok prepared ∧
      prepared.query.selectsAll = false ∧
      (prepared.query.fields.map (Assembly.path prepared.model)).Nodup ∧
      .action (.select ["users.id", "users.profile_id", "users.profile_id"]) ∈
        Call.ofSteps prepared.assembly.steps ∧
      ¬ ["users.id", "users.profile_id", "users.profile_id"].Nodup := by
  intro request prepared
  have hprepare : request.prepare Sample.registry.catalog = .ok prepared :=
    prepare_eq_ok_iff.mpr ⟨rfl, Sample.parse_rawKeys, rfl⟩
  have hexplicit : prepared.query.selectsAll = false := by rfl
  exact ⟨hprepare, hexplicit, by decide, (select_mem_iff hprepare hexplicit).mpr rfl, by decide⟩

end Request

end ListQuery
