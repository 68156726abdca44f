import ListQuery.Proofs.Identifier
import ListQuery.Proofs.Prepare
import ListQuery.Proofs.Reading

/-!
# Declared fields

A predicate is attributed to one model, but whether its column exists is asked of the table:
of several models with one table, the first that was registered answers for all of them.  The
fields of accepted requests are therefore declared by the models that they are attributed to
just where each model declares what the first model of its table declares.
-/

namespace ListQuery

/-! ## Models of a registry -/

namespace Registry

variable {registry : Registry} {name : String} {model : Model}

theorem name_of_model? (h : registry.catalog.model? name = some model) : model.name = name := by
  have hfound := List.find?_some h
  simpa using hfound

theorem mem_of_model? (h : registry.catalog.model? name = some model) :
    model ∈ registry.models :=
  List.mem_of_find?_eq_some h

theorem model?_name (h : registry.catalog.model? name = some model) :
    registry.catalog.model? model.name = some model := by
  rw [name_of_model? h]
  exact h

end Registry

theorem columnExists_qualify (catalog : Catalog) (model : Model) {owner : Model}
    (hdot : '.' ∉ owner.table.toList) (field : String) :
    columnExists catalog model (owner.qualify field) =
      (catalog.modelOfTable? owner.table).any (·.hasColumn field) := by
  have hcut : Text.cutAt? '.' (owner.qualify field) = some (owner.table, field) := by
    rw [Text.cutAt?_eq_some_iff]
    exact ⟨hdot, by simp [Model.qualify]⟩
  unfold columnExists
  rw [hcut]

/-! ## Owners of predicates -/

theorem Predicate.exists_owner_of_isOfPair {registry : Registry} {name : String} {model : Model}
    {predicate : Predicate} (hmodel : registry.catalog.model? name = some model)
    (h : predicate.IsOfPair registry.catalog model) :
    ∃ owner, registry.catalog.model? predicate.model = some owner ∧
      predicate.column = owner.qualify predicate.field := by
  obtain ⟨key, value, hpair⟩ := h
  obtain ⟨path, filter, -, hlocate, -⟩ := ofPair_eq_ok hpair
  rcases locate_eq_ok hlocate with ⟨-, rfl⟩ | ⟨_, _, relation, related, -, -, hrelated, rfl⟩
  · exact ⟨model, Registry.model?_name hmodel, rfl⟩
  · exact ⟨related, Registry.model?_name hrelated, rfl⟩

theorem Request.exists_first_of_prepare {registry : Registry} {request : Request}
    {prepared : Prepared} (h : request.prepare registry.catalog = .ok prepared)
    {predicate : Predicate} (hmem : predicate ∈ prepared.query.condition.predicates) :
    ∃ owner, registry.catalog.model? predicate.model = some owner ∧
      predicate.column = owner.qualify predicate.field ∧
      ('.' ∉ owner.table.toList → ∃ first,
        registry.catalog.modelOfTable? owner.table = some first ∧
          predicate.field ∈ first.columns) := by
  obtain ⟨hmodel, hparse, -⟩ := prepare_eq_ok_iff.mp h
  have hpair := Query.isOfPair_of_parse hparse predicate hmem
  obtain ⟨owner, howner, hcolumn⟩ := Predicate.exists_owner_of_isOfPair hmodel hpair
  refine ⟨owner, howner, hcolumn, ?_⟩
  intro hdot
  obtain ⟨-, -, -, -, -, -, -, hexist⟩ := Query.parse_eq_ok hparse
  have hchecked := hexist predicate.column
    (List.mem_append_right _ (List.mem_map_of_mem hmem))
  rw [hcolumn, columnExists_qualify _ _ hdot, Option.any_eq_true] at hchecked
  obtain ⟨first, hfirst, hfield⟩ := hchecked
  exact ⟨first, hfirst, by simpa [Model.hasColumn] using hfield⟩

/-! ## Requests with a filter alone -/

theorem Query.checkColumns_of_exist {catalog : Catalog} {model : Model} {query : Query}
    {columns : List String}
    (h : ∀ column ∈ query.namedColumns ++ columns, columnExists catalog model column = true) :
    query.checkColumns catalog model columns = .ok query := by
  have hnone : (query.namedColumns ++ columns).filter
      (fun column => ¬ columnExists catalog model column) = [] := by
    rw [List.filter_eq_nil_iff]
    intro column hcolumn
    simp [h column hcolumn]
  unfold checkColumns
  rw [hnone]

def Query.filtered (fields : List String) (condition : Condition) : Query :=
  { page := parsePage none
    perPage := parsePerPage none
    fields := fields
    sort := []
    condition := condition
    loads := []
    relationColumns := [] }

theorem Query.parse_of_filter {catalog : Catalog} {model : Model} {content? : Option String}
    {payload : String} {fields columns : List String} {condition : Condition}
    (hfields : parseFields content? = .ok fields)
    (hcompile : Condition.compile catalog model (some payload) = ⟨.ok condition, columns⟩)
    (hexist : ∀ column ∈ (filtered fields condition).namedColumns ++ columns,
      columnExists catalog model column = true) :
    parse catalog model { RawQuery.empty with fields := content?, filter := some payload } =
      .ok (filtered fields condition) := by
  have hloads : EagerLoad.resolve catalog model "" = .ok [] := by rfl
  have hsort : parseSort none = .ok [] := by rfl
  unfold parse
  simp only [RawQuery.empty, hcompile, Option.getD_none, hloads, hfields, hsort, bind,
    Except.bind]
  exact checkColumns_of_exist hexist

namespace Request

def filteredBy (name : String) (content? : Option String) (payload : String) : Request :=
  ⟨name, { RawQuery.empty with fields := content?, filter := some payload }, none, false⟩

theorem prepare_filteredBy {catalog : Catalog} {model : Model} {name payload : String}
    {content? : Option String} {fields columns : List String} {condition : Condition}
    (hmodel : catalog.model? name = some model) (hfields : parseFields content? = .ok fields)
    (hcompile : Condition.compile catalog model (some payload) = ⟨.ok condition, columns⟩)
    (hexist : ∀ column ∈ (Query.filtered fields condition).namedColumns ++ columns,
      columnExists catalog model column = true) :
    let request := filteredBy name content? payload
    request.prepare catalog = .ok (request.assemble model (.filtered fields condition)) :=
  prepare_eq_ok_iff.mpr ⟨hmodel, Query.parse_of_filter hfields hcompile hexist, rfl⟩

theorem exists_prepare_of_first {registry : Registry} {name column : String}
    {owner first : Model} (howner : registry.catalog.model? name = some owner)
    (hfirst : registry.catalog.modelOfTable? owner.table = some first)
    (hdot : '.' ∉ owner.table.toList) (hcolumn : column ∈ first.columns)
    (hspelled : Column.Spelled column) (hbare : '.' ∉ column.toList) :
    ∃ prepared,
      (filteredBy name none (Filter.pairText column .null)).prepare registry.catalog =
          .ok prepared ∧
        prepared.query.condition.predicates = [.nullTest owner column] := by
  have hcompile := Condition.compile_pairText_null registry.catalog owner hspelled hbare
  have hfields : parseFields none = .ok [] := by rfl
  have hexist : ∀ path ∈ [(Predicate.nullTest owner column).column],
      columnExists registry.catalog owner path = true := by
    intro path hpath
    have hqualified : path = owner.qualify column := List.mem_singleton.mp hpath
    rw [hqualified, columnExists_qualify _ _ hdot, hfirst]
    simpa [Model.hasColumn] using hcolumn
  exact ⟨_, prepare_filteredBy howner hfields hcompile hexist, rfl⟩

end Request

/-! ## Registries that declare what is filtered by -/

namespace Registry

/-- No table and no column has a dot in its name. -/
def IsPlain (registry : Registry) : Prop :=
  ∀ model ∈ registry.models,
    '.' ∉ model.table.toList ∧ ∀ column ∈ model.columns, '.' ∉ column.toList

/-- The fields that accepted requests filter by are declared by the models that they are
attributed to. -/
def DeclaresFilters (registry : Registry) : Prop :=
  ∀ request prepared, Request.prepare registry.catalog request = .ok prepared →
    ∀ predicate ∈ prepared.query.condition.predicates, ∃ owner,
      registry.catalog.model? predicate.model = some owner ∧ predicate.field ∈ owner.columns

/-- Every model declares the columns of the first model that was registered with its table. -/
def AgreesOnTables (registry : Registry) : Prop :=
  ∀ name owner first, registry.catalog.model? name = some owner →
    registry.catalog.modelOfTable? owner.table = some first →
      ∀ column ∈ first.columns, Column.Spelled column → column ∈ owner.columns

theorem declaresFilters_of_agreesOnTables {registry : Registry} (hplain : registry.IsPlain)
    (h : registry.AgreesOnTables) : registry.DeclaresFilters := by
  intro request prepared hprepare predicate hmem
  obtain ⟨owner, howner, -, hfirst⟩ := Request.exists_first_of_prepare hprepare hmem
  have hdot := (hplain owner (mem_of_model? howner)).1
  obtain ⟨first, hfirst, hfield⟩ := hfirst hdot
  obtain ⟨-, hparse, -⟩ := Request.prepare_eq_ok_iff.mp hprepare
  have hspelled : Column.Spelled predicate.field :=
    Predicate.spelled_field (Query.isOfPair_of_parse hparse predicate hmem)
  exact ⟨owner, howner, h _ owner first howner hfirst predicate.field hfield hspelled⟩

theorem agreesOnTables_of_declaresFilters {registry : Registry} (hplain : registry.IsPlain)
    (h : registry.DeclaresFilters) : registry.AgreesOnTables := by
  intro name owner first howner hfirst column hcolumn hspelled
  have hdot := (hplain owner (mem_of_model? howner)).1
  have hbare := (hplain first (List.mem_of_find?_eq_some hfirst)).2 column hcolumn
  obtain ⟨prepared, hprepare, hpredicates⟩ :=
    Request.exists_prepare_of_first howner hfirst hdot hcolumn hspelled hbare
  have hmem : Predicate.nullTest owner column ∈ prepared.query.condition.predicates := by
    rw [hpredicates]
    exact List.mem_singleton_self _
  obtain ⟨declaring, hdeclaring, hfield⟩ := h _ prepared hprepare _ hmem
  -- The test is attributed to the model of the request, so this model declares its field.
  have hsame : registry.catalog.model? owner.name = some owner := model?_name howner
  have howners : some declaring = some owner := hdeclaring.symm.trans hsame
  cases howners
  exact hfield

/-- Accepted requests filter by declared fields alone just where the models of each table
agree with the first of them. -/
theorem declaresFilters_iff {registry : Registry} (hplain : registry.IsPlain) :
    registry.DeclaresFilters ↔ registry.AgreesOnTables :=
  ⟨agreesOnTables_of_declaresFilters hplain, declaresFilters_of_agreesOnTables hplain⟩

end Registry

namespace Sample

def contact : Model := ⟨"Contact", "users", ["id"], [], [], none⟩

def shared : Registry := .ofList [user, contact]

end Sample

theorem Registry.declaresFilters_sample :
    Sample.registry.IsPlain ∧ Sample.registry.DeclaresFilters := by
  have hplain : Sample.registry.IsPlain := by
    unfold IsPlain
    decide
  have hagrees : Sample.registry.AgreesOnTables := by
    intro name owner first howner hfirst column hcolumn _
    have hmem : owner ∈ Sample.registry.models := mem_of_model? howner
    have hfound : Sample.registry.catalog.modelOfTable? owner.table = some owner := by
      rcases List.mem_cons.mp hmem with rfl | hmem
      · rfl
      · cases List.mem_singleton.mp hmem
        rfl
    have hsame : some first = some owner := hfirst.symm.trans hfound
    cases hsame
    exact hcolumn
  exact ⟨hplain, (declaresFilters_iff hplain).mpr hagrees⟩

theorem Registry.accepts_undeclared_filter :
    ∃ prepared,
      (Request.filteredBy "Contact" none "\x7b\"age\":null\x7d").prepare Sample.shared.catalog =
          .ok prepared ∧
        prepared.query.condition.predicates =
          [⟨none, "Contact", "users", "age", .null .isNull, none⟩] ∧
        Sample.shared.catalog.model? "Contact" = some Sample.contact ∧
        "age" ∉ Sample.contact.columns := by
  have howner : Sample.shared.catalog.model? "Contact" = some Sample.contact := by rfl
  have hfirst : Sample.shared.catalog.modelOfTable? Sample.contact.table = some Sample.user := by
    rfl
  have hspelled : Column.Spelled "age" := Column.spelled_of_validate (by rfl)
  have hcolumn : "age" ∈ Sample.user.columns := by decide
  obtain ⟨prepared, hprepare, hpredicates⟩ := Request.exists_prepare_of_first howner hfirst
    (by decide) hcolumn hspelled (by decide)
  exact ⟨prepared, hprepare, hpredicates, howner, by decide⟩

end ListQuery
