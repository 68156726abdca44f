import ListQuery.Proofs.Parse

/-!
# Accepted and rejected queries

A raw query is read section by section: the filter, the loads, the fields, the sort fields.
The first section with a mistake rejects it.  Without a mistake there is one reading, and it is
the query that is accepted unless it uses columns that do not exist; then all of them are
reported.  Page and size have no part in this.
-/

namespace ListQuery

/-! ## Columns that exist -/

/-- A column that exists: one of the model by its bare name, or one of the model of another
table behind the name of this table. -/
def Catalog.Knows (catalog : Catalog) (model : Model) (column : String) : Prop :=
  ('.' ∉ column.toList ∧ column ∈ model.columns) ∨
    ∃ table name owner, '.' ∉ table.toList ∧ column = table ++ "." ++ name ∧
      catalog.modelOfTable? table = some owner ∧ name ∈ owner.columns

theorem columnExists_iff {catalog : Catalog} {model : Model} {column : String} :
    columnExists catalog model column = true ↔ catalog.Knows model column := by
  unfold columnExists
  cases hcut : Text.cutAt? '.' column with
  | none =>
      have hbare : '.' ∉ column.toList := Text.cutAt?_eq_none_iff.mp hcut
      have hnotQualified : ∀ table name, column ≠ table ++ "." ++ name := by
        rintro table name rfl
        simp at hbare
      simp [Catalog.Knows, hbare, hnotQualified, Model.hasColumn]
  | some parts =>
      obtain ⟨table, name⟩ := parts
      obtain ⟨htable, htext⟩ := Text.cutAt?_eq_some_iff.mp hcut
      have hcolumn : column = table ++ "." ++ name := by
        rw [← String.toList_inj, htext]
        simp
      have hdot : '.' ∈ column.toList := by simp [htext]
      rw [Option.any_eq_true]
      constructor
      · rintro ⟨owner, howner, hname⟩
        exact .inr ⟨table, name, owner, htable, hcolumn, howner,
          by simpa [Model.hasColumn] using hname⟩
      · rintro (⟨hbare, -⟩ | ⟨table', name', owner, htable', hcolumn', howner, hname⟩)
        · exact absurd hdot hbare
        · -- A path is cut in one way into a table without a dot and a name.
          have hcut' : Text.cutAt? '.' column = some (table', name') := by
            rw [Text.cutAt?_eq_some_iff]
            exact ⟨htable', by simp [hcolumn']⟩
          cases hcut.symm.trans hcut'
          exact ⟨owner, howner, by simpa [Model.hasColumn] using hname⟩

instance (catalog : Catalog) (model : Model) (column : String) :
    Decidable (catalog.Knows model column) :=
  decidable_of_iff _ columnExists_iff

/-! ## Sections -/

def mistake? {ε α : Type} : Except ε α → Option ε
  | .error error => some error
  | .ok _ => none

@[simp] theorem mistake?_eq_some_iff {ε α : Type} {result : Except ε α} {error : ε} :
    mistake? result = some error ↔ result = .error error := by
  cases result <;> simp [mistake?]

@[simp] theorem mistake?_eq_none_iff {ε α : Type} {result : Except ε α} :
    mistake? result = none ↔ ∃ value, result = .ok value := by
  cases result <;> simp [mistake?]

def RawQuery.firstMistake? (catalog : Catalog) (model : Model) (raw : RawQuery) :
    Option QueryError :=
  (mistake? (Condition.compile catalog model raw.filter).result).or <|
    (mistake? (EagerLoad.resolve catalog model (raw.loads.getD ""))).or <|
      (mistake? (parseFields raw.fields)).or <|
        mistake? (parseSort raw.sort)

namespace Query

structure IsReading (catalog : Catalog) (model : Model) (raw : RawQuery) (query : Query) :
    Prop where
  condition : (Condition.compile catalog model raw.filter).result = .ok query.condition
  loads : EagerLoad.resolve catalog model (raw.loads.getD "") = .ok query.loads
  fields : parseFields raw.fields = .ok query.fields
  sort : parseSort raw.sort = .ok query.sort
  relationColumns : query.relationColumns = EagerLoad.columns model query.loads
  page : query.page = parsePage raw.page
  perPage : query.perPage = parsePerPage raw.perPage

/-- The columns of the fields, the sort fields and the predicates, in this order. -/
def usedColumns (query : Query) : List String :=
  query.fields.filter (· ≠ "*") ++ query.sort.map (·.column) ++
    query.condition.predicates.map Predicate.column

def undefinedColumns (catalog : Catalog) (model : Model) (query : Query) : List String :=
  query.usedColumns.filter (¬ catalog.Knows model ·)

def verdict (catalog : Catalog) (model : Model) (query : Query) : Except QueryError Query :=
  query.checkColumns catalog model (query.condition.predicates.map Predicate.column)

variable {catalog : Catalog} {model : Model} {raw : RawQuery} {query : Query}

theorem verdict_eq : query.verdict catalog model =
    if query.undefinedColumns catalog model = [] then .ok query
    else .error (.undefinedColumns (query.undefinedColumns catalog model)) := by
  have hundefined : query.undefinedColumns catalog model =
      (query.namedColumns ++ query.condition.predicates.map Predicate.column).filter
        (¬ columnExists catalog model ·) := by
    unfold undefinedColumns usedColumns namedColumns
    simp only [columnExists_iff]
  rw [hundefined]
  unfold verdict checkColumns
  split
  · next hnone => rw [if_pos hnone]
  · next hsome => rw [if_neg hsome]

theorem verdict_eq_ok_iff {checked : Query} : query.verdict catalog model = .ok checked ↔
    checked = query ∧ ∀ column ∈ query.usedColumns, catalog.Knows model column := by
  have hexist : query.undefinedColumns catalog model = [] ↔
      ∀ column ∈ query.usedColumns, catalog.Knows model column := by
    simp [undefinedColumns]
  rw [verdict_eq]
  by_cases hnone : query.undefinedColumns catalog model = []
  · rw [if_pos hnone, ← hexist, and_iff_left hnone, Except.ok.injEq, eq_comm]
  · rw [if_neg hnone, ← hexist]
    simp [hnone]

theorem verdict_eq_error_iff {error : QueryError} :
    query.verdict catalog model = .error error ↔
      query.undefinedColumns catalog model ≠ [] ∧
        error = .undefinedColumns (query.undefinedColumns catalog model) := by
  rw [verdict_eq]
  by_cases hnone : query.undefinedColumns catalog model = []
  · simp [hnone]
  · rw [if_neg hnone, and_iff_right hnone, Except.error.injEq, eq_comm]

/-! ## Readings -/

theorem parse_of_firstMistake? {error : QueryError}
    (h : raw.firstMistake? catalog model = some error) :
    parse catalog model raw = .error error := by
  simp only [RawQuery.firstMistake?, Option.or_eq_some_iff, mistake?_eq_some_iff,
    mistake?_eq_none_iff] at h
  unfold parse
  rcases h with hfilter | ⟨⟨condition, hfilter⟩, h⟩
  · simp only [hfilter]
    rfl
  rcases h with hloads | ⟨⟨loads, hloads⟩, h⟩
  · simp only [hfilter, hloads]
    rfl
  rcases h with hfields | ⟨⟨fields, hfields⟩, hsort⟩
  · simp only [hfilter, hloads, hfields]
    rfl
  · simp only [hfilter, hloads, hfields, hsort]
    rfl

theorem parse_of_isReading (h : query.IsReading catalog model raw) :
    parse catalog model raw = query.verdict catalog model := by
  obtain ⟨hfilter, hloads, hfields, hsort, hrelations, hpage, hperPage⟩ := h
  obtain ⟨document, -, -, hcolumns⟩ := Condition.compile_eq_ok hfilter
  have hquery : query = ⟨parsePage raw.page, parsePerPage raw.perPage, query.fields, query.sort,
      query.condition, query.loads, EagerLoad.columns model query.loads⟩ := by
    rw [← hrelations, ← hpage, ← hperPage]
  unfold parse
  simp only [hfilter, hloads, hfields, hsort, hcolumns]
  exact congrArg (verdict catalog model) hquery.symm

theorem firstMistake?_eq_none_iff :
    raw.firstMistake? catalog model = none ↔ ∃ query, IsReading catalog model raw query := by
  simp only [RawQuery.firstMistake?, Option.or_eq_none_iff, mistake?_eq_none_iff]
  constructor
  · rintro ⟨⟨condition, hfilter⟩, ⟨loads, hloads⟩, ⟨fields, hfields⟩, ⟨sort, hsort⟩⟩
    exact ⟨⟨parsePage raw.page, parsePerPage raw.perPage, fields, sort, condition, loads,
      EagerLoad.columns model loads⟩, hfilter, hloads, hfields, hsort, rfl, rfl, rfl⟩
  · rintro ⟨query, h⟩
    exact ⟨⟨_, h.condition⟩, ⟨_, h.loads⟩, ⟨_, h.fields⟩, ⟨_, h.sort⟩⟩

theorem parse_cases (catalog : Catalog) (model : Model) (raw : RawQuery) :
    (∃ error, raw.firstMistake? catalog model = some error ∧
      parse catalog model raw = .error error) ∨
    ∃ query, IsReading catalog model raw query ∧
      parse catalog model raw = query.verdict catalog model := by
  cases hfirst : raw.firstMistake? catalog model with
  | some error => exact .inl ⟨error, rfl, parse_of_firstMistake? hfirst⟩
  | none =>
      obtain ⟨query, hquery⟩ := firstMistake?_eq_none_iff.mp hfirst
      exact .inr ⟨query, hquery, parse_of_isReading hquery⟩

theorem parse_eq_ok_iff : parse catalog model raw = .ok query ↔
    query.IsReading catalog model raw ∧
      ∀ column ∈ query.usedColumns, catalog.Knows model column := by
  constructor
  · intro h
    rcases parse_cases catalog model raw with ⟨error, -, hparse⟩ | ⟨read, hread, hparse⟩
    · cases h.symm.trans hparse
    · obtain ⟨rfl, hexist⟩ := verdict_eq_ok_iff.mp (hparse.symm.trans h)
      exact ⟨hread, hexist⟩
  · rintro ⟨hread, hexist⟩
    rw [parse_of_isReading hread]
    exact verdict_eq_ok_iff.mpr ⟨rfl, hexist⟩

theorem parse_eq_error_iff {error : QueryError} : parse catalog model raw = .error error ↔
    raw.firstMistake? catalog model = some error ∨
      ∃ query, IsReading catalog model raw query ∧
        query.undefinedColumns catalog model ≠ [] ∧
        error = .undefinedColumns (query.undefinedColumns catalog model) := by
  constructor
  · intro h
    rcases parse_cases catalog model raw with ⟨first, hfirst, hparse⟩ | ⟨read, hread, hparse⟩
    · cases h.symm.trans hparse
      exact .inl hfirst
    · exact .inr ⟨read, hread, verdict_eq_error_iff.mp (hparse.symm.trans h)⟩
  · rintro (hfirst | ⟨read, hread, hundefined⟩)
    · exact parse_of_firstMistake? hfirst
    · rw [parse_of_isReading hread]
      exact verdict_eq_error_iff.mpr hundefined

/-! ## Pages -/

def onPage (page? perPage? : Option String) (query : Query) : Query :=
  { query with page := parsePage page?, perPage := parsePerPage perPage? }

theorem verdict_onPage (page? perPage? : Option String) :
    (query.onPage page? perPage?).verdict catalog model =
      (query.verdict catalog model).map (onPage page? perPage?) := by
  have hundefined : (query.onPage page? perPage?).undefinedColumns catalog model =
      query.undefinedColumns catalog model := rfl
  rw [verdict_eq, verdict_eq, hundefined]
  split <;> rfl

theorem parse_onPage (catalog : Catalog) (model : Model) (raw : RawQuery)
    (page? perPage? : Option String) :
    parse catalog model { raw with page := page?, perPage := perPage? } =
      (parse catalog model raw).map (onPage page? perPage?) := by
  rcases parse_cases catalog model raw with ⟨error, hfirst, hparse⟩ | ⟨query, hread, hparse⟩
  · rw [hparse]
    exact parse_of_firstMistake? hfirst
  · have hother : (query.onPage page? perPage?).IsReading catalog model
        { raw with page := page?, perPage := perPage? } :=
      ⟨hread.condition, hread.loads, hread.fields, hread.sort, hread.relationColumns, rfl, rfl⟩
    rw [hparse, parse_of_isReading hother, verdict_onPage]

/-- A query is accepted as a whole or rejected with the first of its mistakes, and columns that
do not exist are reported together; the page that is asked for changes nothing but the page. -/
theorem parse_verdict (catalog : Catalog) (model : Model) (raw : RawQuery) :
    (raw.firstMistake? catalog model = none ↔ ∃ query, IsReading catalog model raw query) ∧
      (∀ query, parse catalog model raw = .ok query ↔
        query.IsReading catalog model raw ∧
          ∀ column ∈ query.usedColumns, catalog.Knows model column) ∧
      (∀ error, parse catalog model raw = .error error ↔
        raw.firstMistake? catalog model = some error ∨
          ∃ query, IsReading catalog model raw query ∧
            query.undefinedColumns catalog model ≠ [] ∧
            error = .undefinedColumns (query.undefinedColumns catalog model)) ∧
      ∀ page? perPage?,
        parse catalog model { raw with page := page?, perPage := perPage? } =
          (parse catalog model raw).map fun query =>
            { query with page := parsePage page?, perPage := parsePerPage perPage? } :=
  ⟨firstMistake?_eq_none_iff, fun _ => parse_eq_ok_iff, fun _ => parse_eq_error_iff,
    parse_onPage catalog model raw⟩

end Query

end ListQuery
