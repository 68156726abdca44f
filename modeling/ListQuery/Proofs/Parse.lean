import ListQuery.Proofs.Compile
import ListQuery.Proofs.Cut
import ListQuery.Query.Parse

/-!
# What accepted queries are made of

Every name that an accepted query takes from its client is spelled as a column path, and the
columns that it uses exist.  The rows that it loads are those of relations of its model.
-/

namespace ListQuery

/-! ## Names -/

namespace Column

/-- Letters and digits of ASCII, underscores and dots, with no dot at either end. -/
structure Spelled (text : String) : Prop where
  ne_nil : text.toList ≠ []
  isPathChar : ∀ char ∈ text.toList, char.isAlphanum ∨ char = '_' ∨ char = '.'
  head_ne_dot : text.toList.head? ≠ some '.'
  last_ne_dot : text.toList.getLast? ≠ some '.'

theorem spelled_of_validate {field : String} (h : validate field = .ok ()) : Spelled field := by
  unfold validate at h
  simp only at h
  split at h
  · cases h
  · next hchars =>
      split at h
      · cases h
      · next hdots =>
          simp only [Bool.or_eq_true, Bool.not_eq_true', not_or, Bool.not_eq_true,
            List.isEmpty_eq_false_iff, Bool.not_eq_false, List.all_eq_true, isPathChar,
            decide_eq_true_eq] at hchars
          simp only [Bool.or_eq_true, decide_eq_true_eq, not_or] at hdots
          exact ⟨hchars.1, fun char hmem => or_assoc.mp (hchars.2 char hmem), hdots.1, hdots.2⟩

theorem Spelled.ne_star {field : String} (h : Spelled field) : field ≠ "*" := by
  rintro rfl
  rcases h.isPathChar '*' (by decide) with hchar | hchar | hchar <;> revert hchar <;> decide

end Column

/-! ## Fields and sort fields -/

theorem parseFields_eq_ok {content? : Option String} {fields : List String}
    (h : parseFields content? = .ok fields) :
    fields = [] ∨ fields = ["*"] ∨ ∀ field ∈ fields, Column.Spelled field := by
  unfold parseFields at h
  simp only at h
  split at h
  · cases h
    exact .inl rfl
  · split at h
    · cases h
      exact .inr (.inl rfl)
    · refine .inr (.inr ?_)
      intro field hmem
      obtain ⟨entry, -, hentry⟩ := exists_of_mem_mapM h field hmem
      obtain ⟨_, hvalid, hfield⟩ := exists_of_bind_eq_ok hentry
      cases hfield
      exact Column.spelled_of_validate hvalid

theorem spelled_of_parseSort {content? : Option String} {sort : List SortField}
    (h : parseSort content? = .ok sort) : ∀ field ∈ sort, Column.Spelled field.column := by
  unfold parseSort at h
  simp only at h
  split at h
  · cases h
    simp
  · intro field hmem
    obtain ⟨entry, -, hentry⟩ := exists_of_mem_mapM h field hmem
    obtain ⟨_, hvalid, hfield⟩ := exists_of_bind_eq_ok hentry
    cases hfield
    exact Column.spelled_of_validate hvalid

/-! ## Loads -/

namespace EagerLoad

variable {catalog : Catalog} {model : Model} {path : String} {loads : List EagerLoad}

theorem mem_put {load other : EagerLoad} (h : other ∈ put load loads) :
    other = load ∨ other ∈ loads := by
  induction loads with
  | nil => exact .inl (List.mem_singleton.mp h)
  | cons first loads ih =>
      unfold put at h
      split at h
      · rcases List.mem_cons.mp h with rfl | hmem
        · exact .inl rfl
        · exact .inr (List.mem_cons_of_mem first hmem)
      · rcases List.mem_cons.mp h with rfl | hmem
        · exact .inr List.mem_cons_self
        · exact (ih hmem).imp_right (List.mem_cons_of_mem first)

theorem find_eq_ok {name : String} {load : EagerLoad}
    (h : find path model loads name = .ok load) :
    load ∈ loads ∨ load.relation ∈ model.relations := by
  unfold find at h
  split at h
  · next found hfound =>
      cases h
      exact .inl (List.mem_of_find?_eq_some hfound)
  · split at h
    · next relation hrelation =>
        cases h
        exact .inr (List.mem_of_find?_eq_some hrelation)
    · cases h

theorem relation_mem_of_insert {segments : List String} {result : List EagerLoad}
    (h : insert catalog path model segments loads = .ok result)
    (hloads : ∀ load ∈ loads, load.relation ∈ model.relations) :
    ∀ load ∈ result, load.relation ∈ model.relations := by
  have hfound : ∀ name load, find path model loads name = .ok load →
      load.relation ∈ model.relations :=
    fun _ load hfind => (find_eq_ok hfind).elim (hloads load) id
  rcases segments with _ | ⟨name, _ | ⟨segment, segments⟩⟩
  · cases h
    exact hloads
  · rw [insert] at h
    obtain ⟨load, hfind, h⟩ := exists_of_bind_eq_ok h
    cases h
    intro other hother
    rcases mem_put hother with rfl | hother
    · exact hfound name _ hfind
    · exact hloads other hother
  · rw [insert] at h
    obtain ⟨load, hfind, h⟩ := exists_of_bind_eq_ok h
    split at h
    · cases h
    · -- Whatever is added below a load, its relation stays.
      obtain ⟨children, -, h⟩ := exists_of_bind_eq_ok h
      cases h
      intro other hother
      rcases mem_put hother with rfl | hother
      · exact hfound name load hfind
      · exact hloads other hother

theorem relation_mem_of_resolve {directive : String}
    (h : resolve catalog model directive = .ok loads) :
    ∀ load ∈ loads, load.relation ∈ model.relations :=
  of_foldlM_eq_ok (fun loads => ∀ load ∈ loads, load.relation ∈ model.relations)
    (fun _ _ _ hloads hinsert => relation_mem_of_insert hinsert hloads) h (by simp)

theorem exists_of_mem_columns (h : path ∈ columns model loads) :
    ∃ load ∈ loads, path = model.qualify load.relation.foreignKey := by
  rw [columns, List.mem_eraseDups, List.mem_map] at h
  obtain ⟨load, hmem, rfl⟩ := h
  exact ⟨load, hmem, rfl⟩

end EagerLoad

/-! ## Queries -/

namespace Query

variable {catalog : Catalog} {model : Model} {raw : RawQuery} {query : Query}

theorem checkColumns_eq_ok {checked : Query} {columns : List String}
    (h : query.checkColumns catalog model columns = .ok checked) :
    checked = query ∧ ∀ column ∈ query.namedColumns ++ columns,
      columnExists catalog model column = true := by
  unfold checkColumns at h
  split at h
  · next hnone =>
      cases h
      refine ⟨rfl, ?_⟩
      intro column hmem
      simpa using List.filter_eq_nil_iff.mp hnone column hmem
  · cases h

theorem parse_eq_ok (h : parse catalog model raw = .ok query) :
    (Condition.compile catalog model raw.filter).result = .ok query.condition ∧
      EagerLoad.resolve catalog model (raw.loads.getD "") = .ok query.loads ∧
      parseFields raw.fields = .ok query.fields ∧
      parseSort raw.sort = .ok query.sort ∧
      query.relationColumns = EagerLoad.columns model query.loads ∧
      query.page = parsePage raw.page ∧ query.perPage = parsePerPage raw.perPage ∧
      ∀ column ∈ query.namedColumns ++ query.condition.predicates.map Predicate.column,
        columnExists catalog model column = true := by
  obtain ⟨condition, hcondition, h⟩ := exists_of_bind_eq_ok h
  obtain ⟨loads, hloads, h⟩ := exists_of_bind_eq_ok h
  obtain ⟨fields, hfields, h⟩ := exists_of_bind_eq_ok h
  obtain ⟨sort, hsort, h⟩ := exists_of_bind_eq_ok h
  obtain ⟨document, -, -, hcolumns⟩ := Condition.compile_eq_ok hcondition
  rw [hcolumns] at h
  obtain ⟨rfl, hexist⟩ := checkColumns_eq_ok h
  exact ⟨hcondition, hloads, hfields, hsort, rfl, rfl, rfl, hexist⟩

end Query

end ListQuery
