import ListQuery.Proofs.Reading

/-!
# Lists of columns

Fields and sort fields are columns between commas, and each piece is right or wrong on its own.
What is read is written again piece by piece, and then read as the same list.  An asterisk is a
list of fields only if it stands alone, where blanks around it do not count.
-/

namespace ListQuery

open Column

/-! ## Entries to sort by -/

namespace SortField

inductive Mark where
  | none
  | plus
  | minus
  | minusPlus
  deriving DecidableEq, Repr

namespace Mark

def text : Mark → String
  | .none => ""
  | .plus => "+"
  | .minus => "-"
  | .minusPlus => "-+"

def direction : Mark → Direction
  | .none | .plus => .ascending
  | .minus | .minusPlus => .descending

theorem eq_of_text_eq {first second : Mark} (h : first.text = second.text) :
    first = second := by
  revert h
  cases first <;> cases second <;> decide

theorem text_ne_lead (mark : Mark) : ∀ char ∈ mark.text.toList, ¬ isPathChar char := by
  have hmarks : mark.text.toList.all (fun char => !isPathChar char) = true := by
    cases mark <;> decide
  simpa using hmarks

end Mark

/-- The entry is the column behind the mark, and no longer mark begins the entry. -/
structure IsMarked (entry : String) (mark : Mark) (column : String) : Prop where
  eq_append : entry = mark.text ++ column
  longest : ∀ other : Mark, other.text.toList <+: entry.toList →
    other.text.length ≤ mark.text.length

structure IsRead (entry : String) (field : SortField) : Prop where
  marked : ∃ mark : Mark, entry = mark.text ++ field.column
  descending_iff : field.direction = .descending ↔ "-".toList <+: entry.toList
  validate_eq : validate field.column = .ok ()

def written (field : SortField) : String :=
  match field.direction with
  | .ascending => field.column
  | .descending => "-" ++ field.column

/-! ## How entries are read -/

variable {entry column : String} {mark : Mark} {field : SortField}

theorem begins_minus_of_minusPlus (h : Mark.minusPlus.text.toList <+: entry.toList) :
    "-".toList <+: entry.toList :=
  (List.prefix_append "-".toList "+".toList).trans h

theorem exists_isMarked (entry : String) : ∃ mark column,
    IsMarked entry mark column ∧ split entry = (column, mark.direction) := by
  cases hminus : Text.after? "-" entry with
  | some rest =>
      have hentry : entry = "-" ++ rest := Text.eq_append_of_after? hminus
      cases hplus : Text.after? "+" rest with
      | some column =>
          have hrest : rest = "+" ++ column := Text.eq_append_of_after? hplus
          refine ⟨.minusPlus, column, ⟨?_, ?_⟩,
            by simp [split, dropPlus, hminus, hplus, Mark.direction]⟩
          · rw [hentry, hrest, ← String.append_assoc]
            rfl
          · intro other _
            cases other <;> decide
      | none =>
          have hrest := Text.after?_eq_none_iff.mp hplus
          refine ⟨.minus, rest, ⟨hentry, ?_⟩,
            by simp [split, dropPlus, hminus, hplus, Mark.direction]⟩
          intro other hother
          cases other with
          | minusPlus =>
              rw [hentry, String.toList_append] at hother
              exact absurd ((List.prefix_append_right_inj "-".toList).mp hother) hrest
          | _ => decide
  | none =>
      have hfirst := Text.after?_eq_none_iff.mp hminus
      cases hplus : Text.after? "+" entry with
      | some column =>
          have hentry : entry = "+" ++ column := Text.eq_append_of_after? hplus
          refine ⟨.plus, column, ⟨hentry, ?_⟩,
            by simp [split, dropPlus, hminus, hplus, Mark.direction]⟩
          intro other hother
          cases other with
          | minusPlus => exact absurd (begins_minus_of_minusPlus hother) hfirst
          | _ => decide
      | none =>
          have hsecond := Text.after?_eq_none_iff.mp hplus
          refine ⟨.none, entry, ⟨String.empty_append.symm, ?_⟩,
            by simp [split, dropPlus, hminus, hplus, Mark.direction]⟩
          intro other hother
          cases other with
          | none => decide
          | plus => exact absurd hother hsecond
          | minus => exact absurd hother hfirst
          | minusPlus => exact absurd (begins_minus_of_minusPlus hother) hfirst

theorem IsMarked.split_eq (h : IsMarked entry mark column) :
    split entry = (column, mark.direction) := by
  obtain ⟨found, rest, hfound, hsplit⟩ := exists_isMarked entry
  have hbegins {mark : Mark} {column : String} (h : IsMarked entry mark column) :
      mark.text.toList <+: entry.toList := by
    rw [h.eq_append]
    exact Text.begins_append _ _
  have hlength : mark.text.toList.length = found.text.toList.length :=
    Nat.le_antisymm (hfound.longest mark (hbegins h)) (h.longest found (hbegins hfound))
  -- Two beginnings of an entry that are equally long are the same.
  have htext : mark.text = found.text :=
    String.toList_inj.mp (List.prefix_of_prefix_length_le (hbegins h) (hbegins hfound)
      hlength.le |>.eq_of_length hlength)
  obtain rfl := Mark.eq_of_text_eq htext
  obtain rfl := (String.append_right_inj _).mp (h.eq_append.symm.trans hfound.eq_append)
  exact hsplit

theorem IsMarked.ofEntry_eq (h : IsMarked entry mark column) :
    ofEntry entry = (validate column).map fun _ => ⟨column, mark.direction⟩ := by
  rw [ofEntry, h.split_eq]
  cases hvalid : validate column <;> simp [hvalid, bind, Except.bind, pure, Except.pure, Except.map]

/-- What is no character of a path is taken as a mark, so a mark ends where a path begins. -/
theorem isMarked_append (mark : Mark) (h : Spelled column) :
    IsMarked (mark.text ++ column) mark column := by
  refine ⟨rfl, fun other hother => ?_⟩
  by_contra hlonger
  rw [String.toList_append] at hother
  obtain ⟨rest, hrest⟩ := List.prefix_of_prefix_length_le (List.prefix_append _ column.toList)
    hother (Nat.le_of_not_le hlonger)
  rw [← hrest, List.prefix_append_right_inj] at hother
  cases rest with
  | nil =>
      have hlength := congrArg List.length hrest
      rw [List.append_nil] at hlength
      exact hlonger hlength.ge
  | cons char rest =>
      have hmark : char ∈ other.text.toList := by
        rw [← hrest]
        simp
      exact h.not_mem char (other.text_ne_lead char hmark) (hother.subset List.mem_cons_self)

theorem begins_minus_iff (mark : Mark) (h : Spelled column) :
    "-".toList <+: (mark.text ++ column).toList ↔ mark.direction = .descending := by
  have hcolumn : ¬ "-".toList <+: column.toList := fun hbegins =>
    h.not_mem '-' (by decide) (hbegins.subset (by decide))
  cases mark with
  | none =>
      rw [show Mark.none.text ++ column = column from String.empty_append]
      simpa [Mark.direction] using hcolumn
  | _ => simp [Mark.text, Mark.direction]

theorem ofEntry_eq_ok_iff : ofEntry entry = .ok field ↔ IsRead entry field := by
  constructor
  · intro h
    obtain ⟨mark, column, hmarked, -⟩ := exists_isMarked entry
    rw [hmarked.ofEntry_eq] at h
    obtain ⟨_, hvalid, rfl⟩ := exists_of_map_eq_ok h
    have hminus := begins_minus_iff mark (spelled_of_validate hvalid)
    rw [← hmarked.eq_append] at hminus
    exact ⟨⟨mark, hmarked.eq_append⟩, hminus.symm, hvalid⟩
  · rintro ⟨⟨mark, rfl⟩, hdescending, hvalid⟩
    have hspelled := spelled_of_validate hvalid
    rw [begins_minus_iff mark hspelled] at hdescending
    have hdirection : mark.direction = field.direction := by
      cases hmark : mark.direction <;> cases hfield : field.direction <;> simp_all
    rw [(isMarked_append mark hspelled).ofEntry_eq, hvalid, hdirection]
    rfl

theorem ofEntry_eq_error_iff {error : QueryError} : ofEntry entry = .error error ↔
    ∃ mark column, IsMarked entry mark column ∧ validate column = .error error := by
  constructor
  · intro h
    obtain ⟨mark, column, hmarked, -⟩ := exists_isMarked entry
    rw [hmarked.ofEntry_eq] at h
    refine ⟨mark, column, hmarked, ?_⟩
    cases hvalid : validate column with
    | error found =>
        rw [hvalid] at h
        cases h
        rfl
    | ok value =>
        rw [hvalid] at h
        cases h
  · rintro ⟨mark, column, hmarked, hinvalid⟩
    rw [hmarked.ofEntry_eq, hinvalid]
    rfl

/-! ## How entries are written -/

theorem written_eq_append (field : SortField) :
    ∃ mark : Mark, field.written = mark.text ++ field.column ∧
      mark.direction = field.direction := by
  cases hdirection : field.direction with
  | ascending => exact ⟨.none, by simp [written, hdirection, Mark.text], rfl⟩
  | descending => exact ⟨.minus, by simp [written, hdirection, Mark.text], rfl⟩

theorem isRead_written (h : validate field.column = .ok ()) : IsRead field.written field := by
  obtain ⟨mark, hwritten, hdirection⟩ := written_eq_append field
  have hminus := begins_minus_iff mark (spelled_of_validate h)
  rw [← hwritten, hdirection] at hminus
  exact ⟨⟨mark, hwritten⟩, hminus.symm, h⟩

theorem not_mem_written (h : validate field.column = .ok ()) : ',' ∉ field.written.toList := by
  obtain ⟨mark, hwritten, -⟩ := written_eq_append field
  have hmark : ',' ∉ mark.text.toList := by
    cases mark <;> decide
  rw [hwritten, String.toList_append, List.mem_append]
  exact not_or.mpr ⟨hmark, (spelled_of_validate h).not_mem ',' (by decide)⟩

theorem written_ne_empty (h : validate field.column = .ok ()) : field.written ≠ "" := by
  obtain ⟨mark, hwritten, -⟩ := written_eq_append field
  rw [hwritten, Ne, String.append_eq_empty_iff]
  rintro ⟨-, hcolumn⟩
  exact (spelled_of_validate h).ne_nil (String.toList_eq_nil_iff.mpr hcolumn)

end SortField

/-! ## Lists to sort by -/

open SortField

variable {content : String}

theorem parseSort_of_ne (h : content ≠ "") :
    parseSort (some content) = (Text.splitOn ',' content).mapM ofEntry := by
  simp [parseSort, h]

theorem parseSort_eq_ok_iff (h : content ≠ "") {sort : List SortField} :
    parseSort (some content) = .ok sort ↔
      List.Forall₂ IsRead (Text.splitOn ',' content) sort := by
  rw [parseSort_of_ne h, mapM_eq_ok_iff]
  simp only [ofEntry_eq_ok_iff]

theorem exists_isRead_iff {entry : String} : (∃ field, IsRead entry field) ↔
    ∃ mark : Mark, ∃ column, entry = mark.text ++ column ∧ validate column = .ok () := by
  constructor
  · rintro ⟨field, ⟨mark, hmark⟩, -, hvalid⟩
    exact ⟨mark, field.column, hmark, hvalid⟩
  · rintro ⟨mark, column, rfl, hvalid⟩
    have hminus := begins_minus_iff mark (spelled_of_validate hvalid)
    exact ⟨⟨column, mark.direction⟩, ⟨mark, rfl⟩, hminus.symm, hvalid⟩

theorem exists_parseSort_iff (h : content ≠ "") :
    (∃ sort, parseSort (some content) = .ok sort) ↔
      ∀ entry ∈ Text.splitOn ',' content, ∃ mark : Mark, ∃ column,
        entry = mark.text ++ column ∧ validate column = .ok () := by
  rw [parseSort_of_ne h, exists_mapM_iff]
  simp only [ofEntry_eq_ok_iff, exists_isRead_iff]

theorem parseSort_eq_error_iff (h : content ≠ "") {error : QueryError} :
    parseSort (some content) = .error error ↔
      ∃ front entry back mark column, Text.splitOn ',' content = front ++ entry :: back ∧
        (∀ other ∈ front, ∃ field, IsRead other field) ∧ IsMarked entry mark column ∧
        validate column = .error error := by
  rw [parseSort_of_ne h, mapM_eq_error_iff]
  simp only [ofEntry_eq_ok_iff, ofEntry_eq_error_iff, exists_and_left]

theorem parseSort_written {sort : List SortField} (hne : sort ≠ [])
    (h : ∀ field ∈ sort, validate field.column = .ok ()) :
    parseSort (some (",".intercalate (sort.map written))) = .ok sort := by
  have hparts : sort.map written ≠ [] := by simpa using hne
  have hcomma : ∀ part ∈ sort.map written, ',' ∉ part.toList := by
    simpa using fun field hfield => not_mem_written (h field hfield)
  have hsome : ∀ part ∈ sort.map written, part ≠ "" := by
    simpa using fun field hfield => written_ne_empty (h field hfield)
  have hcontent : ",".intercalate (sort.map written) ≠ "" :=
    Text.intercalate_ne_empty hparts hcomma hsome
  have hpieces : Text.splitOn ',' (",".intercalate (sort.map written)) = sort.map written :=
    Text.splitOn_intercalate hparts hcomma
  rw [parseSort_eq_ok_iff hcontent, hpieces, List.forall₂_map_left_iff, List.forall₂_same]
  exact fun field hfield => isRead_written (h field hfield)

theorem ne_nil_of_parseSort (h : content ≠ "") {sort : List SortField}
    (hsort : parseSort (some content) = .ok sort) : sort ≠ [] := by
  rintro rfl
  have hpieces := (parseSort_eq_ok_iff h).mp hsort
  exact Text.splitOn_ne_nil _ _ (List.forall₂_nil_right_iff.mp hpieces)

theorem parseSort_reprinted (h : content ≠ "") {sort : List SortField}
    (hsort : parseSort (some content) = .ok sort) :
    parseSort (some (",".intercalate (sort.map written))) = .ok sort :=
  parseSort_written (ne_nil_of_parseSort h hsort)
    fun field hfield => (spelled_of_parseSort hsort field hfield).validate_eq_ok

/-! ## Lists of fields -/

variable {fields : List String}

theorem parseFields_of_ne (h : content ≠ "") (hstar : Text.trim content ≠ "*") :
    parseFields (some content) = (Text.splitOn ',' content).mapM fun field => do
      validate field
      return field := by
  simp [parseFields, h, hstar]

theorem parseFields_of_star (hstar : Text.trim content = "*") :
    parseFields (some content) = .ok ["*"] := by
  have hne : content ≠ "" := by
    rintro rfl
    exact absurd hstar (by decide)
  simp [parseFields, hne, hstar]

theorem keep_eq_ok_iff {field kept : String} :
    (do validate field; return field : Except QueryError String) = .ok kept ↔
      validate field = .ok () ∧ field = kept := by
  cases validate field <;> simp [bind, Except.bind, pure, Except.pure]

theorem keep_eq_error_iff {field : String} {error : QueryError} :
    (do validate field; return field : Except QueryError String) = .error error ↔
      validate field = .error error := by
  cases validate field <;> simp [bind, Except.bind, pure, Except.pure]

theorem parseFields_eq_ok_iff (h : content ≠ "") (hstar : Text.trim content ≠ "*") :
    parseFields (some content) = .ok fields ↔
      fields = Text.splitOn ',' content ∧
        ∀ piece ∈ Text.splitOn ',' content, validate piece = .ok () := by
  rw [parseFields_of_ne h hstar, mapM_eq_ok_iff]
  simp only [keep_eq_ok_iff]
  rw [List.forall₂_and_left, List.forall₂_eq_eq_eq, and_comm, eq_comm]

theorem parseFields_eq_error_iff (h : content ≠ "") {error : QueryError} :
    parseFields (some content) = .error error ↔ Text.trim content ≠ "*" ∧
      ∃ front piece back, Text.splitOn ',' content = front ++ piece :: back ∧
        (∀ other ∈ front, validate other = .ok ()) ∧ validate piece = .error error := by
  by_cases hstar : Text.trim content = "*"
  · simp [parseFields_of_star hstar, hstar]
  · rw [parseFields_of_ne h hstar, mapM_eq_error_iff]
    simp only [keep_eq_ok_iff, keep_eq_error_iff, exists_and_left, exists_eq', and_true, ne_eq,
      hstar, not_false_eq_true, true_and]

theorem not_mem_of_validate (h : ∀ field ∈ fields, validate field = .ok ()) :
    "*" ∉ fields :=
  fun hmem => (spelled_of_validate (h "*" hmem)).ne_star rfl

theorem parseFields_eq_star_iff (h : content ≠ "") :
    parseFields (some content) = .ok ["*"] ↔ Text.trim content = "*" := by
  refine ⟨fun hfields => ?_, parseFields_of_star⟩
  by_contra hstar
  obtain ⟨hpieces, hvalid⟩ := (parseFields_eq_ok_iff h hstar).mp hfields
  rw [← hpieces] at hvalid
  exact not_mem_of_validate hvalid (List.mem_singleton_self "*")

theorem eq_star_of_mem (h : content ≠ "") (hfields : parseFields (some content) = .ok fields)
    (hmem : "*" ∈ fields) : fields = ["*"] := by
  by_cases hstar : Text.trim content = "*"
  · exact (Except.ok.inj (hfields.symm.trans (parseFields_of_star hstar)))
  · obtain ⟨rfl, hvalid⟩ := (parseFields_eq_ok_iff h hstar).mp hfields
    exact absurd hmem (not_mem_of_validate hvalid)

theorem parseFields_reprinted (h : content ≠ "")
    (hfields : parseFields (some content) = .ok fields) :
    parseFields (some (",".intercalate fields)) = .ok fields := by
  by_cases hstar : Text.trim content = "*"
  · obtain rfl := Except.ok.inj (hfields.symm.trans (parseFields_of_star hstar))
    exact parseFields_of_star (by decide)
  · obtain ⟨rfl, hvalid⟩ := (parseFields_eq_ok_iff h hstar).mp hfields
    have hcontent : ",".intercalate (Text.splitOn ',' content) = content :=
      Text.intercalate_splitOn ',' content
    rw [hcontent]
    exact hfields

theorem selectsAll_iff {query : Query} (h : content ≠ "")
    (hfields : parseFields (some content) = .ok query.fields) :
    query.selectsAll = true ↔ Text.trim content = "*" := by
  rw [← parseFields_eq_star_iff h, hfields, Except.ok.injEq]
  have hsome : query.fields ≠ [] := by
    intro hnone
    rw [hnone] at hfields
    by_cases hstar : Text.trim content = "*"
    · cases hfields.symm.trans (parseFields_of_star hstar)
    · exact Text.splitOn_ne_nil _ _ ((parseFields_eq_ok_iff h hstar).mp hfields).1.symm
  simp [Query.selectsAll, hsome]

/-! ## Both lists -/

/-- Each piece of a list is accepted on its own, the first that is not decides the error, and a
list that was accepted is read again from how it is written. -/
theorem columnLists_of_text (h : content ≠ "") :
    ((∃ sort, parseSort (some content) = .ok sort) ↔
        ∀ entry ∈ Text.splitOn ',' content, ∃ mark : Mark, ∃ column,
          entry = mark.text ++ column ∧ validate column = .ok ()) ∧
      (∀ sort, parseSort (some content) = .ok sort ↔
        List.Forall₂ IsRead (Text.splitOn ',' content) sort) ∧
      (∀ error, parseSort (some content) = .error error ↔
        ∃ front entry back mark column, Text.splitOn ',' content = front ++ entry :: back ∧
          (∀ other ∈ front, ∃ field, IsRead other field) ∧ IsMarked entry mark column ∧
          validate column = .error error) ∧
      (∀ sort, parseSort (some content) = .ok sort →
        parseSort (some (",".intercalate (sort.map written))) = .ok sort) ∧
      (parseFields (some content) = .ok ["*"] ↔ Text.trim content = "*") ∧
      (Text.trim content ≠ "*" → ∀ fields, parseFields (some content) = .ok fields ↔
        fields = Text.splitOn ',' content ∧
          ∀ piece ∈ Text.splitOn ',' content, validate piece = .ok ()) ∧
      (∀ error, parseFields (some content) = .error error ↔ Text.trim content ≠ "*" ∧
        ∃ front piece back, Text.splitOn ',' content = front ++ piece :: back ∧
          (∀ other ∈ front, validate other = .ok ()) ∧ validate piece = .error error) ∧
      (∀ fields, parseFields (some content) = .ok fields →
        parseFields (some (",".intercalate fields)) = .ok fields ∧
          ("*" ∈ fields → fields = ["*"])) ∧
      ∀ query : Query, parseFields (some content) = .ok query.fields →
        (query.selectsAll = true ↔ query.fields = [] ∨ query.fields = ["*"]) ∧
          (query.selectsAll = true ↔ Text.trim content = "*") := by
  refine ⟨exists_parseSort_iff h, fun _ => parseSort_eq_ok_iff h,
    fun _ => parseSort_eq_error_iff h, fun _ => parseSort_reprinted h,
    parseFields_eq_star_iff h, fun hstar _ => parseFields_eq_ok_iff h hstar,
    fun _ => parseFields_eq_error_iff h, fun fields hfields => ?_, fun query hfields => ?_⟩
  · exact ⟨parseFields_reprinted h hfields, eq_star_of_mem h hfields⟩
  · exact ⟨by simp [Query.selectsAll], selectsAll_iff h hfields⟩

theorem columnLists_of_signs :
    let content := "-users.id,+age,-+name"
    let sort : List SortField :=
      [⟨"users.id", .descending⟩, ⟨"age", .ascending⟩, ⟨"name", .descending⟩]
    content ≠ "" ∧ parseSort (some content) = .ok sort ∧
      parseSort (some "-users.id,age,-name") = .ok sort ∧
      parseFields (some content) = .error (.invalidColumn "-users.id" .unacceptableName) := by
  intro content sort
  have hne : content ≠ "" := by decide
  have hpieces : Text.splitOn ',' content = ["-users.id", "+age", "-+name"] := by
    decide +kernel
  obtain ⟨-, hsort, -, hreprinted, -, -, hfields, -, -⟩ := columnLists_of_text hne
  have hread : parseSort (some content) = .ok sort := by
    rw [hsort, hpieces]
    exact .cons ⟨⟨.minus, rfl⟩, by decide, rfl⟩ (.cons ⟨⟨.plus, rfl⟩, by decide, rfl⟩
      (.cons ⟨⟨.minusPlus, rfl⟩, by decide, rfl⟩ .nil))
  refine ⟨hne, hread, hreprinted sort hread, ?_⟩
  rw [hfields, hpieces]
  exact ⟨by decide +kernel, [], "-users.id", _, rfl, by simp, rfl⟩

end ListQuery
