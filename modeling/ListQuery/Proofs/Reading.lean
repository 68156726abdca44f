import ListQuery.Proofs.Cut
import ListQuery.Proofs.Parse

/-!
# Reading a filter of one key

A key that is spelled as a column path stands for itself in a document, and nothing is
stripped from it.  A filter that asks whether a column of the model is null is therefore read
as its one pair and compiled to the predicate of this pair.
-/

namespace ListQuery

/-! ## Characters of column paths -/

namespace Column.Spelled

variable {path : String}

theorem not_mem (h : Spelled path) (char : Char) (hchar : ¬ Column.isPathChar char) :
    char ∉ path.toList := by
  intro hmem
  have hspelled := h.isPathChar char hmem
  apply hchar
  simpa [Column.isPathChar, or_assoc] using hspelled

theorem validate_eq_ok (h : Spelled path) : validate path = .ok () := by
  have hempty : path.toList.isEmpty = false := by simpa using h.ne_nil
  have hall : path.toList.all Column.isPathChar = true := by
    rw [List.all_eq_true]
    intro char hchar
    simpa [Column.isPathChar, or_assoc] using h.isPathChar char hchar
  unfold validate
  simp [hempty, hall, h.head_ne_dot, h.last_ne_dot]

end Column.Spelled

namespace Column

theorem between_of_isAlphanum {char : Char} (h : char.isAlphanum) : '0' ≤ char ∧ char ≤ 'z' := by
  have hclasses : (decide ('A'.val ≤ char.val ∧ char.val ≤ 'Z'.val) ||
      decide ('a'.val ≤ char.val) && decide (char.val ≤ 'z'.val) ||
      decide ('0'.val ≤ char.val) && decide (char.val ≤ '9'.val)) = true := h
  simp only [Bool.or_eq_true, Bool.and_eq_true, decide_eq_true_eq] at hclasses
  rw [Char.le_def, Char.le_def]
  rcases hclasses with (⟨hlow, hhigh⟩ | ⟨hlow, hhigh⟩) | ⟨hlow, hhigh⟩
  · exact ⟨UInt32.le_trans (by decide) hlow, UInt32.le_trans hhigh (by decide)⟩
  · exact ⟨UInt32.le_trans (by decide) hlow, hhigh⟩
  · exact ⟨hlow, UInt32.le_trans hhigh (by decide)⟩

structure IsName (text : String) : Prop where
  ne_nil : text.toList ≠ []
  isNameChar : ∀ char ∈ text.toList, char.isAlphanum ∨ char = '_'

instance (text : String) : Decidable (IsName text) :=
  decidable_of_iff (text.toList ≠ [] ∧
      text.toList.all (fun char => char.isAlphanum || decide (char = '_')) = true)
    ⟨fun h => ⟨h.1, by simpa using h.2⟩, fun h => ⟨h.ne_nil, by simpa using h.isNameChar⟩⟩

theorem isName_iff {text : String} : IsName text ↔ Spelled text ∧ '.' ∉ text.toList := by
  constructor
  · rintro ⟨hne, hchars⟩
    have hdot : '.' ∉ text.toList := by
      intro hmem
      rcases hchars '.' hmem with halphanum | hunderscore
      · exact absurd halphanum (by decide)
      · exact absurd hunderscore (by decide)
    refine ⟨⟨hne, ?_, ?_, ?_⟩, hdot⟩
    · intro char hmem
      exact (hchars char hmem).imp_right .inl
    · exact fun hhead => hdot (List.mem_of_head? hhead)
    · exact fun hlast => hdot (List.mem_of_getLast? hlast)
  · rintro ⟨hspelled, hdot⟩
    refine ⟨hspelled.ne_nil, fun char hmem => ?_⟩
    rcases hspelled.isPathChar char hmem with halphanum | hunderscore | rfl
    · exact .inl halphanum
    · exact .inr hunderscore
    · exact absurd hmem hdot

end Column

/-! ## Documents -/

namespace Json

/-- The characters that stand for themselves in a text of a document. -/
def IsPlain (char : Char) : Prop := char ≠ '"' ∧ char ≠ '\\' ∧ ¬ char < ' '

theorem isPlain_of_mem {path : String} (h : Column.Spelled path) :
    ∀ char ∈ path.toList, IsPlain char := by
  intro char hchar
  -- The least of the characters of a path is the dot.
  have hleast : '.' ≤ char := by
    rcases h.isPathChar char hchar with halphanum | rfl | rfl
    · exact Char.le_trans (by decide) (Column.between_of_isAlphanum halphanum).1
    · decide
    · decide
  refine ⟨?_, ?_, ?_⟩
  · rintro rfl
    revert hleast
    decide
  · rintro rfl
    exact h.not_mem '\\' (by decide) hchar
  · rw [Char.not_lt]
    exact Char.le_trans (by decide) hleast

theorem Scanner.foldlM_step?_of_plain (tokens : List Token) (spelled : List Char)
    {chars : List Char} (hplain : ∀ char ∈ chars, IsPlain char) :
    chars.foldlM Scanner.step? ⟨tokens, .text spelled none⟩ =
      some ⟨tokens, .text (chars.reverse ++ spelled) none⟩ := by
  induction chars generalizing spelled with
  | nil => rfl
  | cons char chars ih =>
      obtain ⟨hquote, hescape, hcontrol⟩ := hplain char List.mem_cons_self
      have hstep : Scanner.step? ⟨tokens, .text spelled none⟩ char =
          some ⟨tokens, .text (char :: spelled) none⟩ := by
        simp [Scanner.step?, hquote, hescape, hcontrol]
      have hrest := ih (char :: spelled)
        (fun other hother => hplain other (List.mem_cons_of_mem char hother))
      rw [List.foldlM_cons, hstep]
      simpa using hrest

theorem toList_pairText_null (key : String) :
    (Filter.pairText key .null).toList =
      "\x7b\"".toList ++ (key.toList ++ "\":null\x7d".toList) := by
  simp [Filter.pairText, write]

theorem tokens?_pairText_null {key : String} (hplain : ∀ char ∈ key.toList, IsPlain char) :
    tokens? (Filter.pairText key .null).toList =
      some [.openObject, .text key, .colon, .null, .closeObject] := by
  have hstart : "\x7b\"".toList.foldlM Scanner.step? ⟨[], .between⟩ =
      some ⟨[.openObject], .text [] none⟩ := by
    rfl
  have hkey := Scanner.foldlM_step?_of_plain [.openObject] [] hplain
  rw [List.append_nil] at hkey
  have hend : "\":null\x7d".toList.foldlM Scanner.step?
      ⟨[.openObject], .text key.toList.reverse none⟩ =
      some ⟨[.closeObject, .null, .colon, .text (String.ofList key.toList.reverse.reverse),
        .openObject], .between⟩ := by
    rfl
  rw [tokens?, toList_pairText_null]
  simp only [List.foldlM_append, Option.bind_eq_bind, Option.bind_some, hstart, hkey, hend,
    List.reverse_reverse, String.ofList_toList]
  rfl

theorem read?_pairText_null {key : String} (hplain : ∀ char ∈ key.toList, IsPlain char) :
    read? (Filter.pairText key .null) = some (.object [(key, .null)]) := by
  rw [read?, readWithin?, tokens?_pairText_null hplain]
  rfl

end Json

/-! ## Payloads -/

namespace Condition

theorem dropEscapedSpaces_of_not_mem {chars : List Char} (h : '%' ∉ chars) :
    dropEscapedSpaces chars = chars := by
  fun_induction dropEscapedSpaces chars with
  | case1 rest ih => exact absurd List.mem_cons_self h
  | case2 char rest _ ih => rw [ih (fun hmem => h (List.mem_cons_of_mem char hmem))]
  | case3 => rfl

theorem stripPayload_of_not_mem {payload : String} (hescape : '%' ∉ payload.toList)
    (hspace : ' ' ∉ payload.toList) : stripPayload payload = payload := by
  have hkept : payload.toList.filter (· ≠ ' ') = payload.toList := by
    rw [List.filter_eq_self]
    intro char hchar
    simpa using ne_of_mem_of_not_mem hchar hspace
  rw [stripPayload, dropEscapedSpaces_of_not_mem hescape, hkept, String.ofList_toList]

theorem document?_of_read? {payload : String} {document : Json}
    (hescape : '%' ∉ payload.toList) (hspace : ' ' ∉ payload.toList)
    (hread : Json.read? payload = some document) :
    document? (some payload) = some document := by
  have hempty : payload.isEmpty = false := by
    rw [String.isEmpty_eq_false_iff]
    rintro rfl
    cases hread
  rw [document?, Option.getD_some, stripPayload_of_not_mem hescape hspace, hempty]
  exact hread

theorem document?_pairText_null {path : String} (h : Column.Spelled path) :
    document? (some (Filter.pairText path .null)) = some (.object [(path, .null)]) := by
  have hchars := Json.toList_pairText_null path
  have hescape : '%' ∉ (Filter.pairText path .null).toList := by
    rw [hchars]
    simp [h.not_mem '%' (by decide)]
  have hspace : ' ' ∉ (Filter.pairText path .null).toList := by
    rw [hchars]
    simp [h.not_mem ' ' (by decide)]
  exact document?_of_read? hescape hspace (Json.read?_pairText_null (Json.isPlain_of_mem h))

end Condition

/-! ## Predicates -/

def Predicate.nullTest (model : Model) (column : String) : Predicate :=
  ⟨none, model.name, model.table, column, .null .isNull, none⟩

theorem Predicate.ofPair_null (catalog : Catalog) (model : Model) {path : String}
    (h : Column.Spelled path) (hbare : '.' ∉ path.toList) :
    ofPair catalog model path .null = .ok (nullTest model path) := by
  -- Links and endings have a dollar sign, which no column path has.
  have hdollar : '$' ∉ path.toList := h.not_mem '$' (by decide)
  have hor : Text.after? "$or." path = none :=
    Text.after?_eq_none_of_not_mem '$' (by decide) hdollar
  have hand : Text.after? "$and." path = none :=
    Text.after?_eq_none_of_not_mem '$' (by decide) hdollar
  have hnot : Text.before? ".$not" path = none :=
    Text.before?_eq_none_of_not_mem '$' (by decide) hdollar
  have hsplit : Connective.split path = (none, path) := by
    unfold Connective.split
    simp only [hor, hand]
  have hfield : Filter.ofField path path .null = .ok (path, .null .isNull) := by
    unfold Filter.ofField
    simp only [Json.isNull, if_true, hnot]
  have hlocate : locate catalog model none path (.null .isNull) =
      .ok (nullTest model path) := by
    unfold locate
    rw [Text.cutAt?_eq_none_iff.mpr hbare]
    rfl
  have hvalid : Column.validate (nullTest model path).field = .ok () := h.validate_eq_ok
  unfold ofPair
  simp only [hsplit, hfield, bind, Except.bind, hlocate, hvalid]
  rfl

theorem Condition.compile_pairText_null (catalog : Catalog) (model : Model) {path : String}
    (h : Column.Spelled path) (hbare : '.' ∉ path.toList) :
    compile catalog model (some (Filter.pairText path .null)) =
      ⟨.ok (.group [.predicate (.nullTest model path)]),
        [(Predicate.nullTest model path).column]⟩ := by
  have hpredicate := Predicate.compile_of_ofPair (Predicate.ofPair_null catalog model h hbare)
  rw [compile_eq, document?_pairText_null h]
  simp only [compileValue, compilePairs, hpredicate]
  rfl

end ListQuery
