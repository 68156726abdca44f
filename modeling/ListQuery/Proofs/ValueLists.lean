import ListQuery.Proofs.Grammar
import ListQuery.Proofs.Numbers

/-!
# Two spellings of a list of values

The values of a list are joined in a text or kept apart in an array.  A text that is cut at its
separators holds the same numbers and texts as the array, so a key has one predicate for both of
them or none.  Where it has none the rejections differ at most in the value that they quote,
unless the ending follows a link at once: the dot before it then belongs to the link, and the key
has no operator.
-/

namespace ListQuery

/-! ## Items -/

inductive Item where
  | integer (value : Int)
  | text (value : String)
  deriving DecidableEq, Repr

namespace Item

def piece : Item → String
  | .integer value => toString value
  | .text value => value

def json : Item → Json
  | .integer value => .number (.integer value)
  | .text value => .text value

def scalar : Item → Scalar
  | .integer value => .int value
  | .text value => .text value

/-- An integer is signed and has 64 bits.  A text has no separator in it and is no number, except
one that is too great for a double. -/
def Suits (separator : Char) : Item → Prop
  | .integer value => -signedLimit ≤ value ∧ value < signedLimit
  | .text value => separator ∉ value.toList ∧
      ∀ literal : Literal, literal.IsSpelled value.toList → literal.number? = none

variable {separator : Char} {item : Item}

theorem ofPiece_piece (h : item.Suits separator) : Scalar.ofPiece item.piece = item.scalar := by
  unfold Scalar.ofPiece
  cases item with
  | integer value =>
      obtain ⟨hlow, hhigh⟩ := h
      have hlimits : signedLimit ≤ unsignedLimit := by decide
      rw [piece, Number.ofChars?_toString hlow (by omega)]
      exact if_pos hhigh
  | text value => rw [piece, Number.ofChars?_eq_none_iff.mpr h.2, scalar]

theorem spells_json (h : item.Suits separator) : item.json.Spells item.scalar := by
  cases item with
  | integer value =>
      have hscalar : Scalar.ofNumber (.integer value) = .int value := if_pos h.2
      rw [scalar, ← hscalar]
      exact .number _
  | text value => exact .text value

theorem not_mem_piece (hdigit : separator.isDigit = false) (hminus : separator ≠ '-')
    (h : item.Suits separator) : separator ∉ item.piece.toList := by
  cases item with
  | integer value =>
      intro hmem
      have hdigits : separator ∉ (Literal.ofInt value).whole := by
        intro hwhole
        have hchar : separator.isDigit = true :=
          Nat.isDigit_of_mem_toDigits (by decide) (by decide) hwhole
        rw [hdigit] at hchar
        cases hchar
      rw [piece, Literal.toList_toString] at hmem
      split at hmem
      · exact hdigits (List.mem_of_ne_of_mem hminus hmem)
      · exact hdigits hmem
  | text value => exact h.1

end Item

/-! ## Lists -/

namespace SetTest

def word : SetTest → String
  | .isIn => "$in"
  | .isNotIn => "$notIn"
  | .between => "$between"
  | .notBetween => "$notBetween"

def ending (test : SetTest) : String := "." ++ test.word

def joined (test : SetTest) (items : List Item) : Json :=
  .text (test.separator.toString.intercalate (items.map Item.piece))

end SetTest

def Item.array (items : List Item) : Json := .array (items.map Item.json)

namespace SetTest

variable {test : SetTest} {items : List Item}

theorem ending_mem (test : SetTest) : (test.ending, .set test) ∈ Operator.endings := by
  cases test <;> decide

theorem dot_not_mem_word (test : SetTest) : '.' ∉ test.word.toList := by
  cases test <;> decide

theorem isUnended_word (test : SetTest) : Operator.IsUnended test.word :=
  Operator.isUnended_of_not_mem test.dot_not_mem_word

theorem values?_array (hitems : ∀ item ∈ items, item.Suits test.separator) :
    test.values? (Item.array items) = some (items.map Item.scalar) := by
  rw [values?_eq_some_iff]
  refine .inr ⟨_, rfl, ?_⟩
  rw [List.forall₂_map_left_iff, List.forall₂_map_right_iff, List.forall₂_same]
  exact fun item hitem => Item.spells_json (hitems item hitem)

theorem values?_joined (hne : items ≠ []) (hitems : ∀ item ∈ items, item.Suits test.separator) :
    test.values? (test.joined items) = some (items.map Item.scalar) := by
  have hseparator : test.separator.isDigit = false ∧ test.separator ≠ '-' := by
    cases test <;> decide
  have hpieces : ∀ piece ∈ items.map Item.piece, test.separator ∉ piece.toList := by
    rw [List.forall_mem_map]
    exact fun item hitem => Item.not_mem_piece hseparator.1 hseparator.2 (hitems item hitem)
  have hscalars : (items.map Item.piece).map Scalar.ofPiece = items.map Item.scalar := by
    rw [List.map_map, List.map_inj_left]
    exact fun item hitem => Item.ofPiece_piece (hitems item hitem)
  rw [values?_eq_some_iff, ← hscalars]
  exact .inl ⟨_, by simpa using hne, hpieces, rfl, rfl⟩

theorem ofValue?_joined (hne : items ≠ [])
    (hitems : ∀ item ∈ items, item.Suits test.separator) :
    Filter.ofValue? (.set test) (test.joined items) =
      Filter.ofValue? (.set test) (Item.array items) := by
  simp only [Filter.ofValue?, values?_joined hne hitems, values?_array hitems]

end SetTest

/-! ## Keys -/

theorem Lead.eq_dot_of_getLast? (lead : Lead) :
    ∀ char ∈ lead.text.toList.getLast?, char = '.' := by
  cases lead <;> rintro char ⟨⟩ <;> rfl

theorem Connective.split_of_ends {key : String} {test : SetTest}
    (h : test.ending.toList <:+ key.toList) :
    (∃ connective? path, split key = (connective?, path ++ test.ending)) ∨
      ∃ lead : Lead, key = lead.text ++ test.word := by
  obtain ⟨lead, field, rfl, -, hsplit⟩ := Lead.exists_split_eq key
  have hending : test.ending.toList = '.' :: test.word.toList := by simp [SetTest.ending]
  have hbehind (path : List Char) (hfield : field.toList = path ++ test.ending.toList) :
      split (lead.text ++ field) = (lead.connective?, String.ofList path ++ test.ending) := by
    have heq : field = String.ofList path ++ test.ending := by
      rw [← String.toList_inj, String.toList_append, String.toList_ofList, hfield]
    rw [hsplit, ← heq]
  rw [String.toList_append] at h
  rcases List.suffix_or_suffix_of_suffix h (List.suffix_append lead.text.toList field.toList) with
    ⟨path, hpath⟩ | hfield
  · exact .inl ⟨_, _, hbehind path hpath.symm⟩
  · rw [hending] at hfield h
    rcases List.suffix_cons_iff.mp hfield with hwhole | ⟨middle, hmiddle⟩
    · exact .inl ⟨_, _, hbehind [] (by rw [hwhole, hending, List.nil_append])⟩
    · -- What is left of the ending reaches into the link, as far as the dot at its end.
      obtain ⟨front, hfront⟩ := h
      rw [← hmiddle, ← List.cons_append, ← List.append_assoc, List.append_cancel_right_eq]
        at hfront
      have hnil : middle = [] := by
        rcases List.eq_nil_or_concat middle with hnil | ⟨init, last, rfl⟩
        · exact hnil
        · have hconcat : lead.text.toList = (front ++ '.' :: init) ++ [last] := by
            rw [← hfront]
            simp
          have hlast : last = '.' := by
            apply lead.eq_dot_of_getLast?
            rw [hconcat]
            exact List.getLast?_concat
          have hmem : '.' ∈ test.word.toList := by simp [← hmiddle, hlast]
          exact absurd hmem test.dot_not_mem_word
      rw [hnil, List.nil_append] at hmiddle
      exact .inr ⟨lead, by rw [String.toList_inj.mp hmiddle]⟩

theorem Lead.split_word (lead : Lead) (test : SetTest) :
    Connective.split (lead.text ++ test.word) = (lead.connective?, test.word) := by
  have hlink {link : String} (hdot : '.' ∈ link.toList) :
      ¬ link.toList <+: test.word.toList := by
    intro hbegins
    exact test.dot_not_mem_word (hbegins.subset hdot)
  exact split_append (isLongest_append (fun _ => hlink (by decide)) fun _ => hlink (by decide))

/-! ## Outcomes -/

/-- The outcomes of a key with two values are the same but for the value that a rejection
quotes. -/
inductive Compiled.Agree (key : String) (first second : Json) :
    Compiled Predicate → Compiled Predicate → Prop where
  | same (outcome : Compiled Predicate) : Agree key first second outcome outcome
  | quoted : Agree key first second (.fail (.malformedFilter (Filter.pairText key first)))
      (.fail (.malformedFilter (Filter.pairText key second)))

theorem Compiled.Agree.result_eq_ok_iff {key : String} {first second : Json}
    {outcome other : Compiled Predicate}
    (h : Agree key first second outcome other) (predicate : Predicate) :
    outcome.result = .ok predicate ↔ other.result = .ok predicate := by
  cases h with
  | same => exact Iff.rfl
  | quoted => exact ⟨nofun, nofun⟩

namespace Predicate

variable {catalog : Catalog} {model : Model} {key field : String} {value : Json}
  {connective? : Option Connective} {test : SetTest} {items : List Item}

theorem compile_congr {first second : Json} (hsplit : Connective.split key = (connective?, field))
    (h : Filter.ofField key field first = Filter.ofField key field second) :
    compile catalog model key first = compile catalog model key second := by
  unfold compile ofPair
  simp only [hsplit, h]

theorem compile_of_error {error : QueryError}
    (hsplit : Connective.split key = (connective?, field))
    (h : Filter.ofField key field value = .error error) :
    compile catalog model key value = .fail error := by
  unfold compile ofPair
  simp only [hsplit, h]
  rfl

theorem agree_of_split {path : String}
    (hsplit : Connective.split key = (connective?, path ++ test.ending)) (hne : items ≠ [])
    (hitems : ∀ item ∈ items, item.Suits test.separator) :
    Compiled.Agree key (test.joined items) (Item.array items)
      (compile catalog model key (test.joined items))
      (compile catalog model key (Item.array items)) := by
  have hfield : Operator.split (path ++ test.ending) = (path, .set test) :=
    Operator.split_of_mem path test.ending_mem
  have hvalues := SetTest.ofValue?_joined hne hitems
  cases harray : Filter.ofValue? (.set test) (Item.array items) with
  | some filter =>
      rw [harray] at hvalues
      have hjoined := Filter.ofField_of_some key rfl hfield hvalues
      have hboth := hjoined.trans (Filter.ofField_of_some key rfl hfield harray).symm
      rw [compile_congr hsplit hboth]
      exact .same _
  | none =>
      rw [harray] at hvalues
      rw [compile_of_error hsplit (Filter.ofField_of_none key rfl hfield hvalues),
        compile_of_error hsplit (Filter.ofField_of_none key rfl hfield harray)]
      exact .quoted

/-- Behind a link the word of a test is a column name, which no column has. -/
theorem compile_word (lead : Lead) (test : SetTest) (items : List Item) :
    compile catalog model (lead.text ++ test.word) (test.joined items) =
        .fail (.invalidColumn test.word .unacceptableName) ∧
      compile catalog model (lead.text ++ test.word) (Item.array items) =
        .fail (.malformedFilter (Filter.pairText (lead.text ++ test.word) (Item.array items))) := by
  have hsplit := lead.split_word test
  have hfield := Operator.split_of_isUnended test.isUnended_word
  constructor
  · have hread : Filter.ofField (lead.text ++ test.word) test.word (test.joined items) = _ :=
      Filter.ofField_of_some _ rfl hfield rfl
    have hcut := Text.cutAt?_eq_none_iff.mpr test.dot_not_mem_word
    have hvalid : Column.validate test.word =
        .error (.invalidColumn test.word .unacceptableName) := by
      cases test <;> rfl
    unfold compile ofPair
    simp only [hsplit, hread, locate, hcut, bind, Except.bind, hvalid]
  · exact compile_of_error hsplit (Filter.ofField_of_none _ rfl hfield rfl)

/-- A key with the ending of a test has the same predicate for items in a text and in an array,
or none for both.  The rejections differ in the value that they quote, or where the key is a link
and the word of the test alone: the text is then rejected for the name of the column, and the
array because it is compared as one value. -/
theorem compile_spellings (catalog : Catalog) (model : Model) {key : String} {test : SetTest}
    (hending : test.ending.toList <:+ key.toList) {items : List Item} (hne : items ≠ [])
    (hitems : ∀ item ∈ items, item.Suits test.separator) :
    let joined := compile catalog model key (test.joined items)
    let array := compile catalog model key (Item.array items)
    (∀ predicate, joined.result = .ok predicate ↔ array.result = .ok predicate) ∧
      ((∀ lead : Lead, key ≠ lead.text ++ test.word) →
        Compiled.Agree key (test.joined items) (Item.array items) joined array) ∧
      ∀ lead : Lead, key = lead.text ++ test.word →
        joined = .fail (.invalidColumn test.word .unacceptableName) ∧
          array = .fail (.malformedFilter (Filter.pairText key (Item.array items))) := by
  intro joined array
  rcases Connective.split_of_ends hending with ⟨connective?, path, hsplit⟩ | ⟨lead, rfl⟩
  · have hagree : Compiled.Agree key (test.joined items) (Item.array items) joined array :=
      agree_of_split hsplit hne hitems
    refine ⟨hagree.result_eq_ok_iff, fun _ => hagree, ?_⟩
    rintro lead rfl
    exact compile_word lead test items
  · have hword : joined = _ ∧ array = _ := compile_word lead test items
    refine ⟨fun predicate => ?_, fun hne => absurd rfl (hne lead), fun _ _ => hword⟩
    rw [hword.1, hword.2]
    exact ⟨nofun, nofun⟩

open Sample in
theorem compile_spellings_of_bounds :
    let key := "$and.age.$between"
    let items := [.integer (-9223372036854775808), .text "007"]
    let predicate : Predicate := ⟨some .and, "User", "users", "age",
      .set .between [.int (-9223372036854775808), .text "007"], none⟩
    SetTest.between.ending.toList <:+ key.toList ∧ items ≠ [] ∧
      (∀ item ∈ items, Item.Suits SetTest.between.separator item) ∧
      (compile registry.catalog user key (.text "-9223372036854775808:007")).result =
        .ok predicate := by
  intro key items predicate
  have hending : SetTest.between.ending.toList <:+ key.toList := by decide
  have hne : items ≠ [] := List.cons_ne_nil _ _
  have hnone : Number.ofChars? "007".toList = none := by decide +kernel
  have hitems : ∀ item ∈ items, Item.Suits SetTest.between.separator item := by
    refine List.forall_mem_cons.mpr ⟨⟨by decide, by decide⟩, List.forall_mem_singleton.mpr ?_⟩
    exact ⟨by decide, Number.ofChars?_eq_none_iff.mp hnone⟩
  have htext : ":".intercalate (items.map Item.piece) = "-9223372036854775808:007" := by
    decide +kernel
  have hjoined : SetTest.between.joined items = .text "-9223372036854775808:007" :=
    congrArg Json.text htext
  have hvalues : Filter.ofValue? (.set .between) (Item.array items) =
      some (.set .between (items.map Item.scalar)) :=
    Filter.ofValue?_of_set.mpr ⟨_, SetTest.values?_array hitems, fun _ => rfl, rfl⟩
  have hsplit : Connective.split key = (some .and, "age" ++ SetTest.between.ending) := by
    decide +kernel
  have hfield := Filter.ofField_of_some key rfl
    (Operator.split_of_mem "age" SetTest.between.ending_mem) hvalues
  have harray : (compile registry.catalog user key (Item.array items)).result = .ok predicate := by
    have hvalid : Column.validate "age" = .ok () := by rfl
    have hcut : Text.cutAt? '.' "age" = none := by decide
    unfold compile ofPair
    simp only [hsplit, hfield, bind, Except.bind, locate, hcut, hvalid]
    rfl
  obtain ⟨hsame, -, -⟩ := compile_spellings registry.catalog user hending hne hitems
  rw [← hjoined]
  exact ⟨hending, hne, hitems, (hsame predicate).mpr harray⟩

open Sample in
/-- The dot before the word belongs to the link, so the text is taken for a value of a column and
the array is not. -/
theorem not_agree_of_link :
    let key := "$or.$in"
    let items := [.integer 1]
    SetTest.isIn.ending.toList <:+ key.toList ∧ items ≠ [] ∧
      (∀ item ∈ items, Item.Suits SetTest.isIn.separator item) ∧
      ¬ Compiled.Agree key (SetTest.isIn.joined items) (Item.array items)
        (compile registry.catalog user key (SetTest.isIn.joined items))
        (compile registry.catalog user key (Item.array items)) := by
  intro key items
  have hitems : ∀ item ∈ items, Item.Suits SetTest.isIn.separator item :=
    List.forall_mem_singleton.mpr ⟨by decide, by decide⟩
  refine ⟨by decide, List.cons_ne_nil _ _, hitems, ?_⟩
  obtain ⟨hjoined, harray⟩ : compile registry.catalog user key (SetTest.isIn.joined items) = _ ∧
      compile registry.catalog user key (Item.array items) = _ := compile_word .or .isIn items
  rw [hjoined, harray]
  nofun

end Predicate

end ListQuery
