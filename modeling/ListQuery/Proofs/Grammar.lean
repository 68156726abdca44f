import ListQuery.Proofs.Reading

/-!
# The grammar of keys

A key is a lead, a path and an ending.  Of the leads that a key begins with the longest is
taken, and every ending starts with a dot and a dollar sign, which follow each other in no path
to a column.  A key is therefore read in at most one way, and what it was built from is found
again.
-/

namespace ListQuery

/-! ## Leads -/

inductive Lead where
  | bare
  | or
  | and
  | orAnd
  deriving DecidableEq, Repr

namespace Lead

def text : Lead → String
  | .bare => ""
  | .or => "$or."
  | .and => "$and."
  | .orAnd => "$or.$and."

def connective? : Lead → Option Connective
  | .bare => none
  | .or => some .or
  | .and | .orAnd => some .and

/-- The key begins with this lead and with no longer one. -/
structure IsLongest (lead : Lead) (key : String) : Prop where
  begins : lead.text.toList <+: key.toList
  longest : ∀ other : Lead, other.text.toList <+: key.toList →
    other.text.length ≤ lead.text.length

variable {key rest : String} {lead : Lead}

theorem eq_of_length_eq {first second : Lead}
    (h : first.text.length = second.text.length) : first = second := by
  revert h
  cases first <;> cases second <;> decide

theorem IsLongest.unique {first second : Lead} (hfirst : first.IsLongest key)
    (hsecond : second.IsLongest key) : first = second :=
  eq_of_length_eq (Nat.le_antisymm (hsecond.longest first hfirst.begins)
    (hfirst.longest second hsecond.begins))

theorem or_begins (h : Lead.orAnd.text.toList <+: key.toList) : "$or.".toList <+: key.toList :=
  (List.prefix_append "$or.".toList "$and.".toList).trans h

theorem not_and_begins (h : "$or.".toList <+: key.toList) : ¬ "$and.".toList <+: key.toList := by
  intro hand
  rcases List.prefix_or_prefix_of_prefix h hand with hfront | hfront
  · exact absurd hfront (by decide)
  · exact absurd hfront (by decide)

theorem isLongest_append (hor : lead = .bare → ¬ "$or.".toList <+: rest.toList)
    (hand : lead = .bare ∨ lead = .or → ¬ "$and.".toList <+: rest.toList) :
    lead.IsLongest (lead.text ++ rest) := by
  have hbegins := Text.begins_append lead.text rest
  refine ⟨hbegins, fun other hother => ?_⟩
  cases lead with
  | bare =>
      rw [show Lead.bare.text ++ rest = rest from String.empty_append] at hother
      cases other with
      | bare => exact Nat.le_refl _
      | or => exact absurd hother (hor rfl)
      | and => exact absurd hother (hand (.inl rfl))
      | orAnd => exact absurd (or_begins hother) (hor rfl)
  | or =>
      cases other with
      | bare => decide
      | or => decide
      | and => exact absurd hother (not_and_begins hbegins)
      | orAnd =>
          rw [String.toList_append] at hother
          have hrest : "$and.".toList <+: rest.toList :=
            (List.prefix_append_right_inj "$or.".toList).mp hother
          exact absurd hrest (hand (.inr rfl))
  | and =>
      cases other with
      | bare => decide
      | or => exact absurd hbegins (not_and_begins hother)
      | and => decide
      | orAnd => exact absurd hbegins (not_and_begins (or_begins hother))
  | orAnd =>
      cases other <;> decide

theorem exists_split_eq (key : String) : ∃ lead : Lead, ∃ rest,
    key = lead.text ++ rest ∧ lead.IsLongest key ∧
      Connective.split key = (lead.connective?, rest) := by
  cases hor : Text.after? "$or." key with
  | some rest =>
      have hkey : key = Lead.or.text ++ rest := Text.eq_append_of_after? hor
      cases hand : Text.after? "$and." rest with
      | some inner =>
          have hsplit : Connective.split key = (some .and, inner) := by
            simp only [Connective.split, hor, hand]
          have hlead : key = Lead.orAnd.text ++ inner := by
            rw [hkey, Text.eq_append_of_after? hand, ← String.append_assoc]
            rfl
          refine ⟨.orAnd, inner, hlead, ?_, hsplit⟩
          rw [hlead]
          exact isLongest_append (by simp) (by simp)
      | none =>
          have hsplit : Connective.split key = (some .or, rest) := by
            simp only [Connective.split, hor, hand]
          have hrest := Text.after?_eq_none_iff.mp hand
          refine ⟨.or, rest, hkey, ?_, hsplit⟩
          rw [hkey]
          exact isLongest_append (by simp) fun _ => hrest
  | none =>
      have hfirst := Text.after?_eq_none_iff.mp hor
      cases hand : Text.after? "$and." key with
      | some rest =>
          have hsplit : Connective.split key = (some .and, rest) := by
            simp only [Connective.split, hor, hand]
          have hkey : key = Lead.and.text ++ rest := Text.eq_append_of_after? hand
          refine ⟨.and, rest, hkey, ?_, hsplit⟩
          rw [hkey]
          exact isLongest_append (by simp) (by simp)
      | none =>
          have hsplit : Connective.split key = (none, key) := by
            simp only [Connective.split, hor, hand]
          have hsecond := Text.after?_eq_none_iff.mp hand
          have hkey : Lead.bare.text ++ key = key := String.empty_append
          have hlongest : Lead.bare.IsLongest (Lead.bare.text ++ key) :=
            isLongest_append (fun _ => hfirst) fun _ => hsecond
          rw [hkey] at hlongest
          exact ⟨.bare, key, hkey.symm, hlongest, hsplit⟩

theorem split_append (h : lead.IsLongest (lead.text ++ rest)) :
    Connective.split (lead.text ++ rest) = (lead.connective?, rest) := by
  obtain ⟨found, left, hkey, hlongest, hsplit⟩ := exists_split_eq (lead.text ++ rest)
  obtain rfl := h.unique hlongest
  obtain rfl := (String.append_right_inj _).mp hkey
  exact hsplit

end Lead

/-! ## Values -/

inductive Json.Spells : Json → Scalar → Prop where
  | bool (value : Bool) : Spells (.bool value) (.bool value)
  | number (value : Number) : Spells (.number value) (.ofNumber value)
  | text (value : String) : Spells (.text value) (.text value)

namespace Scalar

theorem ofJson?_eq_some_iff {value : Json} {scalar : Scalar} :
    ofJson? value = some scalar ↔ value.Spells scalar := by
  constructor
  · intro h
    unfold ofJson? at h
    split at h
    · cases h
      exact .bool _
    · cases h
      exact .number _
    · cases h
      exact .text _
    · cases h
  · rintro (_ | _ | _) <;> rfl

theorem mapM_ofJson?_eq_some_iff {items : List Json} {values : List Scalar} :
    items.mapM ofJson? = some values ↔ List.Forall₂ Json.Spells items values := by
  induction items generalizing values with
  | nil => simp [eq_comm]
  | cons item items ih =>
      simp [List.mapM_cons, Option.bind_eq_some_iff, ih, ofJson?_eq_some_iff,
        List.forall₂_cons_left_iff, @eq_comm _ values]

end Scalar

namespace Operator

/-- The filter of an operator and a value that suits it.  The texts of a list have no separator
in them and are joined by it, so that a range is a text with one separator. -/
inductive Takes : Operator → Json → Filter → Prop where
  | scalar {comparison : Comparison} {value : Json} {scalar : Scalar}
      (hcomparison : comparison ≠ .like ∧ comparison ≠ .notLike)
      (hscalar : value.Spells scalar) :
      Takes (.compare comparison) value (.compare comparison scalar)
  | pattern {comparison : Comparison} {pattern : String}
      (hcomparison : comparison = .like ∨ comparison = .notLike) :
      Takes (.compare comparison) (.text pattern)
        (.compare comparison (.text (Text.substitute '*' '%' pattern)))
  | pieces {test : SetTest} {pieces : List String} (hne : pieces ≠ [])
      (hpieces : ∀ piece ∈ pieces, test.separator ∉ piece.toList)
      (hbounds : test.isRange → pieces.length = 2) :
      Takes (.set test) (.text (test.separator.toString.intercalate pieces))
        (.set test (pieces.map Scalar.ofPiece))
  | items {test : SetTest} {items : List Json} {values : List Scalar}
      (hitems : List.Forall₂ Json.Spells items values)
      (hbounds : test.isRange → items.length = 2) :
      Takes (.set test) (.array items) (.set test values)

end Operator

theorem SetTest.values?_eq_some_iff {test : SetTest} {value : Json} {values : List Scalar} :
    test.values? value = some values ↔
      (∃ pieces : List String, pieces ≠ [] ∧ (∀ piece ∈ pieces, test.separator ∉ piece.toList) ∧
        value = .text (test.separator.toString.intercalate pieces) ∧
        values = pieces.map Scalar.ofPiece) ∨
      ∃ items, value = .array items ∧ List.Forall₂ Json.Spells items values := by
  constructor
  · intro h
    unfold values? at h
    split at h
    · next text =>
        cases h
        refine .inl ⟨Text.splitOn test.separator text, Text.splitOn_ne_nil _ _, ?_, ?_, rfl⟩
        · exact fun piece => Text.not_mem_of_mem_splitOn
        · rw [Text.intercalate_splitOn]
    · next items => exact .inr ⟨items, rfl, Scalar.mapM_ofJson?_eq_some_iff.mp h⟩
    · cases h
  · rintro (⟨pieces, hne, hpieces, rfl, rfl⟩ | ⟨items, rfl, hitems⟩)
    · unfold values?
      simp only [Text.splitOn_intercalate hne hpieces]
    · exact Scalar.mapM_ofJson?_eq_some_iff.mpr hitems

namespace Filter

theorem ofValue?_of_scalar {comparison : Comparison}
    (h : comparison ≠ .like ∧ comparison ≠ .notLike) (value : Json) :
    ofValue? (.compare comparison) value = (Scalar.ofJson? value).map (.compare comparison) := by
  cases comparison with
  | like => exact absurd rfl h.1
  | notLike => exact absurd rfl h.2
  | _ => rfl

theorem ofValue?_of_pattern {comparison : Comparison}
    (h : comparison = .like ∨ comparison = .notLike) {value : Json} {filter : Filter} :
    ofValue? (.compare comparison) value = some filter ↔ ∃ pattern, value = .text pattern ∧
      filter = .compare comparison (.text (Text.substitute '*' '%' pattern)) := by
  rcases h with rfl | rfl
  · cases value <;> simp [ofValue?, eq_comm]
  · cases value <;> simp [ofValue?, eq_comm]

theorem ofValue?_of_set {test : SetTest} {value : Json} {filter : Filter} :
    ofValue? (.set test) value = some filter ↔ ∃ values, test.values? value = some values ∧
      (test.isRange → values.length = 2) ∧ filter = .set test values := by
  constructor
  · intro h
    obtain ⟨values, hvalues, h⟩ := Option.bind_eq_some_iff.mp h
    split at h
    · cases h
    · next hbounds =>
        cases h
        exact ⟨values, hvalues, fun hrange => by simpa [hrange] using hbounds, rfl⟩
  · rintro ⟨values, hvalues, hbounds, rfl⟩
    have hguard : ¬ (test.isRange && decide (values.length ≠ 2)) = true := by
      simpa using hbounds
    simp only [ofValue?, hvalues, Option.bind_eq_bind, Option.bind_some, if_neg hguard]

theorem ofValue?_eq_some_iff {operator : Operator} {value : Json} {filter : Filter} :
    ofValue? operator value = some filter ↔ operator.Takes value filter := by
  constructor
  · intro h
    cases operator with
    | compare comparison =>
        by_cases hpattern : comparison = .like ∨ comparison = .notLike
        · obtain ⟨pattern, rfl, rfl⟩ := (ofValue?_of_pattern hpattern).mp h
          exact .pattern hpattern
        · have hcomparison := not_or.mp hpattern
          rw [ofValue?_of_scalar hcomparison, Option.map_eq_some_iff] at h
          obtain ⟨scalar, hscalar, rfl⟩ := h
          exact .scalar hcomparison (Scalar.ofJson?_eq_some_iff.mp hscalar)
    | set test =>
        obtain ⟨values, hvalues, hbounds, rfl⟩ := ofValue?_of_set.mp h
        rcases SetTest.values?_eq_some_iff.mp hvalues with
          ⟨pieces, hne, hpieces, rfl, rfl⟩ | ⟨items, rfl, hitems⟩
        · rw [List.length_map] at hbounds
          exact .pieces hne hpieces hbounds
        · rw [← hitems.length_eq] at hbounds
          exact .items hitems hbounds
  · intro h
    cases h with
    | scalar hcomparison hscalar =>
        rw [ofValue?_of_scalar hcomparison, Scalar.ofJson?_eq_some_iff.mpr hscalar]
        rfl
    | pattern hcomparison => exact (ofValue?_of_pattern hcomparison).mpr ⟨_, rfl, rfl⟩
    | pieces hne hpieces hbounds =>
        refine ofValue?_of_set.mpr ⟨_, ?_, by rwa [List.length_map], rfl⟩
        exact SetTest.values?_eq_some_iff.mpr (.inl ⟨_, hne, hpieces, rfl, rfl⟩)
    | items hitems hbounds =>
        refine ofValue?_of_set.mpr ⟨_, ?_, by rwa [← hitems.length_eq], rfl⟩
        exact SetTest.values?_eq_some_iff.mpr (.inr ⟨_, rfl, hitems⟩)

end Filter

/-! ## Endings -/

namespace Operator

inductive HasEnding : Operator → String → Prop where
  | listed {operator : Operator} {ending : String} (h : (ending, operator) ∈ endings) :
      HasEnding operator ending
  | equal : HasEnding (.compare .equal) ""

def IsUnended (path : String) : Prop :=
  ∀ pair ∈ endings, ¬ pair.1.toList <:+ path.toList

theorem eq_of_suffix : ∀ first ∈ endings, ∀ second ∈ endings,
    first.1.toList <:+ second.1.toList → first = second := by
  decide

theorem eq_of_ends {first second : String × Operator} (hfirst : first ∈ endings)
    (hsecond : second ∈ endings) {field : List Char} (hends : first.1.toList <:+ field)
    (hother : second.1.toList <:+ field) : first = second := by
  rcases List.suffix_or_suffix_of_suffix hends hother with h | h
  · exact eq_of_suffix first hfirst second hsecond h
  · exact (eq_of_suffix second hsecond first hfirst h).symm

theorem exists_word {pair : String × Operator} (h : pair ∈ endings) :
    ∃ word, pair.1.toList = '.' :: '$' :: word ∧ '.' ∉ word := by
  have hwords : ∀ pair ∈ endings, pair.1.toList = '.' :: '$' :: pair.1.toList.drop 2 ∧
      '.' ∉ pair.1.toList.drop 2 := by
    decide
  exact ⟨pair.1.toList.drop 2, hwords pair h⟩

theorem isUnended_of_not_mem {path : String} (h : '.' ∉ path.toList) : IsUnended path := by
  intro pair hpair hends
  obtain ⟨word, hword, -⟩ := exists_word hpair
  rw [hword] at hends
  exact h (hends.subset List.mem_cons_self)

theorem isUnended_append (name : String) {column : String} (h : '$' ∉ column.toList) :
    IsUnended (name ++ "." ++ column) := by
  intro pair hpair hends
  obtain ⟨word, hword, hdot⟩ := exists_word hpair
  have hcolumn : '.' :: column.toList <:+ (name ++ "." ++ column).toList :=
    ⟨name.toList, by simp⟩
  rw [hword] at hends
  -- The last dot is the one before the column, and no dollar sign follows it.
  rcases List.suffix_or_suffix_of_suffix hends hcolumn with hinner | hinner
  · have hdollar : '$' ∈ '.' :: column.toList :=
      hinner.subset (List.mem_cons_of_mem _ List.mem_cons_self)
    exact h (List.mem_of_ne_of_mem (by decide) hdollar)
  · rcases List.suffix_cons_iff.mp hinner with heq | hinner
    · obtain ⟨-, heq⟩ := List.cons_eq_cons.mp heq
      exact h (heq ▸ List.mem_cons_self)
    · have hmem : '.' ∈ '$' :: word := hinner.subset List.mem_cons_self
      exact hdot (List.mem_of_ne_of_mem (by decide) hmem)

theorem split_cases (field : String) :
    (IsUnended field ∧ split field = (field, .compare .equal)) ∨
      ∃ path ending operator, (ending, operator) ∈ endings ∧ field = path ++ ending ∧
        split field = (path, operator) := by
  unfold split
  cases hfound : endings.findSome? _ with
  | none =>
      refine .inl ⟨fun pair hpair => ?_, rfl⟩
      have hnone := List.findSome?_eq_none_iff.mp hfound pair hpair
      exact Text.before?_eq_none_iff.mp (Option.map_eq_none_iff.mp hnone)
  | some parts =>
      obtain ⟨⟨ending, operator⟩, hmem, hparts⟩ := List.exists_of_findSome?_eq_some hfound
      obtain ⟨path, hpath, rfl⟩ := Option.map_eq_some_iff.mp hparts
      exact .inr ⟨path, ending, operator, hmem, Text.eq_append_of_before? hpath, rfl⟩

theorem exists_hasEnding (field : String) :
    ∃ ending, field = (split field).1 ++ ending ∧ (split field).2.HasEnding ending := by
  rcases split_cases field with ⟨-, hsplit⟩ | ⟨path, ending, operator, hmem, hfield, hsplit⟩
  · rw [hsplit]
    exact ⟨"", String.append_empty.symm, .equal⟩
  · rw [hsplit]
    exact ⟨ending, hfield, .listed hmem⟩

theorem split_of_isUnended {field : String} (h : IsUnended field) :
    split field = (field, .compare .equal) := by
  rcases split_cases field with ⟨-, hsplit⟩ | ⟨path, ending, operator, hmem, rfl, -⟩
  · exact hsplit
  · exact absurd (Text.ends_append path ending) (h _ hmem)

theorem split_of_mem (path : String) {ending : String} {operator : Operator}
    (h : (ending, operator) ∈ endings) : split (path ++ ending) = (path, operator) := by
  have hends := Text.ends_append path ending
  rcases split_cases (path ++ ending) with
    ⟨hunended, -⟩ | ⟨front, found, other, hmem, hfield, hsplit⟩
  · exact absurd hends (hunended _ h)
  · have hfound : found.toList <:+ (path ++ ending).toList := by
      rw [hfield]
      exact Text.ends_append front found
    obtain ⟨rfl, rfl⟩ := Prod.mk.inj (eq_of_ends hmem h hfound hends)
    obtain rfl := (String.append_left_inj found).mp hfield
    exact hsplit

theorem split_append {path ending : String} {operator : Operator}
    (hpath : IsUnended path) (hending : operator.HasEnding ending) :
    split (path ++ ending) = (path, operator) := by
  cases hending with
  | equal =>
      rw [String.append_empty]
      exact split_of_isUnended hpath
  | listed hlisted => exact split_of_mem path hlisted

end Operator

namespace Filter

inductive IsRead : String → Json → Filter → Prop where
  | isNull : IsRead "" .null (.null .isNull)
  | isNotNull : IsRead ".$not" .null (.null .isNotNull)
  | test {ending : String} {operator : Operator} {value : Json} {filter : Filter}
      (hending : operator.HasEnding ending) (hvalue : operator.Takes value filter) :
      IsRead ending value filter

theorem isNull_eq_false_of_takes {operator : Operator} {value : Json} {filter : Filter}
    (h : operator.Takes value filter) : value.isNull = false := by
  cases h with
  | scalar _ hscalar => cases hscalar <;> rfl
  | _ => rfl

theorem eq_null_of_isNull {value : Json} (h : value.isNull = true) : value = .null := by
  cases value with
  | null => rfl
  | _ => cases h

variable {path ending : String} {value : Json} {filter : Filter}

theorem ofField_of_some {field : String} {operator : Operator} (key : String)
    (hnull : value.isNull = false) (hsplit : Operator.split field = (path, operator))
    (hfilter : ofValue? operator value = some filter) :
    ofField key field value = .ok (path, filter) := by
  simp only [ofField, hnull, hsplit, hfilter]
  rfl

theorem ofField_of_none {field : String} {operator : Operator} (key : String)
    (hnull : value.isNull = false) (hsplit : Operator.split field = (path, operator))
    (hfilter : ofValue? operator value = none) :
    ofField key field value = .error (.malformedFilter (pairText key value)) := by
  simp only [ofField, hnull, hsplit, hfilter]
  rfl

theorem exists_isRead {key field : String} (h : ofField key field value = .ok (path, filter)) :
    ∃ ending, field = path ++ ending ∧ IsRead ending value filter := by
  unfold ofField at h
  split at h
  · next hnull =>
      obtain rfl := eq_null_of_isNull hnull
      split at h
      · next front hfront =>
          cases h
          exact ⟨".$not", Text.eq_append_of_before? hfront, .isNotNull⟩
      · cases h
        exact ⟨"", String.append_empty.symm, .isNull⟩
  · obtain ⟨ending, hfield, hending⟩ := Operator.exists_hasEnding field
    simp only at h
    split at h
    · next found hfound =>
        cases h
        exact ⟨ending, hfield, .test hending (ofValue?_eq_some_iff.mp hfound)⟩
    · cases h

theorem ofField_of_isRead (key : String) (hpath : Operator.IsUnended path)
    (h : IsRead ending value filter) :
    ofField key (path ++ ending) value = .ok (path, filter) := by
  cases h with
  | isNull =>
      have hnot : Text.before? ".$not" path = none :=
        Text.before?_eq_none_iff.mpr (hpath (".$not", .compare .notEqual) (by decide))
      rw [String.append_empty]
      simp only [ofField, Json.isNull, if_true, hnot]
  | isNotNull =>
      have hnot : Text.before? ".$not" (path ++ ".$not") = some path := by
        rw [Text.before?_eq_some_iff, String.toList_append]
      simp only [ofField, Json.isNull, if_true, hnot]
  | test hending hvalue =>
      exact ofField_of_some key (isNull_eq_false_of_takes hvalue)
        (Operator.split_append hpath hending) (ofValue?_eq_some_iff.mpr hvalue)

end Filter

/-! ## Paths -/

namespace Predicate

variable {catalog : Catalog} {model : Model} {path : String} {predicate : Predicate}

/-- The predicate is on the column that a path leads to: a column of the model by its name, or
behind the first dot a column of the model that the relation before it leads to. -/
inductive IsAt (catalog : Catalog) (model : Model) : String → Predicate → Prop where
  | own {path : String} {connective? : Option Connective} {filter : Filter}
      (hname : Column.IsName path) :
      IsAt catalog model path ⟨connective?, model.name, model.table, path, filter, none⟩
  | related {name column : String} {relation : Relation} {related : Model}
      {connective? : Option Connective} {filter : Filter}
      (hname : '.' ∉ name.toList) (hrelation : model.toOne? name = some relation)
      (hrelated : catalog.model? relation.model = some related)
      (hcolumn : Column.Spelled column) :
      IsAt catalog model (name ++ "." ++ column)
        ⟨connective?, related.name, related.table, column, filter, some relation⟩

theorem IsAt.spelled (h : predicate.IsAt catalog model path) :
    Column.Spelled predicate.field := by
  cases h with
  | own hname => exact (Column.isName_iff.mp hname).1
  | related _ _ _ hcolumn => exact hcolumn

theorem isAt_of_locate {connective? : Option Connective} {filter : Filter}
    (hlocate : locate catalog model connective? path filter = .ok predicate)
    (hfield : Column.Spelled predicate.field) :
    predicate.IsAt catalog model path ∧ predicate.connective? = connective? ∧
      predicate.filter = filter := by
  rcases locate_eq_ok hlocate with
    ⟨hcut, rfl⟩ | ⟨name, column, relation, related, hcut, hrelation, hrelated, rfl⟩
  · exact ⟨.own (Column.isName_iff.mpr ⟨hfield, Text.cutAt?_eq_none_iff.mp hcut⟩), rfl, rfl⟩
  · obtain ⟨hname, hparts⟩ := Text.cutAt?_eq_some_iff.mp hcut
    have hpath : path = name ++ "." ++ column := by
      rw [← String.toList_inj, hparts]
      simp
    rw [hpath]
    exact ⟨.related hname hrelation hrelated hfield, rfl, rfl⟩

theorem IsAt.locate_eq (h : predicate.IsAt catalog model path) :
    locate catalog model predicate.connective? path predicate.filter = .ok predicate := by
  cases h with
  | own hname =>
      have hcut := Text.cutAt?_eq_none_iff.mpr (Column.isName_iff.mp hname).2
      simp only [locate, hcut]
  | @related name column relation related connective? filter hname hrelation hrelated hcolumn =>
      have hcut : Text.cutAt? '.' (name ++ "." ++ column) = some (name, column) :=
        Text.cutAt?_eq_some_iff.mpr ⟨hname, by simp⟩
      simp only [locate, hcut, hrelation, hrelated]

theorem IsAt.isUnended (h : predicate.IsAt catalog model path) : Operator.IsUnended path := by
  cases h with
  | own hname => exact Operator.isUnended_of_not_mem (Column.isName_iff.mp hname).2
  | related _ _ _ hcolumn =>
      exact Operator.isUnended_append _ (hcolumn.not_mem '$' (by decide))

theorem IsAt.begins_of_append (h : predicate.IsAt catalog model path) (link : List Char)
    (hlink : '.' ∉ '$' :: link) (ending : String)
    (hbegins : '$' :: link ++ ['.'] <+: (path ++ ending).toList) :
    '$' :: link ++ ['.'] <+: path.toList := by
  obtain ⟨rest, hrest⟩ := hbegins
  rw [String.toList_append, List.append_assoc, List.singleton_append] at hrest
  cases h with
  | own hname =>
      cases hpath : path.toList with
      | nil => exact absurd hpath hname.ne_nil
      | cons char chars =>
          rw [hpath] at hrest
          obtain ⟨rfl, -⟩ := List.cons_eq_cons.mp hrest
          have hdollar := (Column.isName_iff.mp hname).1.not_mem '$' (by decide)
          exact absurd (hpath ▸ List.mem_cons_self) hdollar
  | @related name column _ _ _ _ hname =>
      have hcut : Text.cutAt? '.' (name ++ "." ++ column ++ ending) =
          some (name, column ++ ending) :=
        Text.cutAt?_eq_some_iff.mpr ⟨hname, by simp⟩
      have hlinked : Text.cutAt? '.' (name ++ "." ++ column ++ ending) =
          some (String.ofList ('$' :: link), String.ofList rest) := by
        rw [Text.cutAt?_eq_some_iff, String.toList_ofList, String.toList_append]
        exact ⟨hlink, by simpa using hrest.symm⟩
      rw [hcut] at hlinked
      obtain ⟨rfl, -⟩ := Prod.mk.inj (Option.some.inj hlinked)
      exact ⟨column.toList, by simp⟩

end Predicate

/-! ## Readings -/

structure Reading where
  lead : Lead
  path : String
  ending : String
  deriving DecidableEq, Repr

namespace Reading

variable {catalog : Catalog} {model : Model} {value : Json} {predicate : Predicate}
  {reading : Reading}

def key (reading : Reading) : String := reading.lead.text ++ (reading.path ++ reading.ending)

/-- The parts of a key, with a value, say what the predicate says. -/
structure Tells (catalog : Catalog) (model : Model) (reading : Reading) (value : Json)
    (predicate : Predicate) : Prop where
  connective?_eq : predicate.connective? = reading.lead.connective?
  isRead : Filter.IsRead reading.ending value predicate.filter
  isAt : predicate.IsAt catalog model reading.path

theorem Tells.ofPair_eq (h : reading.Tells catalog model value predicate)
    (hlongest : reading.lead.IsLongest reading.key) :
    Predicate.ofPair catalog model reading.key value = .ok predicate := by
  have hsplit : Connective.split reading.key =
      (reading.lead.connective?, reading.path ++ reading.ending) :=
    Lead.split_append hlongest
  have hfield := Filter.ofField_of_isRead reading.key h.isAt.isUnended h.isRead
  have hlocate := h.isAt.locate_eq
  have hvalid := h.isAt.spelled.validate_eq_ok
  rw [h.connective?_eq] at hlocate
  unfold Predicate.ofPair
  simp only [hsplit, hfield, bind, Except.bind, hlocate, hvalid]
  rfl

theorem exists_tells {key : String}
    (h : Predicate.ofPair catalog model key value = .ok predicate) :
    ∃ reading : Reading, reading.key = key ∧ reading.lead.IsLongest key ∧
      reading.Tells catalog model value predicate := by
  obtain ⟨path, filter, hfield, hlocate, hvalid⟩ := Predicate.ofPair_eq_ok h
  obtain ⟨lead, field, rfl, hlongest, hsplit⟩ := Lead.exists_split_eq key
  rw [hsplit] at hfield hlocate
  obtain ⟨ending, rfl, hread⟩ := Filter.exists_isRead hfield
  obtain ⟨hplace, hconnective, rfl⟩ :=
    Predicate.isAt_of_locate hlocate (Column.spelled_of_validate hvalid)
  exact ⟨⟨lead, path, ending⟩, rfl, hlongest, hconnective, hread, hplace⟩

theorem Tells.unique {first second : Reading} {other : Predicate}
    (hfirst : first.Tells catalog model value predicate)
    (hsecond : second.Tells catalog model value other) (hkey : first.key = second.key)
    (hlongest : first.lead.IsLongest first.key) (hother : second.lead.IsLongest first.key) :
    first = second := by
  obtain ⟨lead, path, ending⟩ := first
  obtain ⟨found, front, back⟩ := second
  obtain rfl : lead = found := hlongest.unique hother
  have hfield : path ++ ending = front ++ back := (String.append_right_inj _).mp hkey
  have hpath := Filter.ofField_of_isRead "" hfirst.isAt.isUnended hfirst.isRead
  have hfront := Filter.ofField_of_isRead "" hsecond.isAt.isUnended hsecond.isRead
  rw [hfield, hfront] at hpath
  obtain ⟨rfl, -⟩ := Prod.mk.inj (Except.ok.inj hpath)
  obtain rfl := (String.append_right_inj _).mp hfield
  rfl

theorem Tells.isLongest (h : reading.Tells catalog model value predicate)
    (hor : ¬ "$or.".toList <+: reading.path.toList)
    (hand : ¬ "$and.".toList <+: reading.path.toList) :
    reading.lead.IsLongest reading.key := by
  refine Lead.isLongest_append (fun _ hbegins => hor ?_) (fun _ hbegins => hand ?_)
  · exact h.isAt.begins_of_append ['o', 'r'] (by decide) reading.ending hbegins
  · exact h.isAt.begins_of_append ['a', 'n', 'd'] (by decide) reading.ending hbegins

end Reading

/-- A pair is accepted exactly if its key has a reading, which is then the only one and tells the
predicate, and no field keeps a dollar sign.  What is built from parts is read as these parts,
unless its path begins as a link does. -/
theorem Predicate.ofPair_grammar (catalog : Catalog) (model : Model) (value : Json) :
    (∀ key predicate, ofPair catalog model key value = .ok predicate ↔
      ∃! reading : Reading, reading.key = key ∧ reading.lead.IsLongest key ∧
        reading.Tells catalog model value predicate) ∧
    (∀ key predicate, ofPair catalog model key value = .ok predicate →
      '$' ∉ predicate.field.toList) ∧
    ∀ (reading : Reading) predicate, reading.Tells catalog model value predicate →
      ¬ "$or.".toList <+: reading.path.toList → ¬ "$and.".toList <+: reading.path.toList →
      reading.lead.IsLongest reading.key ∧
        ofPair catalog model reading.key value = .ok predicate := by
  refine ⟨fun key predicate => ⟨fun h => ?_, ?_⟩, fun key predicate h => ?_, ?_⟩
  · obtain ⟨reading, rfl, hlongest, htells⟩ := Reading.exists_tells h
    refine ⟨reading, ⟨rfl, hlongest, htells⟩, ?_⟩
    rintro other ⟨hkey, hother, hotherTells⟩
    exact (htells.unique hotherTells hkey.symm hlongest hother).symm
  · rintro ⟨reading, ⟨rfl, hlongest, htells⟩, -⟩
    exact htells.ofPair_eq hlongest
  · obtain ⟨reading, -, -, htells⟩ := Reading.exists_tells h
    exact htells.isAt.spelled.not_mem '$' (by decide)
  · intro reading predicate htells hor hand
    have hlongest := htells.isLongest hor hand
    exact ⟨hlongest, htells.ofPair_eq hlongest⟩

theorem Predicate.ofPair_grammar_of_pattern :
    ofPair Sample.registry.catalog Sample.user "$or.$and.profile.city.$like" (.text "Lis*") =
      .ok ⟨some .and, "Profile", "profiles", "city", .compare .like (.text "Lis%"),
        some Sample.profileOfUser⟩ := by
  have hname : '.' ∉ "profile".toList := by decide
  have hcolumn : Column.IsName "city" := by decide
  have hplace : Predicate.IsAt Sample.registry.catalog Sample.user ("profile" ++ "." ++ "city")
      ⟨some .and, Sample.profile.name, Sample.profile.table, "city",
        .compare .like (.text "Lis%"), some Sample.profileOfUser⟩ :=
    .related hname rfl rfl (Column.isName_iff.mp hcolumn).1
  have hread : Filter.IsRead ".$like" (.text "Lis*") (.compare .like (.text "Lis%")) :=
    .test (.listed (by decide)) (.pattern (.inl rfl))
  exact ((ofPair_grammar _ _ _).2.2 ⟨.orAnd, "profile.city", ".$like"⟩ _ ⟨rfl, hread, hplace⟩
    (by decide) (by decide)).2

end ListQuery
