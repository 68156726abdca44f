import Mathlib.Data.List.Forall2
import ListQuery.Condition.Compile
import ListQuery.Proofs.Cut
import ListQuery.Proofs.Result
import ListQuery.Statement.Clause

/-!
# What compiling yields

A predicate that is compiled comes from one pair of the document and keeps its link, its
filter has the values that its test needs, and its table and field are those of the model or
of one that a relation leads to.  A document that is compiled yields such predicates only and
has recorded exactly their columns.
-/

namespace ListQuery

/-! ## Results one after the other -/

namespace Compiled

variable {α β γ : Type}

theorem exists_of_andThen_map {first : Compiled α} {next : Compiled β} {join : α → β → γ}
    {result : γ}
    (h : (first.andThen fun value => next.map (join value)).result = .ok result) :
    ∃ value rest, first.result = .ok value ∧ next.result = .ok rest ∧
      result = join value rest ∧
      (first.andThen fun value => next.map (join value)).columns =
        first.columns ++ next.columns := by
  cases hfirst : first.result with
  | error error =>
      rw [andThen_of_error _ hfirst] at h
      cases h
  | ok value =>
      rw [andThen_of_ok _ hfirst] at h ⊢
      obtain ⟨rest, hrest, hresult⟩ := exists_of_map_eq_ok h
      exact ⟨value, rest, rfl, hrest, hresult.symm, rfl⟩

end Compiled

/-! ## Filters -/

def Test.filter : Test → Filter
  | .null test => .null test
  | .compare comparison value => .compare comparison value
  | .isIn false values => .set .isIn values
  | .isIn true values => .set .isNotIn values
  | .between false low high => .set .between [low, high]
  | .between true low high => .set .notBetween [low, high]

namespace Filter

/-- A range has two bounds, and a pattern is a text without asterisks. -/
def IsWellShaped : Filter → Prop
  | .compare .like value => ∃ pattern, value = .text pattern ∧ '*' ∉ pattern.toList
  | .compare .notLike value => ∃ pattern, value = .text pattern ∧ '*' ∉ pattern.toList
  | .set test values => test.isRange → values.length = 2
  | _ => True

theorem exists_test_of_isWellShaped {filter : Filter} (h : filter.IsWellShaped) :
    ∃ check, filter.test? = some check ∧ check.filter = filter := by
  cases filter with
  | null test => exact ⟨.null test, rfl, rfl⟩
  | compare comparison value =>
      cases comparison with
      | like =>
          obtain ⟨pattern, rfl, -⟩ := h
          exact ⟨.compare .like (.text pattern), rfl, rfl⟩
      | notLike =>
          obtain ⟨pattern, rfl, -⟩ := h
          exact ⟨.compare .notLike (.text pattern), rfl, rfl⟩
      | _ => exact ⟨.compare _ value, rfl, rfl⟩
  | set test values =>
      cases test with
      | isIn => exact ⟨.isIn false values, rfl, rfl⟩
      | isNotIn => exact ⟨.isIn true values, rfl, rfl⟩
      | between =>
          obtain ⟨low, high, rfl⟩ := List.length_eq_two.mp (h rfl)
          exact ⟨.between false low high, rfl, rfl⟩
      | notBetween =>
          obtain ⟨low, high, rfl⟩ := List.length_eq_two.mp (h rfl)
          exact ⟨.between true low high, rfl, rfl⟩

theorem isWellShaped_of_ofValue? {operator : Operator} {value : Json} {filter : Filter}
    (h : ofValue? operator value = some filter) : filter.IsWellShaped := by
  unfold ofValue? at h
  split at h
  · next pattern =>
      cases h
      exact ⟨_, rfl, Text.not_mem_substitute (by decide) pattern⟩
  · next pattern =>
      cases h
      exact ⟨_, rfl, Text.not_mem_substitute (by decide) pattern⟩
  · cases h
  · cases h
  · next comparison hlike hnotLike _ _ =>
      obtain ⟨scalar, -, rfl⟩ := Option.map_eq_some_iff.mp h
      cases comparison with
      | like => exact (hlike rfl).elim
      | notLike => exact (hnotLike rfl).elim
      | _ => trivial
  · next test =>
      obtain ⟨values, -, h⟩ := Option.bind_eq_some_iff.mp h
      split at h
      · cases h
      · next hbounds =>
          cases h
          intro hrange
          simpa [hrange] using hbounds

theorem isWellShaped_of_ofField {key field path : String} {value : Json} {filter : Filter}
    (h : ofField key field value = .ok (path, filter)) : filter.IsWellShaped := by
  unfold ofField at h
  split at h
  · split at h
    · cases h
      trivial
    · cases h
      trivial
  · simp only at h
    split at h
    · next hvalue =>
        cases h
        exact isWellShaped_of_ofValue? hvalue
    · cases h

end Filter

/-! ## Predicates -/

namespace Predicate

variable {catalog : Catalog} {model : Model} {connective? : Option Connective}
  {path key : String} {filter : Filter} {value : Json} {predicate : Predicate}

theorem locate_eq_ok (h : locate catalog model connective? path filter = .ok predicate) :
    (Text.cutAt? '.' path = none ∧
      predicate = ⟨connective?, model.name, model.table, path, filter, none⟩) ∨
    ∃ name column relation related, Text.cutAt? '.' path = some (name, column) ∧
      model.toOne? name = some relation ∧ catalog.model? relation.model = some related ∧
      predicate = ⟨connective?, related.name, related.table, column, filter, some relation⟩ := by
  unfold locate at h
  split at h
  · next hcut =>
      cases h
      exact .inl ⟨hcut, rfl⟩
  · next name column hcut =>
      split at h
      · cases h
      · next relation hrelation =>
          split at h
          · cases h
          · next related hrelated =>
              cases h
              exact .inr ⟨name, column, relation, related, hcut, hrelation, hrelated, rfl⟩

theorem ofPair_eq_ok (h : ofPair catalog model key value = .ok predicate) :
    ∃ path filter, Filter.ofField key (Connective.split key).2 value = .ok (path, filter) ∧
      locate catalog model (Connective.split key).1 path filter = .ok predicate ∧
      Column.validate predicate.field = .ok () := by
  obtain ⟨⟨path, filter⟩, hfield, h⟩ := exists_of_bind_eq_ok h
  obtain ⟨located, hlocated, h⟩ := exists_of_bind_eq_ok h
  obtain ⟨_, hvalid, h⟩ := exists_of_bind_eq_ok h
  cases h
  exact ⟨path, filter, hfield, hlocated, hvalid⟩

theorem connective?_of_ofPair (h : ofPair catalog model key value = .ok predicate) :
    predicate.connective? = (Connective.split key).1 := by
  obtain ⟨path, filter, -, hlocate, -⟩ := ofPair_eq_ok h
  rcases locate_eq_ok hlocate with ⟨-, rfl⟩ | ⟨_, _, _, _, -, -, -, rfl⟩
  · rfl
  · rfl

theorem isWellShaped_of_ofPair (h : ofPair catalog model key value = .ok predicate) :
    predicate.filter.IsWellShaped := by
  obtain ⟨path, filter, hfield, hlocate, -⟩ := ofPair_eq_ok h
  have hshape := Filter.isWellShaped_of_ofField hfield
  rcases locate_eq_ok hlocate with ⟨-, rfl⟩ | ⟨_, _, _, _, -, -, -, rfl⟩
  · exact hshape
  · exact hshape

theorem compile_of_ofPair (h : ofPair catalog model key value = .ok predicate) :
    compile catalog model key value = ⟨.ok predicate, [predicate.column]⟩ := by
  unfold compile
  rw [h]

theorem compile_eq_ok (h : (compile catalog model key value).result = .ok predicate) :
    ofPair catalog model key value = .ok predicate ∧
      (compile catalog model key value).columns = [predicate.column] := by
  cases hpair : ofPair catalog model key value with
  | error error =>
      unfold compile at h
      rw [hpair] at h
      cases h
  | ok found =>
      rw [compile_of_ofPair hpair] at h ⊢
      cases h
      exact ⟨rfl, rfl⟩

def IsOfPair (catalog : Catalog) (model : Model) (predicate : Predicate) : Prop :=
  ∃ key value, ofPair catalog model key value = .ok predicate

end Predicate

/-! ## Documents -/

namespace Condition

variable {catalog : Catalog} {model : Model}

theorem predicatesAmong_map_predicate (predicates : List Predicate) :
    predicatesAmong (predicates.map .predicate) = predicates := by
  induction predicates with
  | nil => rfl
  | cons predicate predicates ih => simp [predicatesAmong, Condition.predicates, ih]

theorem compilePairs_eq_ok {pairs : List (String × Json)} {members : List Condition}
    (h : (compilePairs catalog model pairs).result = .ok members) :
    ∃ predicates : List Predicate, members = predicates.map .predicate ∧
      List.Forall₂ (fun pair predicate =>
        Predicate.ofPair catalog model pair.1 pair.2 = .ok predicate) pairs predicates ∧
      (compilePairs catalog model pairs).columns = predicates.map Predicate.column := by
  induction pairs generalizing members with
  | nil =>
      cases h
      exact ⟨[], rfl, .nil, rfl⟩
  | cons pair pairs ih =>
      obtain ⟨key, value⟩ := pair
      obtain ⟨predicate, rest, hfirst, hrest, hmembers, hcolumns⟩ :=
        Compiled.exists_of_andThen_map h
      obtain ⟨hpair, hcolumn⟩ := Predicate.compile_eq_ok hfirst
      obtain ⟨predicates, rfl, hpairs, hothers⟩ := ih hrest
      refine ⟨predicate :: predicates, hmembers, .cons hpair hpairs, ?_⟩
      rw [compilePairs, hcolumns, hcolumn, hothers]
      rfl

theorem isOfPair_of_forall₂ {pairs : List (String × Json)} {predicates : List Predicate}
    (h : List.Forall₂ (fun pair predicate =>
      Predicate.ofPair catalog model pair.1 pair.2 = .ok predicate) pairs predicates) :
    ∀ predicate ∈ predicates, predicate.IsOfPair catalog model := by
  induction h with
  | nil => simp
  | cons hpair _ ih =>
      intro predicate hmem
      rcases List.mem_cons.mp hmem with rfl | hmem
      · exact ⟨_, _, hpair⟩
      · exact ih predicate hmem

mutual

theorem compileValue_eq_ok : ∀ (document : Json) {condition : Condition},
    (compileValue catalog model document).result = .ok condition →
    (compileValue catalog model document).columns =
        condition.predicates.map Predicate.column ∧
      ∀ predicate ∈ condition.predicates, predicate.IsOfPair catalog model
  | .array items, condition, h => by
      obtain ⟨members, hmembers, rfl⟩ := exists_of_map_eq_ok h
      exact compileItems_eq_ok items hmembers
  | .object pairs, condition, h => by
      obtain ⟨members, hmembers, rfl⟩ := exists_of_map_eq_ok h
      obtain ⟨predicates, rfl, hpairs, hcolumns⟩ := compilePairs_eq_ok hmembers
      rw [Condition.predicates, predicatesAmong_map_predicate]
      exact ⟨hcolumns, isOfPair_of_forall₂ hpairs⟩
  | .null, condition, h => by
      cases h
      exact ⟨rfl, by simp [predicates, predicatesAmong]⟩
  | .bool _, condition, h => by cases h
  | .number _, condition, h => by cases h
  | .text _, condition, h => by cases h

theorem compileItems_eq_ok : ∀ (items : List Json) {members : List Condition},
    (compileItems catalog model items).result = .ok members →
    (compileItems catalog model items).columns =
        (predicatesAmong members).map Predicate.column ∧
      ∀ predicate ∈ predicatesAmong members, predicate.IsOfPair catalog model
  | [], members, h => by
      cases h
      exact ⟨rfl, by simp [predicatesAmong]⟩
  | item :: items, members, h => by
      obtain ⟨condition, rest, hfirst, hrest, rfl, hcolumns⟩ := Compiled.exists_of_andThen_map h
      obtain ⟨hitem, hpredicates⟩ := compileValue_eq_ok item hfirst
      obtain ⟨hitems, hothers⟩ := compileItems_eq_ok items hrest
      constructor
      · rw [compileItems, hcolumns, hitem, hitems]
        simp [predicatesAmong]
      · intro predicate hmem
        rw [predicatesAmong, List.mem_append] at hmem
        exact hmem.elim (hpredicates predicate) (hothers predicate)

end

/-! ## Payloads -/

/-- The document of a payload; a payload with nothing in it is taken as `null`. -/
def document? (payload? : Option String) : Option Json :=
  let content := stripPayload (payload?.getD "")
  if content.isEmpty then some .null else Json.read? content

theorem compile_eq (catalog : Catalog) (model : Model) (payload? : Option String) :
    compile catalog model payload? =
      match document? payload? with
      | some document => compileValue catalog model document
      | none => .fail (.malformedFilter (stripPayload (payload?.getD ""))) := by
  unfold compile compileAfter document?
  by_cases hempty : (stripPayload (payload?.getD "")).isEmpty
  · simp only [hempty, if_true]
    rfl
  · simp only [hempty]
    cases hread : Json.read? (stripPayload (payload?.getD "")) with
    | none => rfl
    | some document => rfl

theorem compile_eq_ok {payload? : Option String} {condition : Condition}
    (h : (compile catalog model payload?).result = .ok condition) :
    ∃ document, document? payload? = some document ∧
      (compileValue catalog model document).result = .ok condition ∧
      (compile catalog model payload?).columns = condition.predicates.map Predicate.column := by
  rw [compile_eq] at h ⊢
  cases hdocument : document? payload? with
  | none =>
      rw [hdocument] at h
      cases h
  | some document =>
      rw [hdocument] at h
      exact ⟨document, rfl, h, (compileValue_eq_ok document h).1⟩

theorem isOfPair_of_compile {payload? : Option String} {condition : Condition}
    (h : (compile catalog model payload?).result = .ok condition) :
    ∀ predicate ∈ condition.predicates, predicate.IsOfPair catalog model := by
  obtain ⟨document, -, hcompile, -⟩ := compile_eq_ok h
  exact (compileValue_eq_ok document hcompile).2

end Condition

/-! ## A catalog to try things on -/

namespace Sample

def profileOfUser : Relation := ⟨"profile", .one, "Profile", "id", "profile_id"⟩

def user : Model :=
  ⟨"User", "users", ["id", "age", "profile_id"], [profileOfUser], ["id"], none⟩

def profile : Model := ⟨"Profile", "profiles", ["id", "city"], [], [], none⟩

def registry : Registry := .ofList [user, profile]

end Sample

end ListQuery
