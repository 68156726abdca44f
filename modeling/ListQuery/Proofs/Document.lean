import ListQuery.Proofs.Assembly
import ListQuery.Proofs.Compile
import ListQuery.Proofs.Cut

/-!
# What documents say

A document of filters is read without its compilation: an array or object has the value of
its linked members, a pair that of its test, and a member without pairs is passed over.  A
key links by conjunction unless it asks for a disjunction, and a member as its first key
does.  The condition of a statement that is filtered by a document has this value.
-/

namespace ListQuery

/-! ## Values of documents -/

def Connective.ofKey (key : String) : Connective :=
  if "$or.".toList <+: key.toList ∧ ¬ "$or.$and.".toList <+: key.toList then .or else .and

namespace Json

mutual

def firstKey? : Json → Option String
  | .array items => firstKeyAmong? items
  | .object pairs => pairs.head?.map (·.1)
  | _ => none

def firstKeyAmong? : List Json → Option String
  | [] => none
  | item :: items => (firstKey? item).or (firstKeyAmong? items)

end

def connective (document : Json) : Connective := document.firstKey?.elim .and Connective.ofKey

variable {α : Type} [Lattice α] (pairValue : String → Json → α)

mutual

def value? : Json → Option α
  | .array items => Linked.value? (linkedItems items)
  | .object pairs =>
      Linked.value? (pairs.map fun (key, value) => (.ofKey key, pairValue key value))
  | _ => none

def linkedItems : List Json → List (Connective × α)
  | [] => []
  | item :: items =>
      ((value? item).map fun value => (item.connective, value)).toList ++ linkedItems items

end

mutual

theorem value?_eq_none_iff : ∀ document : Json,
    document.value? pairValue = none ↔ document.firstKey? = none
  | .array items => by
      rw [value?, firstKey?, Linked.value?_eq_none_iff, linkedItems_eq_nil_iff items]
  | .object pairs => by
      rw [value?, firstKey?, Linked.value?_eq_none_iff]
      simp
  | .null => by simp [value?, firstKey?]
  | .bool _ => by simp [value?, firstKey?]
  | .number _ => by simp [value?, firstKey?]
  | .text _ => by simp [value?, firstKey?]

theorem linkedItems_eq_nil_iff : ∀ items : List Json,
    linkedItems pairValue items = [] ↔ firstKeyAmong? items = none
  | [] => by simp [linkedItems, firstKeyAmong?]
  | item :: items => by
      rw [linkedItems, firstKeyAmong?, List.append_eq_nil_iff, linkedItems_eq_nil_iff items,
        Option.or_eq_none_iff, ← value?_eq_none_iff item]
      simp

end

end Json

/-! ## Keys -/

theorem Connective.getD_split (key : String) :
    (Connective.split key).1.getD .and = .ofKey key := by
  unfold split ofKey
  cases hor : Text.after? "$or." key with
  | none =>
      have hlead := Text.after?_eq_none_iff.mp hor
      simp only [hlead, false_and, if_false]
      split <;> rfl
  | some rest =>
      have hkey := Text.after?_eq_some_iff.mp hor
      have hboth : "$or.$and.".toList <+: key.toList ↔ "$and.".toList <+: rest.toList := by
        rw [hkey, show "$or.$and.".toList = "$or.".toList ++ "$and.".toList from rfl,
          List.prefix_append_right_inj]
      have hlead : "$or.".toList <+: key.toList := ⟨rest.toList, hkey.symm⟩
      simp only [hlead, true_and, hboth]
      cases hand : Text.after? "$and." rest with
      | none =>
          rw [if_pos (Text.after?_eq_none_iff.mp hand)]
          rfl
      | some last =>
          have hlast : "$and.".toList <+: rest.toList :=
            ⟨last.toList, (Text.after?_eq_some_iff.mp hand).symm⟩
          rw [if_neg (not_not.mpr hlast)]
          rfl

theorem Predicate.connective_of_ofPair {catalog : Catalog} {model : Model} {key : String}
    {value : Json} {predicate : Predicate}
    (h : ofPair catalog model key value = .ok predicate) :
    predicate.connective = .ofKey key := by
  rw [connective, connective?_of_ofPair h, Connective.getD_split]

/-! ## Values of compiled conditions -/

section Value

variable {α : Type} [Lattice α] [BoundedOrder α] {catalog : Catalog} {model : Model}
  (assignment : Assignment α)

/-- The value of the test that a pair stands for.  A pair that is rejected, of which there is
none in a document that is compiled, counts as true. -/
def Predicate.valueOfPair (catalog : Catalog) (model : Model) (key : String) (value : Json) : α :=
  match ofPair catalog model key value with
  | .ok predicate => (predicate.filter.test?.map (assignment predicate.column)).getD ⊤
  | .error _ => ⊤

theorem Linked.ofSteps_predicate {key : String} {value : Json} {predicate : Predicate}
    (h : Predicate.ofPair catalog model key value = .ok predicate) (steps : List Step) :
    ofSteps assignment (predicate.step :: steps) =
      (.ofKey key, Predicate.valueOfPair assignment catalog model key value) ::
        ofSteps assignment steps := by
  obtain ⟨check, hcheck, -⟩ :=
    Filter.exists_test_of_isWellShaped (Predicate.isWellShaped_of_ofPair h)
  have hvalue : Predicate.valueOfPair assignment catalog model key value =
      assignment predicate.column check := by
    unfold Predicate.valueOfPair
    simp only [h, hcheck, Option.map_some, Option.getD_some]
  rw [Predicate.step, ofSteps_test, Predicate.connective_of_ofPair h, hcheck, hvalue]
  rfl

namespace Condition

theorem linked_stepsOf_pairs {pairs : List (String × Json)} {predicates : List Predicate}
    (h : List.Forall₂ (fun pair predicate =>
      Predicate.ofPair catalog model pair.1 pair.2 = .ok predicate) pairs predicates) :
    Linked.ofSteps assignment (stepsOf (predicates.map .predicate)) =
      pairs.map fun (key, value) =>
        (.ofKey key, Predicate.valueOfPair assignment catalog model key value) := by
  induction h with
  | nil => rfl
  | cons hpair _ ih =>
      rw [List.map_cons, stepsOf, step, Linked.ofSteps_predicate assignment hpair, ih]
      rfl

theorem connective_eq_getD (condition : Condition) :
    condition.connective = (condition.firstPredicate?.map Predicate.connective).getD .and := by
  rw [connective]
  cases condition.firstPredicate? <;> rfl

theorem firstAmong?_cons (condition : Condition) (conditions : List Condition) :
    firstAmong? (condition :: conditions) =
      condition.firstPredicate?.or (firstAmong? conditions) := by
  rw [firstAmong?]
  cases condition.firstPredicate? <;> rfl

theorem firstAmong?_pairs {pairs : List (String × Json)} {predicates : List Predicate}
    (h : List.Forall₂ (fun pair predicate =>
      Predicate.ofPair catalog model pair.1 pair.2 = .ok predicate) pairs predicates) :
    (firstAmong? (predicates.map .predicate)).map Predicate.connective =
      (pairs.head?.map (·.1)).map Connective.ofKey := by
  cases h with
  | nil => rfl
  | cons hpair _ =>
      rw [List.map_cons, firstAmong?_cons, List.head?_cons]
      simp [firstPredicate?, Predicate.connective_of_ofPair hpair]

mutual

/-- A document and the group that it is compiled to have one value and link alike. -/
theorem linked_of_compileValue : ∀ (document : Json) {condition : Condition},
    (compileValue catalog model document).result = .ok condition →
    ∃ members, condition = .group members ∧
      Linked.value? (Linked.ofSteps assignment (stepsOf members)) =
        document.value? (Predicate.valueOfPair assignment catalog model) ∧
      (firstAmong? members).map Predicate.connective = document.firstKey?.map Connective.ofKey
  | .array items, condition, h => by
      obtain ⟨members, hmembers, rfl⟩ := exists_of_map_eq_ok h
      obtain ⟨hvalue, hfirst⟩ := linked_of_compileItems items hmembers
      exact ⟨members, rfl, congrArg Linked.value? hvalue, hfirst⟩
  | .object pairs, condition, h => by
      obtain ⟨members, hmembers, rfl⟩ := exists_of_map_eq_ok h
      obtain ⟨predicates, rfl, hpairs, -⟩ := compilePairs_eq_ok hmembers
      exact ⟨_, rfl, congrArg Linked.value? (linked_stepsOf_pairs assignment hpairs),
        firstAmong?_pairs hpairs⟩
  | .null, condition, h => by
      cases h
      exact ⟨[], rfl, rfl, rfl⟩
  | .bool _, condition, h => by cases h
  | .number _, condition, h => by cases h
  | .text _, condition, h => by cases h

theorem linked_of_compileItems : ∀ (items : List Json) {members : List Condition},
    (compileItems catalog model items).result = .ok members →
    Linked.ofSteps assignment (stepsOf members) =
        Json.linkedItems (Predicate.valueOfPair assignment catalog model) items ∧
      (firstAmong? members).map Predicate.connective =
        (Json.firstKeyAmong? items).map Connective.ofKey
  | [], members, h => by
      cases h
      exact ⟨rfl, rfl⟩
  | item :: items, members, h => by
      obtain ⟨condition, rest, hcondition, hrest, rfl, -⟩ := Compiled.exists_of_andThen_map h
      obtain ⟨inner, rfl, hvalue, hfirst⟩ := linked_of_compileValue item hcondition
      obtain ⟨hvalues, hothers⟩ := linked_of_compileItems items hrest
      -- The group has its link from a predicate, the item from the key that it was read from.
      have hlink : (Condition.group inner).connective = item.connective := by
        rw [connective_eq_getD, firstPredicate?, hfirst, Json.connective]
        cases item.firstKey? <;> rfl
      constructor
      · rw [stepsOf, step, Linked.ofSteps_group, hvalue, hvalues, hlink, Json.linkedItems]
      · rw [firstAmong?_cons, firstPredicate?, Option.map_or, hfirst, hothers,
          Json.firstKeyAmong?, Option.map_or]

end

/-- A statement that is filtered by a payload has a condition of the value of the payload's
document, and has none if the document has no pairs. -/
theorem map_value_condition_of_payload {payload? : Option String} {condition : Condition}
    (h : (compile catalog model payload?).result = .ok condition) (joined : JoinRegistry)
    (table : String) :
    let draft := Draft.ofSteps table (Assembly.ofCondition model joined condition).steps
    ∃ document, document? payload? = some document ∧
      draft.rows.selection.condition.map (Clause.value assignment) =
        document.value? (Predicate.valueOfPair assignment catalog model) ∧
      (draft.rows.selection.condition = none ↔ document.firstKey? = none) := by
  intro draft
  obtain ⟨document, hdocument, hcompile, -⟩ := compile_eq_ok h
  obtain ⟨members, rfl, hvalue, -⟩ := linked_of_compileValue assignment document hcompile
  have hcondition : draft.rows.selection.condition.map (Clause.value assignment) =
      document.value? (Predicate.valueOfPair assignment catalog model) := by
    rw [Draft.map_value_condition_ofSteps, Assembly.value?_ofCondition]
    exact hvalue
  refine ⟨document, hdocument, hcondition, ?_⟩
  rw [← Json.value?_eq_none_iff (Predicate.valueOfPair assignment catalog model), ← hcondition,
    Option.map_eq_none_iff]

end Condition

end Value

open Sample in
theorem Condition.map_value_condition_of_members :
    let payload? := some
      "[\x7b\"$or.age.$gte\": 18\x7d, null, \x7b\"$or.profile.city\": \"Bern\"\x7d]"
    let condition : Condition := .group
      [.group [.predicate
          ⟨some .or, "User", "users", "age", .compare .greaterOrEqual (.int 18), none⟩],
        .group [],
        .group [.predicate ⟨some .or, "Profile", "profiles", "city",
          .compare .equal (.text "Bern"), some profileOfUser⟩]]
    let draft := Draft.ofSteps "users" (Assembly.ofCondition user .empty condition).steps
    (compile registry.catalog user payload?).result = .ok condition ∧
      ∀ assignment : Assignment Truth, ∃ document, document? payload? = some document ∧
        draft.rows.selection.condition.map (Clause.value assignment) =
          document.value? (Predicate.valueOfPair assignment registry.catalog user) ∧
        (draft.rows.selection.condition = none ↔ document.firstKey? = none) := by
  intro payload? condition draft
  have hstrip : stripPayload (payload?.getD "") =
      "[\x7b\"$or.age.$gte\":18\x7d,null,\x7b\"$or.profile.city\":\"Bern\"\x7d]" := by
    decide +kernel
  have hdocument : document? payload? = some (.array
      [.object [("$or.age.$gte", .number (.integer 18))], .null,
        .object [("$or.profile.city", .text "Bern")]]) := by
    rw [document?, hstrip]
    rfl
  have hcompile : (compile registry.catalog user payload?).result = .ok condition := by
    rw [compile_eq, hdocument]
    rfl
  refine ⟨hcompile, ?_⟩
  intro assignment
  exact map_value_condition_of_payload assignment hcompile .empty "users"

end ListQuery
