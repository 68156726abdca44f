import ListQuery.Proofs.Assembly
import ListQuery.Proofs.Leaves

/-!
# Masked values

To mask a query is to put an empty text in the place of every value that it compares with
and to ask for no page at all.  What is left is the shape of the query.  Each stage of the
assembly commutes with masking, so a query and its shape lead to statements of one shape.
-/

namespace ListQuery

/-! ## Queries -/

def Filter.masked : Filter → Filter
  | .null test => .null test
  | .compare comparison _ => .compare comparison (.text "")
  | .set test values => .set test (values.map fun _ => .text "")

def Predicate.masked (predicate : Predicate) : Predicate :=
  { predicate with filter := predicate.filter.masked }

namespace Condition

mutual

def masked : Condition → Condition
  | .predicate leaf => .predicate leaf.masked
  | .group members => .group (maskedAmong members)

def maskedAmong : List Condition → List Condition
  | [] => []
  | condition :: conditions => condition.masked :: maskedAmong conditions

end

end Condition

def Query.masked (query : Query) : Query :=
  { query with page := 0, perPage := 0, condition := query.condition.masked }

def ParentScope.masked (scope : ParentScope) : ParentScope := { scope with parentId := .text "" }

/-! ## Statements -/

def Test.masked : Test → Test
  | .null test => .null test
  | .compare comparison _ => .compare comparison (.text "")
  | .isIn negated values => .isIn negated (values.map fun _ => .text "")
  | .between negated _ _ => .between negated (.text "") (.text "")

namespace Clause

mutual

def masked : Clause → Clause
  | .test path check => .test path check.masked
  | .all members => .all (maskedAmong members)
  | .any members => .any (maskedAmong members)

def maskedAmong : List Clause → List Clause
  | [] => []
  | clause :: clauses => clause.masked :: maskedAmong clauses

end

theorem maskedAmong_eq_map (clauses : List Clause) : maskedAmong clauses = clauses.map masked := by
  induction clauses with
  | nil => rfl
  | cons clause clauses ih => rw [maskedAmong, ih, List.map_cons]

theorem asMember_masked (clause : Clause) : clause.masked.asMember = clause.asMember.masked := by
  cases clause with
  | test path check => rfl
  | all members => rcases members with _ | ⟨first, _ | ⟨second, rest⟩⟩ <;> rfl
  | any members => rcases members with _ | ⟨first, _ | ⟨second, rest⟩⟩ <;> rfl

end Clause

def Link.masked (link : Link) : Link := (link.1, link.2.masked)

def Selection.masked (selection : Selection) : Selection :=
  { selection with
    condition := selection.condition.map Clause.masked
    window := selection.window.map fun _ => ⟨0, 0⟩ }

def Statement.masked : Statement → Statement
  | .rows selection => .rows selection.masked
  | .count selection => .count selection.masked

/-! ## Filters and predicates -/

theorem Filter.test?_masked (filter : Filter) :
    filter.masked.test? = filter.test?.map Test.masked := by
  cases filter with
  | null test => rfl
  | compare comparison value => cases comparison <;> rfl
  | set test values =>
      cases test with
      | isIn => rfl
      | isNotIn => rfl
      | between => rcases values with _ | ⟨low, _ | ⟨high, _ | ⟨third, rest⟩⟩⟩ <;> rfl
      | notBetween => rcases values with _ | ⟨low, _ | ⟨high, _ | ⟨third, rest⟩⟩⟩ <;> rfl

namespace Condition

mutual

theorem masked_eq_map : ∀ condition : Condition, condition.masked = condition.map Predicate.masked
  | .predicate _ => rfl
  | .group members => congrArg group (maskedAmong_eq_mapAmong members)

theorem maskedAmong_eq_mapAmong : ∀ conditions : List Condition,
    maskedAmong conditions = mapAmong Predicate.masked conditions
  | [] => rfl
  | condition :: conditions => by
      rw [maskedAmong, mapAmong, masked_eq_map condition, maskedAmong_eq_mapAmong conditions]

end

theorem predicates_masked (condition : Condition) :
    condition.masked.predicates = condition.predicates.map Predicate.masked := by
  rw [masked_eq_map, predicates_map]

theorem connective_masked (condition : Condition) :
    condition.masked.connective = condition.connective := by
  have hleaf : ∀ leaf : Predicate, leaf.masked.connective = leaf.connective := fun _ => rfl
  rw [masked_eq_map, connective_map hleaf]

end Condition

theorem Join.missing_masked (model : Model) (registry : JoinRegistry)
    (predicates : List Predicate) :
    missing model registry (predicates.map Predicate.masked) =
      missing model registry predicates := by
  induction predicates generalizing registry with
  | nil => rfl
  | cons predicate predicates ih =>
      have hjoin : predicate.masked.join? model = predicate.join? model := rfl
      simp only [List.map_cons, missing, hjoin, ih]

/-! ## Chains -/

namespace Chain

def masked (chain : Chain) : Chain := ⟨chain.runs.map (List.map Clause.masked)⟩

theorem masked_push (chain : Chain) (connective : Connective) (clause : Clause) :
    (chain.push connective clause).masked = chain.masked.push connective clause.masked := by
  obtain ⟨runs⟩ := chain
  rcases List.eq_nil_or_concat runs with rfl | ⟨front, run, rfl⟩
  · cases connective <;> rfl
  · cases connective <;> simp [push, masked]

theorem masked_pushAll (chain : Chain) (links : List Link) :
    (chain.pushAll links).masked = chain.masked.pushAll (links.map Link.masked) := by
  induction links generalizing chain with
  | nil => rfl
  | cons link links ih => rw [pushAll_cons, ih, masked_push, List.map_cons, pushAll_cons]; rfl

theorem ofLinks_masked (links : List Link) :
    ofLinks (links.map Link.masked) = (ofLinks links).masked :=
  (masked_pushAll empty links).symm

theorem ofRun_masked (run : List Clause) :
    ofRun (run.map Clause.masked) = (ofRun run).masked := by
  simp [ofRun, Clause.masked, Clause.maskedAmong_eq_map, Clause.asMember_masked]

theorem clause?_masked (chain : Chain) :
    chain.masked.clause? = chain.clause?.map Clause.masked := by
  obtain ⟨runs⟩ := chain
  rcases runs with _ | ⟨first, _ | ⟨second, rest⟩⟩
  · rfl
  · simp [clause?, masked, ofRun_masked]
  · simp [clause?, masked, ofRun_masked, Clause.asMember_masked, Clause.masked,
      Clause.maskedAmong_eq_map]

end Chain

/-! ## Assembled queries -/

namespace Condition

mutual

theorem ofStep?_masked : ∀ condition : Condition,
    Link.ofStep? condition.masked.step = (Link.ofStep? condition.step).map Link.masked
  | .predicate leaf => by
      have htest := leaf.filter.test?_masked
      simp only [masked, step, Predicate.step, Link.ofStep?, Predicate.masked, htest]
      cases leaf.filter.test? <;> rfl
  | .group members => by
      -- A group is linked as its first predicate, and a link is no value.
      have hconnective := connective_masked (.group members)
      rw [masked] at hconnective ⊢
      rw [step, step, hconnective, Link.ofStep?, Link.ofStep?, ofSteps_stepsOf_masked members,
        Chain.ofLinks_masked, Chain.clause?_masked, Option.map_map, Option.map_map]
      rfl

theorem ofSteps_stepsOf_masked : ∀ conditions : List Condition,
    Link.ofSteps (stepsOf (maskedAmong conditions)) =
      (Link.ofSteps (stepsOf conditions)).map Link.masked
  | [] => rfl
  | condition :: conditions => by
      rw [maskedAmong, stepsOf, stepsOf, Link.ofSteps, Link.ofSteps, ofStep?_masked condition,
        ofSteps_stepsOf_masked conditions, List.map_append]
      cases Link.ofStep? condition.step <;> rfl

end

theorem clause?_masked (condition : Condition) :
    condition.masked.clause? = condition.clause?.map Clause.masked := by
  have hlinks : Link.ofSteps condition.masked.filterSteps =
      (Link.ofSteps condition.filterSteps).map Link.masked := by
    cases condition with
    | predicate leaf => exact ofSteps_stepsOf_masked [.predicate leaf]
    | group members => exact ofSteps_stepsOf_masked members
  rw [clause?, hlinks, Chain.ofLinks_masked, Chain.clause?_masked, clause?]

end Condition

namespace Assembly

variable (model : Model) (joined : JoinRegistry) (query : Query)
  (scope? : Option ParentScope) (paginate : Bool)

theorem links_masked :
    links model query.masked (scope?.map ParentScope.masked) =
      (links model query scope?).map Link.masked := by
  have hclause : query.masked.condition.clause? = query.condition.clause?.map Clause.masked :=
    query.condition.clause?_masked
  rw [links, links, hclause]
  cases scope? <;> cases query.condition.clause? <;> rfl

theorem rows_masked (table : String) :
    (Draft.ofSteps table
        (ofQuery model joined query.masked (scope?.map ParentScope.masked) paginate).steps).rows =
      (Draft.ofSteps table (ofQuery model joined query scope? paginate).steps).rows.masked := by
  have hjoins : neededJoins model joined query.masked = neededJoins model joined query := by
    have hpredicates : query.masked.condition.predicates =
        query.condition.predicates.map Predicate.masked := query.condition.predicates_masked
    rw [neededJoins, hpredicates, Join.missing_masked, neededJoins]
  have hprojection : projectionAction model query.masked = projectionAction model query := rfl
  rw [rows_ofQuery, rows_ofQuery, selection, links_masked, Chain.ofLinks_masked,
    Chain.clause?_masked, hjoins, hprojection]
  cases paginate <;> rfl

end Assembly

end ListQuery
