import Mathlib.Logic.Relation
import ListQuery.Condition.Basic

/-!
# Traversals of conditions

The search for the first predicate of a condition ends where it finds one, and all predicates go
into one buffer that is handed from node to node.  Both go depth first, so what the search finds
is the head of what the buffer holds in the end.  Neither notices nodes without predicates, nor
groups around a single node.
-/

namespace ListQuery.Condition

/-! ## One buffer -/

mutual

def collect (buffer : List Predicate) : Condition → List Predicate
  | .predicate leaf => buffer ++ [leaf]
  | .group members => collectAmong buffer members

def collectAmong (buffer : List Predicate) : List Condition → List Predicate
  | [] => buffer
  | condition :: conditions => collectAmong (condition.collect buffer) conditions

end

mutual

theorem collect_eq (buffer : List Predicate) : ∀ condition : Condition,
    condition.collect buffer = buffer ++ condition.predicates
  | .predicate _ => rfl
  | .group members => collectAmong_eq buffer members

theorem collectAmong_eq (buffer : List Predicate) : ∀ conditions : List Condition,
    collectAmong buffer conditions = buffer ++ predicatesAmong conditions
  | [] => (List.append_nil buffer).symm
  | condition :: conditions => by
      rw [collectAmong, collect_eq buffer condition, collectAmong_eq _ conditions,
        predicatesAmong, List.append_assoc]

end

/-! ## The first predicate -/

mutual

theorem firstPredicate?_eq : ∀ condition : Condition,
    condition.firstPredicate? = condition.predicates.head?
  | .predicate _ => rfl
  | .group members => firstAmong?_eq members

theorem firstAmong?_eq : ∀ conditions : List Condition,
    firstAmong? conditions = (predicatesAmong conditions).head?
  | [] => rfl
  | condition :: conditions => by
      rw [firstAmong?, predicatesAmong, List.head?_append, firstPredicate?_eq condition,
        firstAmong?_eq conditions]
      cases condition.predicates.head? <;> rfl

end

variable {condition padded : Condition}

theorem firstPredicate?_eq_none_iff :
    condition.firstPredicate? = none ↔ condition.predicates = [] := by
  rw [firstPredicate?_eq, List.head?_eq_none_iff]

theorem isEmpty_iff : condition.isEmpty = true ↔ condition.predicates = [] := by
  rw [isEmpty, Option.isNone_iff_eq_none, firstPredicate?_eq_none_iff]

theorem connective_eq_head? (condition : Condition) :
    condition.connective = condition.predicates.head?.elim .and Predicate.connective := by
  rw [connective, firstPredicate?_eq]

/-! ## Nodes without predicates -/

/-- Groups inside of groups, and no predicate anywhere. -/
inductive IsBlank : Condition → Prop where
  | group {members : List Condition} (h : ∀ member ∈ members, IsBlank member) :
      IsBlank (.group members)

theorem predicatesAmong_eq_nil_iff {conditions : List Condition} :
    predicatesAmong conditions = [] ↔ ∀ condition ∈ conditions, condition.predicates = [] := by
  induction conditions with
  | nil => simp [predicatesAmong]
  | cons condition conditions ih => simp [predicatesAmong, ih]

theorem IsBlank.predicates_eq (h : condition.IsBlank) : condition.predicates = [] := by
  induction h with
  | group _ ih => exact predicatesAmong_eq_nil_iff.mpr ih

mutual

theorem isBlank_of_predicates : ∀ condition : Condition,
    condition.predicates = [] → condition.IsBlank
  | .predicate _, h => by cases h
  | .group members, h => .group (isBlank_of_predicatesAmong members h)

theorem isBlank_of_predicatesAmong : ∀ conditions : List Condition,
    predicatesAmong conditions = [] → ∀ condition ∈ conditions, condition.IsBlank
  | [], _ => nofun
  | condition :: conditions, h => by
      obtain ⟨hfirst, hrest⟩ := List.append_eq_nil_iff.mp h
      exact List.forall_mem_cons.mpr
        ⟨isBlank_of_predicates condition hfirst, isBlank_of_predicatesAmong conditions hrest⟩

end

theorem isBlank_iff : condition.IsBlank ↔ condition.predicates = [] :=
  ⟨IsBlank.predicates_eq, isBlank_of_predicates condition⟩

/-- A node without predicates is put into a group, or a node into a group of its own, at the
root or anywhere inside. -/
inductive Padding : Condition → Condition → Prop where
  | insert {front back : List Condition} {blank : Condition} (h : blank.IsBlank) :
      Padding (.group (front ++ back)) (.group (front ++ blank :: back))
  | wrap (condition : Condition) : Padding condition (.group [condition])
  | within {front back : List Condition} {inner changed : Condition}
      (h : Padding inner changed) :
      Padding (.group (front ++ inner :: back)) (.group (front ++ changed :: back))

theorem predicatesAmong_append (front back : List Condition) :
    predicatesAmong (front ++ back) = predicatesAmong front ++ predicatesAmong back := by
  induction front with
  | nil => rfl
  | cons condition front ih => simp [predicatesAmong, ih]

theorem Padding.predicates_eq (h : Padding condition padded) :
    padded.predicates = condition.predicates := by
  induction h with
  | insert hblank =>
      simp [predicates, predicatesAmong_append, predicatesAmong, hblank.predicates_eq]
  | wrap condition => simp [predicates, predicatesAmong]
  | within _ ih => simp [predicates, predicatesAmong_append, predicatesAmong, ih]

theorem predicates_of_padded (h : Relation.ReflTransGen Padding condition padded) :
    padded.predicates = condition.predicates := by
  induction h with
  | refl => rfl
  | tail _ hstep ih => rw [hstep.predicates_eq, ih]

/-- The search finds the head of what the buffer is given, whether a condition is empty and how
it is linked are read off this predicate, and only groups inside of groups have none.  No padding
changes any of it. -/
theorem traversals_agree (condition : Condition) :
    (∀ buffer, condition.collect buffer = buffer ++ condition.predicates) ∧
      condition.firstPredicate? = condition.predicates.head? ∧
      (condition.firstPredicate? = none ↔ condition.predicates = []) ∧
      (condition.isEmpty = true ↔ condition.predicates = []) ∧
      (condition.IsBlank ↔ condition.predicates = []) ∧
      condition.connective = condition.predicates.head?.elim .and Predicate.connective ∧
      ∀ padded, Relation.ReflTransGen Padding condition padded →
        padded.predicates = condition.predicates ∧
          padded.firstPredicate? = condition.firstPredicate? ∧
          padded.isEmpty = condition.isEmpty ∧
          padded.connective = condition.connective := by
  refine ⟨fun buffer => collect_eq buffer condition, firstPredicate?_eq condition,
    firstPredicate?_eq_none_iff, isEmpty_iff, isBlank_iff, connective_eq_head? condition, ?_⟩
  intro padded hpadded
  have hpredicates := predicates_of_padded hpadded
  have hfirst : padded.firstPredicate? = condition.firstPredicate? := by
    rw [firstPredicate?_eq, firstPredicate?_eq, hpredicates]
  refine ⟨hpredicates, hfirst, ?_, ?_⟩
  · rw [isEmpty, isEmpty, hfirst]
  · rw [connective, connective, hfirst]

theorem traversals_agree_of_padded :
    let leaf (connective? : Option Connective) (field : String) : Predicate :=
      ⟨connective?, "User", "users", field, .null .isNull, none⟩
    let condition : Condition :=
      .group [.predicate (leaf (some .or) "id"), .predicate (leaf none "age")]
    let padded : Condition :=
      .group [.group [.group [.group [], .group []], .group [.predicate (leaf (some .or) "id")],
        .predicate (leaf none "age")]]
    Relation.ReflTransGen Padding condition padded ∧
      padded.predicates = [leaf (some .or) "id", leaf none "age"] ∧
      padded.firstPredicate? = some (leaf (some .or) "id") ∧
      padded.isEmpty = false ∧ padded.connective = .or := by
  intro leaf condition padded
  let first : Condition := .predicate (leaf (some .or) "id")
  let second : Condition := .predicate (leaf none "age")
  let blank : Condition := .group [.group [], .group []]
  have hblank : blank.IsBlank := isBlank_iff.mpr rfl
  have hinsert : Padding condition (.group [blank, first, second]) :=
    @Padding.insert [] [first, second] blank hblank
  have hwithin : Padding (.group [blank, first, second])
      (.group [blank, .group [first], second]) :=
    @Padding.within [blank] [second] first (.group [first]) (.wrap first)
  have hpadded : Relation.ReflTransGen Padding condition padded :=
    ((Relation.ReflTransGen.single hinsert).tail hwithin).tail (.wrap _)
  obtain ⟨-, -, -, -, -, -, hsame⟩ := traversals_agree condition
  exact ⟨hpadded, hsame padded hpadded⟩

end ListQuery.Condition
