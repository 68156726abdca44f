import ListQuery.Condition.Basic

/-!
# Conditions with other predicates

To change the predicates of a condition one by one leaves its groups as they are.
-/

namespace ListQuery.Condition

variable (change : Predicate → Predicate)

mutual

def map : Condition → Condition
  | .predicate leaf => .predicate (change leaf)
  | .group members => .group (mapAmong members)

def mapAmong : List Condition → List Condition
  | [] => []
  | condition :: conditions => condition.map :: mapAmong conditions

end

mutual

theorem predicates_map : ∀ condition : Condition,
    (condition.map change).predicates = condition.predicates.map change
  | .predicate _ => rfl
  | .group members => predicatesAmong_mapAmong members

theorem predicatesAmong_mapAmong : ∀ conditions : List Condition,
    predicatesAmong (mapAmong change conditions) = (predicatesAmong conditions).map change
  | [] => rfl
  | condition :: conditions => by
      rw [mapAmong, predicatesAmong, predicates_map condition,
        predicatesAmong_mapAmong conditions, predicatesAmong, List.map_append]

end

mutual

theorem firstPredicate?_map : ∀ condition : Condition,
    (condition.map change).firstPredicate? = condition.firstPredicate?.map change
  | .predicate _ => rfl
  | .group members => firstAmong?_mapAmong members

theorem firstAmong?_mapAmong : ∀ conditions : List Condition,
    firstAmong? (mapAmong change conditions) = (firstAmong? conditions).map change
  | [] => rfl
  | condition :: conditions => by
      rw [mapAmong, firstAmong?, firstAmong?, firstPredicate?_map condition,
        firstAmong?_mapAmong conditions]
      cases condition.firstPredicate? <;> rfl

end

variable {change}

theorem connective_map (h : ∀ leaf, (change leaf).connective = leaf.connective)
    (condition : Condition) : (condition.map change).connective = condition.connective := by
  rw [connective, connective, firstPredicate?_map]
  cases condition.firstPredicate? with
  | none => rfl
  | some leaf => exact h leaf

mutual

theorem map_eq_map_iff {other : Predicate → Predicate} : ∀ condition : Condition,
    condition.map change = condition.map other ↔
      ∀ leaf ∈ condition.predicates, change leaf = other leaf
  | .predicate leaf => by simp [map, predicates]
  | .group members => by simp [map, predicates, mapAmong_eq_mapAmong_iff members]

theorem mapAmong_eq_mapAmong_iff {other : Predicate → Predicate} : ∀ conditions : List Condition,
    mapAmong change conditions = mapAmong other conditions ↔
      ∀ leaf ∈ predicatesAmong conditions, change leaf = other leaf
  | [] => by simp [mapAmong, predicatesAmong]
  | condition :: conditions => by
      simp only [mapAmong, predicatesAmong, List.cons.injEq, map_eq_map_iff condition,
        mapAmong_eq_mapAmong_iff conditions, List.forall_mem_append]

end

end ListQuery.Condition
