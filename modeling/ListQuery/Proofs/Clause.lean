import ListQuery.Proofs.Truth
import ListQuery.Statement.Clause

/-!
# What clauses demand

An assignment gives every test of a column a truth value and thereby one to every clause.
The value of a chain is that of its links, read as linked values are read; its tests are
those of its links, from left to right.
-/

namespace ListQuery

/-- Truth values of tests, each of them made of a column path and what is tested of it. -/
abbrev Assignment (α : Type) := String → Test → α

/-! ## Clauses -/

namespace Clause

section Value

variable {α : Type} [Lattice α] [BoundedOrder α] (assignment : Assignment α)

mutual

def value : Clause → α
  | .test path check => assignment path check
  | .all members => conjunction (values members)
  | .any members => disjunction (values members)

def values : List Clause → List α
  | [] => []
  | clause :: clauses => clause.value :: values clauses

end

theorem values_append (front back : List Clause) :
    values assignment (front ++ back) = values assignment front ++ values assignment back := by
  induction front with
  | nil => rfl
  | cons clause front ih => simp [values, ih]

@[simp] theorem value_asMember (clause : Clause) :
    clause.asMember.value assignment = clause.value assignment := by
  unfold asMember
  split <;> simp [value, values]

@[simp] theorem values_map_asMember (clauses : List Clause) :
    values assignment (clauses.map asMember) = values assignment clauses := by
  induction clauses with
  | nil => rfl
  | cons clause clauses ih => simp [values, ih]

end Value

mutual

def leaves : Clause → List (String × Test)
  | .test path check => [(path, check)]
  | .all members => leavesAmong members
  | .any members => leavesAmong members

def leavesAmong : List Clause → List (String × Test)
  | [] => []
  | clause :: clauses => clause.leaves ++ leavesAmong clauses

end

theorem leavesAmong_append (front back : List Clause) :
    leavesAmong (front ++ back) = leavesAmong front ++ leavesAmong back := by
  induction front with
  | nil => rfl
  | cons clause front ih => simp [leavesAmong, ih]

@[simp] theorem leaves_asMember (clause : Clause) : clause.asMember.leaves = clause.leaves := by
  unfold asMember
  split <;> simp [leaves, leavesAmong]

@[simp] theorem leavesAmong_map_asMember (clauses : List Clause) :
    leavesAmong (clauses.map asMember) = leavesAmong clauses := by
  induction clauses with
  | nil => rfl
  | cons clause clauses ih => simp [leavesAmong, ih]

end Clause

/-! ## Pushing onto chains -/

abbrev Link := Connective × Clause

namespace Chain

theorem push_and (front : List (List Clause)) (run : List Clause) (clause : Clause) :
    push ⟨front ++ [run]⟩ .and clause = ⟨front ++ [run ++ [clause]]⟩ := by
  simp [push]

theorem push_or (chain : Chain) (clause : Clause) :
    chain.push .or clause = ⟨chain.runs ++ [[clause]]⟩ := by
  simp [push]

theorem push_empty (connective : Connective) (clause : Clause) :
    empty.push connective clause = ⟨[[clause]]⟩ := by
  cases connective <;> rfl

def pushAll (chain : Chain) (links : List Link) : Chain :=
  links.foldl (fun chain link => chain.push link.1 link.2) chain

@[simp] theorem pushAll_nil (chain : Chain) : chain.pushAll [] = chain := rfl

@[simp] theorem pushAll_cons (chain : Chain) (link : Link) (links : List Link) :
    chain.pushAll (link :: links) = (chain.push link.1 link.2).pushAll links := rfl

theorem pushAll_append (chain : Chain) (front back : List Link) :
    chain.pushAll (front ++ back) = (chain.pushAll front).pushAll back := by
  simp [pushAll]

/-! ## The value of a chain -/

section Value

variable {α : Type} [Lattice α] [BoundedOrder α] (assignment : Assignment α)

def value (chain : Chain) : α :=
  disjunction (chain.runs.map fun run => conjunction (Clause.values assignment run))

theorem value_snoc (front : List (List Clause)) (run : List Clause) :
    value assignment ⟨front ++ [run]⟩ =
      value assignment ⟨front⟩ ⊔ conjunction (Clause.values assignment run) := by
  simp [value, disjunction_append]

@[simp] theorem value_ofRun (run : List Clause) :
    (ofRun run).value assignment = conjunction (Clause.values assignment run) := by
  simp [ofRun, Clause.value]

private theorem values_map_ofRun (runs : List (List Clause)) :
    Clause.values assignment (runs.map fun run => (ofRun run).asMember) =
      runs.map fun run => conjunction (Clause.values assignment run) := by
  induction runs with
  | nil => rfl
  | cons run runs ih => simp [Clause.values, ih]

theorem value_clause? {chain : Chain} {clause : Clause} (h : chain.clause? = some clause) :
    clause.value assignment = chain.value assignment := by
  obtain ⟨runs⟩ := chain
  unfold clause? at h
  split at h
  · cases h
  · next run hruns =>
      cases h
      cases hruns
      simp [value]
  · next hruns =>
      cases h
      simp [Clause.value, values_map_ofRun, value]

theorem value_pushAll (front : List (List Clause)) (run : List Clause) (links : List Link) :
    (pushAll ⟨front ++ [run]⟩ links).value assignment =
      value assignment ⟨front⟩ ⊔
        Linked.continued (conjunction (Clause.values assignment run))
          (links.map fun link => (link.1, link.2.value assignment)) := by
  -- A link either prolongs the last run or closes it, so both parts of the chain vary.
  induction links generalizing front run with
  | nil => simp [Linked.continued, value_snoc]
  | cons link links ih =>
      obtain ⟨connective, clause⟩ := link
      cases connective with
      | and =>
          rw [pushAll_cons, push_and, ih]
          simp [Linked.continued, Clause.values_append, conjunction_append, Clause.values]
      | or =>
          rw [pushAll_cons, push_or, ih]
          simp [Linked.continued, value_snoc, Clause.values, sup_assoc]

end Value

theorem exists_clause?_of_runs {chain : Chain} (h : chain.runs ≠ []) :
    ∃ clause, chain.clause? = some clause := by
  unfold clause?
  split
  · next hnil => exact absurd hnil h
  · exact ⟨_, rfl⟩
  · exact ⟨_, rfl⟩

theorem runs_push_ne_nil (chain : Chain) (connective : Connective) (clause : Clause) :
    (chain.push connective clause).runs ≠ [] := by
  unfold push
  split <;> simp

theorem runs_pushAll_ne_nil {chain : Chain} (h : chain.runs ≠ []) (links : List Link) :
    (chain.pushAll links).runs ≠ [] := by
  induction links generalizing chain with
  | nil => exact h
  | cons link links ih => exact ih (runs_push_ne_nil chain link.1 link.2)

def ofLinks (links : List Link) : Chain := empty.pushAll links

theorem map_value_clause?_ofLinks {α : Type} [Lattice α] [BoundedOrder α]
    (assignment : Assignment α) (links : List Link) :
    (ofLinks links).clause?.map (Clause.value assignment) =
      Linked.value? (links.map fun link => (link.1, link.2.value assignment)) := by
  cases links with
  | nil => rfl
  | cons link links =>
      obtain ⟨connective, first⟩ := link
      have hfirst : ofLinks ((connective, first) :: links) =
          pushAll ⟨[] ++ [[first]]⟩ links := by
        rw [ofLinks, pushAll_cons, push_empty, List.nil_append]
      obtain ⟨clause, hclause⟩ : ∃ clause,
          (ofLinks ((connective, first) :: links)).clause? = some clause := by
        rw [hfirst]
        exact exists_clause?_of_runs (runs_pushAll_ne_nil (by simp) links)
      rw [hclause, Option.map_some, value_clause? assignment hclause, hfirst, value_pushAll]
      simp [Linked.value?, value, Clause.values]

/-! ## The tests of a chain -/

def leaves (chain : Chain) : List (String × Test) := Clause.leavesAmong chain.runs.flatten

@[simp] theorem leaves_empty : empty.leaves = [] := rfl

theorem leaves_push (chain : Chain) (connective : Connective) (clause : Clause) :
    (chain.push connective clause).leaves = chain.leaves ++ clause.leaves := by
  obtain ⟨runs⟩ := chain
  rcases List.eq_nil_or_concat runs with rfl | ⟨front, run, rfl⟩
  · cases connective <;> simp [push, leaves, Clause.leavesAmong]
  · cases connective <;>
      simp [push, leaves, Clause.leavesAmong_append, Clause.leavesAmong]

theorem leaves_pushAll (chain : Chain) (links : List Link) :
    (chain.pushAll links).leaves =
      chain.leaves ++ links.flatMap fun link => link.2.leaves := by
  induction links generalizing chain with
  | nil => simp
  | cons link links ih => simp [ih, leaves_push]

@[simp] theorem leaves_ofRun (run : List Clause) :
    (ofRun run).leaves = Clause.leavesAmong run := by
  simp [ofRun, Clause.leaves]

private theorem leavesAmong_map_ofRun (runs : List (List Clause)) :
    Clause.leavesAmong (runs.map fun run => (ofRun run).asMember) =
      Clause.leavesAmong runs.flatten := by
  induction runs with
  | nil => rfl
  | cons run runs ih =>
      simp [Clause.leavesAmong, Clause.leavesAmong_append, ih]

theorem elim_leaves_clause? (chain : Chain) :
    chain.clause?.elim [] Clause.leaves = chain.leaves := by
  obtain ⟨runs⟩ := chain
  unfold clause?
  split
  · next hruns =>
      cases hruns
      rfl
  · next run hruns =>
      cases hruns
      simp [leaves]
  · simp [leaves, Clause.leaves, leavesAmong_map_ofRun]

end Chain

end ListQuery
