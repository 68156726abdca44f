import ListQuery.Condition.Basic

/-!
# Clauses

A clause is what a statement demands of a row: tests of columns under conjunctions and
disjunctions.  A chain links clauses from left to right; as a conjunction binds tighter than
a disjunction, a chain is a disjunction of runs, each of them a conjunction.
-/

namespace ListQuery

/-- A test as a statement holds it: a range has its two bounds, a pattern is a text. -/
inductive Test where
  | null (test : NullTest)
  | compare (comparison : Comparison) (value : Scalar)
  | isIn (negated : Bool) (values : List Scalar)
  | between (negated : Bool) (low high : Scalar)
  deriving DecidableEq, Repr

def Filter.test? : Filter → Option Test
  | .null test => some (.null test)
  | .compare .like value => some (.compare .like (.text value.display))
  | .compare .notLike value => some (.compare .notLike (.text value.display))
  | .compare comparison value => some (.compare comparison value)
  | .set .isIn values => some (.isIn false values)
  | .set .isNotIn values => some (.isIn true values)
  | .set .between [low, high] => some (.between false low high)
  | .set .notBetween [low, high] => some (.between true low high)
  | .set .between _ => none
  | .set .notBetween _ => none

inductive Clause where
  | test (path : String) (check : Test)
  | all (members : List Clause)
  | any (members : List Clause)
  deriving BEq, Repr

/-- What a clause is as a member of another: a conjunction or disjunction of one clause is
that clause. -/
def Clause.asMember : Clause → Clause
  | .all [member] => member
  | .any [member] => member
  | clause => clause

/-! ## Chains -/

/-- Runs of clauses; no run is empty. -/
structure Chain where
  runs : List (List Clause)
  deriving BEq, Repr

namespace Chain

def empty : Chain := ⟨[]⟩

/-- The chain with a clause at its end.  Linked by a disjunction, or first of all, the clause
starts a run. -/
def push (chain : Chain) (connective : Connective) (clause : Clause) : Chain :=
  match connective, chain.runs.getLast? with
  | .and, some run => ⟨chain.runs.dropLast ++ [run ++ [clause]]⟩
  | _, _ => ⟨chain.runs ++ [[clause]]⟩

def push? (chain : Chain) (connective : Connective) : Option Clause → Chain
  | some clause => chain.push connective clause
  | none => chain

def ofRun (run : List Clause) : Clause := .all (run.map Clause.asMember)

def clause? (chain : Chain) : Option Clause :=
  match chain.runs with
  | [] => none
  | [run] => some (ofRun run)
  | runs => some (.any (runs.map fun run => (ofRun run).asMember))

@[simp] theorem clause?_empty : empty.clause? = none := rfl

@[simp] theorem clause?_push_empty (connective : Connective) (clause : Clause) :
    (empty.push connective clause).clause? = some (.all [clause.asMember]) := by
  cases connective <;> rfl

end Chain

end ListQuery
