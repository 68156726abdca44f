import ListQuery.Condition.Basic
import ListQuery.Sort

/-!
# Steps towards a statement

A statement is put together by steps, whichever way it is then written.  A group of steps
links the tests inside it among each other first and then, as one test, to those before the
group.  Read from left to right the steps are a sequence of calls in which every group that
is opened is closed.
-/

namespace ListQuery

/-- The join of a table whose column `first` equals the column `second` of a table that is
already there; rows without a match are kept. -/
structure LeftJoin where
  table : String
  first : String
  second : String
  deriving DecidableEq, Repr

inductive Action where
  | selectAll (table : String)
  | select (columns : List String)
  | test (connective : Connective) (column : String) (filter : Filter)
  | leftJoin (join : LeftJoin)
  | orderBy (field : SortField)
  | paginate (perPage page : Nat)
  deriving DecidableEq, Repr

inductive Step where
  | action (action : Action)
  | group (connective : Connective) (steps : List Step)
  deriving BEq, Repr

inductive Call where
  | action (action : Action)
  | openGroup (connective : Connective)
  | closeGroup
  deriving DecidableEq, Repr

mutual

def Step.calls : Step → List Call
  | .action action => [.action action]
  | .group connective steps => .openGroup connective :: (Call.ofSteps steps ++ [.closeGroup])

def Call.ofSteps : List Step → List Call
  | [] => []
  | step :: steps => step.calls ++ Call.ofSteps steps

end

theorem Call.ofSteps_append (front back : List Step) :
    Call.ofSteps (front ++ back) = Call.ofSteps front ++ Call.ofSteps back := by
  induction front with
  | nil => rfl
  | cons step front ih => simp [Call.ofSteps, ih]

end ListQuery
