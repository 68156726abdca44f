import ListQuery.Catalog.Basic
import ListQuery.Condition.Scalar

/-!
# Conditions

A condition is a tree of predicates.  Each predicate tests one column and says how it is
linked to the condition before it; a group is linked as the first predicate inside it.
-/

namespace ListQuery

inductive Connective where
  | and
  | or
  deriving DecidableEq, Repr

inductive NullTest where
  | isNull
  | isNotNull
  deriving DecidableEq, Repr

inductive Comparison where
  | equal
  | notEqual
  | greater
  | greaterOrEqual
  | less
  | lessOrEqual
  | like
  | notLike
  deriving DecidableEq, Repr

inductive SetTest where
  | isIn
  | isNotIn
  | between
  | notBetween
  deriving DecidableEq, Repr

def NullTest.symbol : NullTest → String
  | .isNull => "IS NULL"
  | .isNotNull => "IS NOT NULL"

def Comparison.symbol : Comparison → String
  | .equal => "="
  | .notEqual => "<>"
  | .greater => ">"
  | .greaterOrEqual => ">="
  | .less => "<"
  | .lessOrEqual => "<="
  | .like => "LIKE"
  | .notLike => "NOT LIKE"

def SetTest.symbol : SetTest → String
  | .isIn => "IN"
  | .isNotIn => "NOT IN"
  | .between => "BETWEEN"
  | .notBetween => "NOT BETWEEN"

def SetTest.isRange : SetTest → Bool
  | .between | .notBetween => true
  | .isIn | .isNotIn => false

inductive Filter where
  | null (test : NullTest)
  | compare (comparison : Comparison) (value : Scalar)
  | set (test : SetTest) (values : List Scalar)
  deriving DecidableEq, Repr

structure Predicate where
  /-- How the predicate is linked, where the client said so. -/
  connective? : Option Connective
  model : String
  table : String
  field : String
  filter : Filter
  relation? : Option Relation
  deriving DecidableEq, Repr

def Predicate.column (predicate : Predicate) : String :=
  predicate.table ++ "." ++ predicate.field

def Predicate.connective (predicate : Predicate) : Connective :=
  predicate.connective?.getD .and

inductive Condition where
  | predicate (leaf : Predicate)
  | group (members : List Condition)
  deriving BEq, Repr, Inhabited

namespace Condition

mutual

def firstPredicate? : Condition → Option Predicate
  | .predicate leaf => some leaf
  | .group members => firstAmong? members

def firstAmong? : List Condition → Option Predicate
  | [] => none
  | condition :: conditions =>
      match firstPredicate? condition with
      | some leaf => some leaf
      | none => firstAmong? conditions

end

mutual

def predicates : Condition → List Predicate
  | .predicate leaf => [leaf]
  | .group members => predicatesAmong members

def predicatesAmong : List Condition → List Predicate
  | [] => []
  | condition :: conditions => predicates condition ++ predicatesAmong conditions

end

def connective (condition : Condition) : Connective :=
  condition.firstPredicate?.elim .and Predicate.connective

def isEmpty (condition : Condition) : Bool := condition.firstPredicate?.isNone

end Condition

end ListQuery
