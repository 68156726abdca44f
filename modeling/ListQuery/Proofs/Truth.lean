import Mathlib.Order.BoundedOrder.Lattice
import Mathlib.Order.Lattice
import ListQuery.Condition.Basic

/-!
# Truth values

A test of a row is true or false or, where a column is null, neither.  Conjunction is the
infimum and disjunction the supremum of truth values, so what is said below of bounded
lattices holds of the two values of `Bool` and of the three values of `Truth`.

Values that are linked by connectives are read from left to right, the conjunction binding
tighter than the disjunction.  The link of the first value is passed over.
-/

namespace ListQuery

inductive Truth where
  | no
  | unknown
  | yes
  deriving DecidableEq, Repr

namespace Truth

def conj : Truth → Truth → Truth
  | .no, _ => .no
  | _, .no => .no
  | .unknown, _ => .unknown
  | _, .unknown => .unknown
  | .yes, .yes => .yes

def disj : Truth → Truth → Truth
  | .yes, _ => .yes
  | _, .yes => .yes
  | .unknown, _ => .unknown
  | _, .unknown => .unknown
  | .no, .no => .no

instance : Max Truth := ⟨disj⟩

instance : Min Truth := ⟨conj⟩

instance : Lattice Truth :=
  Lattice.mk'
    (by rintro (_ | _ | _) (_ | _ | _) <;> rfl)
    (by rintro (_ | _ | _) (_ | _ | _) (_ | _ | _) <;> rfl)
    (by rintro (_ | _ | _) (_ | _ | _) <;> rfl)
    (by rintro (_ | _ | _) (_ | _ | _) (_ | _ | _) <;> rfl)
    (by rintro (_ | _ | _) (_ | _ | _) <;> rfl)
    (by rintro (_ | _ | _) (_ | _ | _) <;> rfl)

instance : BoundedOrder Truth where
  top := .yes
  bot := .no
  le_top value := by cases value <;> rfl
  bot_le value := by cases value <;> rfl

example : (Truth.unknown ⊓ .no, Truth.unknown ⊓ .yes) = (.no, .unknown) := rfl
example : (Truth.unknown ⊔ .no, Truth.unknown ⊔ .yes) = (.unknown, .yes) := rfl

end Truth

variable {α : Type} [Lattice α]

/-! ## Conjunctions and disjunctions of lists -/

section Bounded

variable [BoundedOrder α]

def conjunction (values : List α) : α := values.foldr (· ⊓ ·) ⊤

def disjunction (values : List α) : α := values.foldr (· ⊔ ·) ⊥

@[simp] theorem conjunction_nil : conjunction ([] : List α) = ⊤ := rfl

@[simp] theorem conjunction_cons (value : α) (values : List α) :
    conjunction (value :: values) = value ⊓ conjunction values := rfl

@[simp] theorem disjunction_nil : disjunction ([] : List α) = ⊥ := rfl

@[simp] theorem disjunction_cons (value : α) (values : List α) :
    disjunction (value :: values) = value ⊔ disjunction values := rfl

theorem conjunction_append (front back : List α) :
    conjunction (front ++ back) = conjunction front ⊓ conjunction back := by
  induction front with
  | nil => simp
  | cons value front ih => simp [ih, inf_assoc]

theorem disjunction_append (front back : List α) :
    disjunction (front ++ back) = disjunction front ⊔ disjunction back := by
  induction front with
  | nil => simp
  | cons value front ih => simp [ih, sup_assoc]

end Bounded

/-! ## Linked values -/

namespace Linked

def continued (run : α) : List (Connective × α) → α
  | [] => run
  | (.and, value) :: rest => continued (run ⊓ value) rest
  | (.or, value) :: rest => run ⊔ continued value rest

def value? : List (Connective × α) → Option α
  | [] => none
  | (_, first) :: rest => some (continued first rest)

@[simp] theorem value?_eq_none_iff (links : List (Connective × α)) :
    value? links = none ↔ links = [] := by
  cases links <;> simp [value?]

example : value? [(.or, false), (.and, true), (.or, true), (.and, true)] = some true := rfl
example : value? [(.and, true), (.or, true), (.and, false)] = some true := rfl

end Linked

end ListQuery
