import ListQuery.Statement.Basic

/-!
# Drafts of statements

A draft is a selection under construction: it takes steps one after the other.  A group
starts a chain of its own and puts its clause at the end of the chain around it; a group
without tests leaves no trace, and neither does a range without two bounds.
-/

namespace ListQuery

structure Draft where
  table : String
  columns : List Projection
  joins : List LeftJoin
  chain : Chain
  order : List SortField
  window : Option Window
  deriving BEq, Repr

namespace Draft

def start (table : String) : Draft := ⟨table, [], [], .empty, [], none⟩

def act (draft : Draft) : Action → Draft
  | .selectAll table => { draft with columns := draft.columns ++ [.allOf table] }
  | .select columns => { draft with columns := draft.columns ++ columns.map .column }
  | .test connective column filter =>
      { draft with
        chain := draft.chain.push? connective (filter.test?.map (.test column)) }
  | .leftJoin join => { draft with joins := draft.joins ++ [join] }
  | .orderBy field => { draft with order := draft.order ++ [field] }
  | .paginate perPage page => { draft with window := some (.of perPage page) }

mutual

def add (draft : Draft) : Step → Draft
  | .action action => draft.act action
  | .group connective steps =>
      let inner := addAll { draft with chain := .empty } steps
      { inner with chain := draft.chain.push? connective inner.chain.clause? }

def addAll (draft : Draft) : List Step → Draft
  | [] => draft
  | step :: steps => (draft.add step).addAll steps

end

def ofSteps (table : String) (steps : List Step) : Draft := (start table).addAll steps

/-! ## What a draft asks for -/

def unpaged (draft : Draft) : Selection :=
  { table := draft.table
    columns := draft.columns
    joins := draft.joins
    condition := draft.chain.clause?
    order := draft.order
    window := none }

def rows (draft : Draft) : Statement := .rows { draft.unpaged with window := draft.window }

def count (draft : Draft) : Statement := .count draft.unpaged

theorem addAll_append (draft : Draft) (front back : List Step) :
    draft.addAll (front ++ back) = (draft.addAll front).addAll back := by
  induction front generalizing draft with
  | nil => rfl
  | cons step front ih => simp [addAll, ih]

@[simp] theorem add_group_nil (draft : Draft) (connective : Connective) :
    draft.add (.group connective []) = draft := by
  simp [add, addAll, Chain.push?]

end Draft

end ListQuery
