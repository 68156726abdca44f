import ListQuery.Proofs.Mask
import ListQuery.Sql.Writer

/-!
# What commands bind

A command binds the values among the pieces of its statement, from left to right.  Of these
values its text shows nothing but their places.
-/

namespace ListQuery

open Sql

/-! ## Values of tests -/

def Test.bounds : Test → List Bound
  | .null _ => []
  | .compare _ value => [.scalar value]
  | .isIn negated [] => [.constant 1, .constant (if negated then 1 else 2)]
  | .isIn _ values => values.map .scalar
  | .between _ low high => [.scalar low, .scalar high]

/-- The values that are bound for a filter.  A pattern is bound as text, a range only with
two bounds, and an empty list as two constants, which are equal where nothing is excluded. -/
def Filter.bounds : Filter → List Bound
  | .null _ => []
  | .compare comparison value =>
      if comparison = .like ∨ comparison = .notLike then [.scalar (.text value.display)]
      else [.scalar value]
  | .set test values =>
      if test.isRange then if values.length = 2 then values.map .scalar else []
      else if values.isEmpty then [.constant 1, .constant (if test = .isNotIn then 1 else 2)]
      else values.map .scalar

theorem Filter.elim_bounds_test? (filter : Filter) :
    filter.test?.elim [] Test.bounds = filter.bounds := by
  cases filter with
  | null test => rfl
  | compare comparison value => cases comparison <;> rfl
  | set test values =>
      cases test with
      | isIn => cases values <;> rfl
      | isNotIn => cases values <;> rfl
      | between =>
          rcases values with _ | ⟨low, _ | ⟨high, _ | ⟨third, rest⟩⟩⟩ <;>
            simp [test?, bounds, Test.bounds, SetTest.isRange]
      | notBetween =>
          rcases values with _ | ⟨low, _ | ⟨high, _ | ⟨third, rest⟩⟩⟩ <;>
            simp [test?, bounds, Test.bounds, SetTest.isRange]

/-! ## Pieces -/

namespace Sql

def bounds (pieces : List Piece) : List Bound := pieces.filterMap Piece.bound?

@[simp] theorem bounds_nil : bounds [] = [] := rfl

@[simp] theorem bounds_word (text : String) (pieces : List Piece) :
    bounds (.word text :: pieces) = bounds pieces := rfl

@[simp] theorem bounds_name (text : String) (pieces : List Piece) :
    bounds (.name text :: pieces) = bounds pieces := rfl

@[simp] theorem bounds_value (bound : Bound) (pieces : List Piece) :
    bounds (.value bound :: pieces) = bound :: bounds pieces := rfl

@[simp] theorem bounds_append (front back : List Piece) :
    bounds (front ++ back) = bounds front ++ bounds back :=
  List.filterMap_append

@[simp] theorem bounds_pathPieces (path : String) : bounds (pathPieces path) = [] := by
  unfold pathPieces
  split <;> rfl

@[simp] theorem bounds_parenthesized (pieces : List Piece) :
    bounds (parenthesized pieces) = bounds pieces := by
  simp [parenthesized]

theorem separated_cons_cons (separator : String) (first second : List Piece)
    (rest : List (List Piece)) :
    separated separator (first :: second :: rest) =
      first ++ .word separator :: separated separator (second :: rest) := rfl

theorem bounds_separated (separator : String) (lists : List (List Piece)) :
    bounds (separated separator lists) = lists.flatMap bounds := by
  induction lists with
  | nil => rfl
  | cons pieces rest ih => cases rest with
      | nil => simp [separated]
      | cons second rest =>
          rw [separated_cons_cons, bounds_append, bounds_word, ih, ← List.flatMap_cons]

theorem bounds_testPieces (path : String) (check : Test) :
    bounds (testPieces path check) = check.bounds := by
  cases check with
  | null test => simp [testPieces, Test.bounds]
  | compare comparison value => simp [testPieces, Test.bounds, scalar]
  | isIn negated values =>
      cases values with
      | nil => rfl
      | cons first rest =>
          have hbounds : ((first :: rest).map fun value => [scalar value]).flatMap bounds =
              (first :: rest).map Bound.scalar := by
            rw [List.flatMap_map, List.map_eq_flatMap]
            rfl
          rw [testPieces, bounds_append, bounds_word, bounds_parenthesized, bounds_separated,
            hbounds, bounds_pathPieces, List.nil_append, Test.bounds]
          all_goals simp
  | between negated low high => simp [testPieces, Test.bounds, scalar]

/-! ## Masked pieces -/

def Piece.masked : Piece → Piece
  | .value _ => .value (.constant 0)
  | piece => piece

theorem map_masked_separated (separator : String) (lists : List (List Piece)) :
    (separated separator lists).map Piece.masked =
      separated separator (lists.map (List.map Piece.masked)) := by
  induction lists with
  | nil => rfl
  | cons pieces rest ih => cases rest with
      | nil => rfl
      | cons second rest =>
          rw [separated_cons_cons, List.map_append, List.map_cons, ih]
          rfl

theorem map_masked_testPieces (path : String) (check : Test) :
    (testPieces path check.masked).map Piece.masked = (testPieces path check).map Piece.masked := by
  cases check with
  | null test => rfl
  | compare comparison value => simp [testPieces, Test.masked, scalar, Piece.masked]
  | isIn negated values =>
      cases values with
      | nil => rfl
      | cons first rest =>
          simp [testPieces, Test.masked, scalar, Piece.masked, parenthesized,
            map_masked_separated, Function.comp_def]
  | between negated low high => simp [testPieces, Test.masked, scalar, Piece.masked]

theorem Dialect.templateFrom_map_masked (dialect : Dialect) (number : Nat)
    (pieces : List Piece) :
    dialect.templateFrom number (pieces.map Piece.masked) =
      dialect.templateFrom number pieces := by
  induction pieces generalizing number with
  | nil => rfl
  | cons piece pieces ih =>
      cases piece with
      | word text => rw [List.map_cons, templateFrom, ← ih]; rfl
      | name text => rw [List.map_cons, templateFrom, ← ih]; rfl
      | value bound => rw [List.map_cons, templateFrom, ← ih]; rfl

/-! ## Expressions -/

namespace Expression

def leaves : Expression → List (String × Test)
  | .constant _ => []
  | .test path check => [(path, check)]
  | .link _ left right => left.leaves ++ right.leaves

theorem leaves_foldl_link (connective : Connective) (first : Expression)
    (rest : List Expression) :
    (rest.foldl (.link connective) first).leaves = first.leaves ++ rest.flatMap leaves := by
  induction rest generalizing first with
  | nil => simp
  | cons second rest ih => simp [ih, leaves]

theorem leaves_linked (connective : Connective) (expressions : List Expression) :
    (linked connective expressions).leaves = expressions.flatMap leaves := by
  cases expressions with
  | nil => rfl
  | cons first rest => rw [linked, leaves_foldl_link, List.flatMap_cons]

mutual

theorem leaves_ofClause : ∀ clause : Clause, (ofClause clause).leaves = clause.leaves
  | .test _ _ => rfl
  | .all members => by rw [ofClause, leaves_linked, leaves_ofClauses members, Clause.leaves]
  | .any members => by rw [ofClause, leaves_linked, leaves_ofClauses members, Clause.leaves]

theorem leaves_ofClauses : ∀ clauses : List Clause,
    (ofClauses clauses).flatMap leaves = Clause.leavesAmong clauses
  | [] => rfl
  | clause :: clauses => by
      rw [ofClauses, List.flatMap_cons, leaves_ofClause clause, leaves_ofClauses clauses,
        Clause.leavesAmong]

end

theorem bounds_enclosed (needed : Bool) (pieces : List Piece) :
    bounds (enclosed needed pieces) = bounds pieces := by
  cases needed <;> simp [enclosed]

theorem bounds_pieces (expression : Expression) :
    bounds expression.pieces = expression.leaves.flatMap fun leaf => leaf.2.bounds := by
  induction expression with
  | constant value => rfl
  | test path check => simp [pieces, leaves, bounds_testPieces]
  | link connective left right hleft hright =>
      simp [pieces, leaves, bounds_enclosed, hleft, hright]

def masked : Expression → Expression
  | .constant value => .constant value
  | .test path check => .test path check.masked
  | .link connective left right => .link connective left.masked right.masked

theorem masked_foldl_link (connective : Connective) (first : Expression)
    (rest : List Expression) :
    (rest.foldl (.link connective) first).masked =
      (rest.map masked).foldl (.link connective) first.masked := by
  induction rest generalizing first with
  | nil => rfl
  | cons second rest ih => rw [List.foldl_cons, ih, List.map_cons, List.foldl_cons, masked]

theorem linked_masked (connective : Connective) (expressions : List Expression) :
    linked connective (expressions.map masked) = (linked connective expressions).masked := by
  cases expressions with
  | nil => rfl
  | cons first rest => exact (masked_foldl_link connective first rest).symm

mutual

theorem ofClause_masked : ∀ clause : Clause, ofClause clause.masked = (ofClause clause).masked
  | .test _ _ => rfl
  | .all members => by
      rw [Clause.masked, ofClause, ofClauses_masked members, linked_masked, ofClause]
  | .any members => by
      rw [Clause.masked, ofClause, ofClauses_masked members, linked_masked, ofClause]

theorem ofClauses_masked : ∀ clauses : List Clause,
    ofClauses (Clause.maskedAmong clauses) = (ofClauses clauses).map masked
  | [] => rfl
  | clause :: clauses => by
      rw [Clause.maskedAmong, ofClauses, ofClause_masked clause, ofClauses_masked clauses,
        ofClauses, List.map_cons]

end

theorem needsParentheses_masked (connective : Connective) (isLeft : Bool)
    (expression : Expression) :
    expression.masked.needsParentheses connective isLeft =
      expression.needsParentheses connective isLeft := by
  cases expression with
  | constant value => rfl
  | test path check => cases check <;> rfl
  | link inner left right => rfl

theorem map_masked_enclosed (needed : Bool) (pieces : List Piece) :
    (enclosed needed pieces).map Piece.masked = enclosed needed (pieces.map Piece.masked) := by
  cases needed <;> simp [enclosed, parenthesized, Piece.masked]

theorem map_masked_pieces (expression : Expression) :
    expression.masked.pieces.map Piece.masked = expression.pieces.map Piece.masked := by
  induction expression with
  | constant value => rfl
  | test path check => exact map_masked_testPieces path check
  | link connective left right hleft hright =>
      simp only [masked, pieces, List.map_append, List.map_cons, map_masked_enclosed,
        needsParentheses_masked, hleft, hright]

end Expression

end Sql

/-! ## Statements -/

def Window.bounds (window : Window) : List Bound := [.rows window.limit, .rows window.offset]

namespace Selection

theorem bounds_pieces (selection : Selection) :
    bounds selection.pieces =
      (selection.condition.elim [] Clause.leaves).flatMap (fun leaf => leaf.2.bounds) ++
        selection.window.elim [] Window.bounds := by
  have hcolumns : bounds (separated ", " (selection.columns.map Projection.pieces)) = [] := by
    rw [bounds_separated, List.flatMap_map, List.flatMap_eq_nil_iff]
    rintro (table | path) _
    · rfl
    · exact bounds_pathPieces path
  have hjoins : bounds (selection.joins.flatMap LeftJoin.pieces) = [] := by
    rw [bounds, List.filterMap_flatMap, List.flatMap_eq_nil_iff]
    intro join _
    have hjoin : bounds join.pieces = [] := by simp [LeftJoin.pieces]
    exact hjoin
  have horder : bounds selection.orderPieces = [] := by
    unfold orderPieces
    split
    · rfl
    · rw [bounds_word, bounds_separated, List.flatMap_map, List.flatMap_eq_nil_iff]
      intro field _
      simp [SortField.pieces]
  have hcondition : bounds selection.conditionPieces =
      (selection.condition.elim [] Clause.leaves).flatMap fun leaf => leaf.2.bounds := by
    unfold conditionPieces
    split
    · next hclause => simp [hclause]
    · next clause hclause =>
        rw [bounds_word, Expression.bounds_pieces, Expression.leaves_ofClause, hclause,
          Option.elim_some]
  have hwindow : bounds selection.windowPieces = selection.window.elim [] Window.bounds := by
    unfold windowPieces
    split
    · next hwindow => simp [hwindow]
    · next window hwindow => simp [hwindow, Window.pieces, Window.bounds]
  simp [pieces, hcolumns, hjoins, horder, hcondition, hwindow]

theorem map_masked_pieces (selection : Selection) :
    selection.masked.pieces.map Piece.masked = selection.pieces.map Piece.masked := by
  have hcondition : selection.masked.conditionPieces.map Piece.masked =
      selection.conditionPieces.map Piece.masked := by
    unfold conditionPieces masked
    cases selection.condition with
    | none => rfl
    | some clause =>
        simp only [Option.map_some, List.map_cons, Expression.ofClause_masked,
          Expression.map_masked_pieces]
  have hwindow : selection.masked.windowPieces.map Piece.masked =
      selection.windowPieces.map Piece.masked := by
    unfold windowPieces masked
    cases selection.window <;> rfl
  have horder : selection.masked.orderPieces = selection.orderPieces := rfl
  simp only [pieces, List.map_append, hcondition, hwindow, horder]
  rfl

end Selection

namespace Statement

theorem map_masked_pieces (statement : Statement) :
    statement.masked.pieces.map Piece.masked = statement.pieces.map Piece.masked := by
  cases statement with
  | rows selection => exact selection.map_masked_pieces
  | count selection =>
      simp only [masked, pieces, parenthesized, List.map_append, List.map_cons,
        selection.map_masked_pieces]

theorem text_masked (statement : Statement) (dialect : Dialect) :
    (statement.masked.command dialect).text = (statement.command dialect).text := by
  calc
    (statement.masked.command dialect).text
      = dialect.template (statement.masked.pieces.map Piece.masked) :=
          (dialect.templateFrom_map_masked 1 _).symm
    _ = dialect.template (statement.pieces.map Piece.masked) := by
          rw [statement.map_masked_pieces]
    _ = (statement.command dialect).text := dialect.templateFrom_map_masked 1 _

end Statement

end ListQuery
