import ListQuery.Sql.Piece
import ListQuery.Statement.Clause
import ListQuery.Text.Cut

/-!
# Expressions

A clause is written as an expression of operators with two operands.  The members of a
conjunction or disjunction associate to the left, and the left operand of an operator needs
no parentheses where it is the same operator again.
-/

namespace ListQuery.Sql

inductive Expression where
  | constant (value : Bool)
  | test (path : String) (check : Test)
  | link (connective : Connective) (left right : Expression)
  deriving DecidableEq, Repr

/-- The link of expressions; of none, the value that leaves the others as they are. -/
def Expression.linked (connective : Connective) : List Expression → Expression
  | [] => .constant (connective = .and)
  | first :: rest => rest.foldl (.link connective) first

mutual

def Expression.ofClause : Clause → Expression
  | .test path check => .test path check
  | .all members => .linked .and (Expression.ofClauses members)
  | .any members => .linked .or (Expression.ofClauses members)

def Expression.ofClauses : List Clause → List Expression
  | [] => []
  | clause :: clauses => Expression.ofClause clause :: Expression.ofClauses clauses

end

/-! ## Pieces -/

def pathPieces (path : String) : List Piece :=
  match Text.cutAt? '.' path with
  | some (table, name) => [.name table, .word ".", .name name]
  | none => [.name path]

def scalar (value : Scalar) : Piece := .value (.scalar value)

/-- The pieces of a test.  No value is in an empty list, which is written as a comparison of
constants. -/
def testPieces (path : String) : Test → List Piece
  | .null test => pathPieces path ++ [.word (" " ++ test.symbol)]
  | .compare comparison value =>
      pathPieces path ++ [.word (" " ++ comparison.symbol ++ " "), scalar value]
  | .isIn negated [] =>
      [.value (.constant 1), .word " = ", .value (.constant (if negated then 1 else 2))]
  | .isIn negated values =>
      pathPieces path ++ .word (if negated then " NOT IN " else " IN ") ::
        parenthesized (separated ", " (values.map fun value => [scalar value]))
  | .between negated low high =>
      pathPieces path ++ [.word (if negated then " NOT BETWEEN " else " BETWEEN "),
        scalar low, .word " AND ", scalar high]

def Connective.word : Connective → String
  | .and => " AND "
  | .or => " OR "

namespace Expression

def needsParentheses (connective : Connective) (isLeft : Bool) : Expression → Bool
  | .constant _ => false
  | .test _ (.between _ _ _) => true
  | .test _ _ => false
  | .link inner _ _ => !(isLeft && inner = connective)

def enclosed (needed : Bool) (pieces : List Piece) : List Piece :=
  if needed then parenthesized pieces else pieces

def pieces : Expression → List Piece
  | .constant value => [.word (if value then "TRUE" else "FALSE")]
  | .test path check => testPieces path check
  | .link connective left right =>
      enclosed (left.needsParentheses connective true) left.pieces ++
        .word (Connective.word connective) ::
          enclosed (right.needsParentheses connective false) right.pieces

end Expression

end ListQuery.Sql
