import ListQuery.Sql.Dialect
import ListQuery.Sql.Expression
import ListQuery.Statement.Basic

/-!
# Writing statements

The parts of a selection come in a fixed order: columns, table, joins, condition, order,
window.  A part that a selection does not have is left out; a selection without columns
keeps the place where they would be.
-/

namespace ListQuery

open Sql

def Projection.pieces : Projection → List Piece
  | .allOf table => [.name table, .word ".*"]
  | .column path => pathPieces path

def LeftJoin.pieces (join : LeftJoin) : List Piece :=
  [.word " LEFT JOIN ", .name join.table, .word " ON "] ++ pathPieces join.first ++
    .word " = " :: pathPieces join.second

def Direction.word : Direction → String
  | .ascending => " ASC"
  | .descending => " DESC"

def SortField.pieces (field : SortField) : List Piece :=
  pathPieces field.column ++ [.word field.direction.word]

def Window.pieces (window : Window) : List Piece :=
  [.word " LIMIT ", .value (.rows window.limit), .word " OFFSET ",
    .value (.rows window.offset)]

namespace Selection

def conditionPieces (selection : Selection) : List Piece :=
  match selection.condition with
  | none => []
  | some clause => .word " WHERE " :: (Expression.ofClause clause).pieces

def orderPieces (selection : Selection) : List Piece :=
  match selection.order with
  | [] => []
  | order => .word " ORDER BY " :: separated ", " (order.map SortField.pieces)

def windowPieces (selection : Selection) : List Piece :=
  match selection.window with
  | none => []
  | some window => window.pieces

def pieces (selection : Selection) : List Piece :=
  .word "SELECT " :: separated ", " (selection.columns.map Projection.pieces) ++
    [.word " FROM ", .name selection.table] ++ selection.joins.flatMap LeftJoin.pieces ++
    selection.conditionPieces ++ selection.orderPieces ++ selection.windowPieces

end Selection

namespace Statement

def pieces : Statement → List Piece
  | .rows selection => selection.pieces
  | .count selection =>
      [.word "SELECT COUNT(*) AS ", .name "total", .word " FROM "] ++
        parenthesized selection.pieces ++ [.word " AS ", .name "counted"]

def inlined (statement : Statement) (dialect : Dialect) : String :=
  dialect.inlined statement.pieces

def command (statement : Statement) (dialect : Dialect) : Command :=
  dialect.command statement.pieces

end Statement

end ListQuery
