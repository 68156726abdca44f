import ListQuery.Json.Basic
import ListQuery.Response
import ListQuery.Sql.Writer

/-!
# Connections

A connection answers one statement after the other, each with rows or an error, and keeps
the statements that it was sent.  The columns of a row come in the order of their names.
-/

namespace ListQuery

abbrev Row := List (String × Json)

inductive Reply where
  | rows (rows : List Row)
  | failure (reason : String)
  deriving BEq, Repr

def Row.insert (name : String) (value : Json) : Row → Row
  | [] => [(name, value)]
  | column :: columns =>
      if name < column.1 then (name, value) :: column :: columns
      else column :: insert name value columns

def Row.ordered (row : Row) : Row :=
  row.foldl (fun columns column => insert column.1 column.2 columns) []

structure Connection where
  dialect : Sql.Dialect
  replies : List Reply
  sent : List Sql.Command
  deriving BEq, Repr

namespace Connection

def ask (connection : Connection) (statement : Statement) :
    Except DatabaseError (List Row) × Connection :=
  let sent := connection.sent ++ [statement.command connection.dialect]
  match connection.replies with
  | [] => (.error .unanswered, { connection with sent := sent })
  | .failure reason :: replies =>
      (.error (.reported reason), { connection with replies := replies, sent := sent })
  | .rows rows :: replies =>
      (.ok (rows.map Row.ordered), { connection with replies := replies, sent := sent })

end Connection

end ListQuery
