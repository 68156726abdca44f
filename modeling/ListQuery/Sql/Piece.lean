import ListQuery.Condition.Scalar

/-!
# Pieces of statement text

The text of a statement is made of pieces: words that are the same everywhere, names of
tables and columns, and values.  Names are quoted and values written as a dialect does it.
-/

namespace ListQuery.Sql

inductive Bound where
  | scalar (value : Scalar)
  | rows (count : Nat)
  /-- A constant of thirty-two bits. -/
  | constant (value : Int)
  deriving DecidableEq, Repr

inductive Piece where
  | word (text : String)
  | name (text : String)
  | value (bound : Bound)
  deriving DecidableEq, Repr

def Piece.bound? : Piece → Option Bound
  | .value bound => some bound
  | _ => none

def separated (separator : String) : List (List Piece) → List Piece
  | [] => []
  | [pieces] => pieces
  | pieces :: rest => pieces ++ .word separator :: separated separator rest

def parenthesized (pieces : List Piece) : List Piece := .word "(" :: pieces ++ [.word ")"]

end ListQuery.Sql
