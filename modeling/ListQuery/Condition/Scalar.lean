import ListQuery.Json.Number

/-!
# Scalar values

A filter compares columns with scalars.  An integer of a document is a scalar integer where
63 bits and a sign hold it, and the nearest double otherwise.  A piece of a list that is
written in a text is a number where it is spelled as one, and text otherwise.
-/

namespace ListQuery

inductive Scalar where
  | bool (value : Bool)
  | int (value : Int)
  | float (value : Double)
  | text (value : String)
  deriving DecidableEq, Repr

namespace Scalar

def ofNumber : Number → Scalar
  | .integer value =>
      if value < signedLimit then .int value
      else .float ((Double.ofRatio? false value.toNat 1).getD default)
  | .double value => .float value

def ofJson? : Json → Option Scalar
  | .bool value => some (.bool value)
  | .number value => some (ofNumber value)
  | .text value => some (.text value)
  | _ => none

def ofPiece (piece : String) : Scalar :=
  match Number.ofChars? piece.toList with
  | some value => ofNumber value
  | none => .text piece

def display : Scalar → String
  | .bool value => if value then "true" else "false"
  | .int value => toString value
  | .float value => Double.Layout.plain.text value
  | .text value => value

example : ofPiece "007" = .text "007" := by decide +kernel
example : ofPiece "-2" = .int (-2) := by decide +kernel
example : (ofPiece "1e2").display = "100" := by decide +kernel

end Scalar

end ListQuery
