import ListQuery.Error

/-!
# Column paths

A path that a client gives may hold letters and digits of ASCII, underscores and dots, and
neither starts nor ends with a dot.  Whether the column exists is another question.
-/

namespace ListQuery.Column

def isPathChar (char : Char) : Bool := char.isAlphanum || char = '_' || char = '.'

def validate (field : String) : Except QueryError Unit :=
  let chars := field.toList
  if chars.isEmpty || !chars.all isPathChar then
    .error (.invalidColumn field .unacceptableName)
  else if chars.head? = some '.' || chars.getLast? = some '.' then
    .error (.invalidColumn field .unqualified)
  else .ok ()

end ListQuery.Column
