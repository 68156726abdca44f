import ListQuery.Sql.Piece

/-!
# Dialects

A name stands between quote marks, and a quote mark inside it is written twice.  A text that
is written into a statement stands between apostrophes: one dialect writes an apostrophe
inside it twice, the others escape it and the characters that backslashes stand for.
-/

namespace ListQuery.Sql

inductive Dialect where
  | mysql
  | postgres
  | sqlite
  deriving DecidableEq, Repr

def doubled (mark : Char) (text : String) : String :=
  String.ofList (mark :: text.toList.flatMap
    (fun char => if char = mark then [mark, mark] else [char]) ++ [mark])

def escapedChar : Char → List Char
  | '\\' => ['\\', '\\']
  | '"' => ['\\', '"']
  | '\'' => ['\\', '\'']
  | '\x00' => ['\\', '0']
  | '\x08' => ['\\', 'b']
  | '\t' => ['\\', 't']
  | '\x1a' => ['\\', 'z']
  | '\n' => ['\\', 'n']
  | '\r' => ['\\', 'r']
  | char => [char]

namespace Dialect

def quoteMark : Dialect → Char
  | .mysql => '\x60'
  | .postgres => '"'
  | .sqlite => '"'

def name (dialect : Dialect) (text : String) : String := doubled dialect.quoteMark text

def text (dialect : Dialect) (text : String) : String :=
  match dialect with
  | .sqlite => doubled '\'' text
  | .mysql => String.ofList ('\'' :: text.toList.flatMap escapedChar ++ ['\''])
  | .postgres =>
      let escaped := text.toList.flatMap escapedChar
      let lead := if '\\' ∈ escaped then ['E'] else []
      String.ofList (lead ++ '\'' :: escaped ++ ['\''])

def value (dialect : Dialect) : Bound → String
  | .scalar (.bool value) => if value then "TRUE" else "FALSE"
  | .scalar (.text value) => dialect.text value
  | .scalar value => value.display
  | .rows count => toString count
  | .constant value => toString value

def placeholder (dialect : Dialect) (number : Nat) : String :=
  match dialect with
  | .postgres => "$" ++ toString number
  | .mysql => "?"
  | .sqlite => "?"

/-! ## Texts of statements -/

def inlined (dialect : Dialect) (pieces : List Piece) : String :=
  String.join (pieces.map fun piece => match piece with
    | .word text => text
    | .name text => dialect.name text
    | .value bound => dialect.value bound)

def templateFrom (dialect : Dialect) (number : Nat) : List Piece → String
  | [] => ""
  | .word text :: pieces => text ++ templateFrom dialect number pieces
  | .name text :: pieces => dialect.name text ++ templateFrom dialect number pieces
  | .value _ :: pieces => dialect.placeholder number ++ templateFrom dialect (number + 1) pieces

def template (dialect : Dialect) (pieces : List Piece) : String := dialect.templateFrom 1 pieces

theorem templateFrom_append (dialect : Dialect) (number : Nat) (front back : List Piece) :
    dialect.templateFrom number (front ++ back) =
      dialect.templateFrom number front ++
        dialect.templateFrom (number + (front.filterMap Piece.bound?).length) back := by
  induction front generalizing number with
  | nil => simp [templateFrom]
  | cons piece front ih =>
      cases piece with
      | word text => simp [templateFrom, Piece.bound?, List.filterMap_cons, ih, String.append_assoc]
      | name text => simp [templateFrom, Piece.bound?, List.filterMap_cons, ih, String.append_assoc]
      | value bound =>
          simp [templateFrom, Piece.bound?, ih, String.append_assoc, Nat.add_assoc,
            Nat.add_comm 1]

end Dialect

structure Command where
  text : String
  values : List Bound
  deriving DecidableEq, Repr

def Dialect.command (dialect : Dialect) (pieces : List Piece) : Command :=
  ⟨dialect.template pieces, pieces.filterMap Piece.bound?⟩

example : Dialect.postgres.text "it's" = "E'it\\'s'" := by decide +kernel
example : Dialect.postgres.text "its" = "'its'" := by decide +kernel
example : Dialect.sqlite.text "it's\\" = "'it''s\\'" := by decide +kernel
example : Dialect.mysql.text "a\nb" = "'a\\nb'" := by decide +kernel

end ListQuery.Sql
