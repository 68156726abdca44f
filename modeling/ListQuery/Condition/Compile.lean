import ListQuery.Catalog.Registry
import ListQuery.Column
import ListQuery.Condition.Key
import ListQuery.Json.Reader

/-!
# Compiling filters

A filter is a JSON document: objects hold pairs of a key and a value, each of them a
predicate, arrays nest, and `null` is an empty group.  Compiling goes through the document
in order, records the column of each predicate and stops at the first mistake; what was
recorded before a mistake stays recorded.
-/

namespace ListQuery

/-- A result together with the columns recorded on the way to it. -/
structure Compiled (α : Type) where
  result : Except QueryError α
  columns : List String

namespace Compiled

variable {α β : Type}

def pure (value : α) : Compiled α := ⟨.ok value, []⟩

def fail (error : QueryError) : Compiled α := ⟨.error error, []⟩

def map (change : α → β) (compiled : Compiled α) : Compiled β :=
  ⟨compiled.result.map change, compiled.columns⟩

def after (recorded : List String) (compiled : Compiled α) : Compiled α :=
  ⟨compiled.result, recorded ++ compiled.columns⟩

def andThen (compiled : Compiled α) (next : α → Compiled β) : Compiled β :=
  match compiled.result with
  | .error error => ⟨.error error, compiled.columns⟩
  | .ok value => ⟨(next value).result, compiled.columns ++ (next value).columns⟩

@[simp] theorem columns_map (change : α → β) (compiled : Compiled α) :
    (compiled.map change).columns = compiled.columns := rfl

theorem andThen_of_ok {compiled : Compiled α} {value : α} (next : α → Compiled β)
    (h : compiled.result = .ok value) :
    compiled.andThen next =
      ⟨(next value).result, compiled.columns ++ (next value).columns⟩ := by
  simp [andThen, h]

theorem andThen_of_error {compiled : Compiled α} {error : QueryError}
    (next : α → Compiled β) (h : compiled.result = .error error) :
    compiled.andThen next = ⟨.error error, compiled.columns⟩ := by
  simp [andThen, h]

end Compiled

/-! ## Predicates -/

namespace Predicate

/-- The predicate on a path: a column of the model itself, or after a first dot a column of
the model that a relation to one row leads to. -/
def locate (catalog : Catalog) (model : Model) (connective? : Option Connective)
    (path : String) (filter : Filter) : Except QueryError Predicate :=
  match Text.cutAt? '.' path with
  | none => .ok ⟨connective?, model.name, model.table, path, filter, none⟩
  | some (name, column) =>
      match model.toOne? name with
      | none => .error (.undefinedRelation path)
      | some relation =>
          match catalog.model? relation.model with
          | none => .error (.undefinedModel relation.model)
          | some related =>
              .ok ⟨connective?, related.name, related.table, column, filter, some relation⟩

def ofPair (catalog : Catalog) (model : Model) (key : String) (value : Json) :
    Except QueryError Predicate := do
  let (connective?, field) := Connective.split key
  let (path, filter) ← Filter.ofField key field value
  let predicate ← locate catalog model connective? path filter
  Column.validate predicate.field
  return predicate

def compile (catalog : Catalog) (model : Model) (key : String) (value : Json) :
    Compiled Predicate :=
  match ofPair catalog model key value with
  | .ok predicate => ⟨.ok predicate, [predicate.column]⟩
  | .error error => .fail error

end Predicate

/-! ## Documents -/

namespace Condition

def compilePairs (catalog : Catalog) (model : Model) :
    List (String × Json) → Compiled (List Condition)
  | [] => .pure []
  | (key, value) :: pairs =>
      (Predicate.compile catalog model key value).andThen fun predicate =>
        (compilePairs catalog model pairs).map (.predicate predicate :: ·)

mutual

def compileValue (catalog : Catalog) (model : Model) : Json → Compiled Condition
  | .array items => (compileItems catalog model items).map .group
  | .object pairs => (compilePairs catalog model pairs).map .group
  | .null => .pure (.group [])
  | value => .fail (.malformedFilter value.write)

def compileItems (catalog : Catalog) (model : Model) :
    List Json → Compiled (List Condition)
  | [] => .pure []
  | item :: items =>
      (compileValue catalog model item).andThen fun condition =>
        (compileItems catalog model items).map (condition :: ·)

end

/-! ## Payloads -/

/-- Characters without the escapes of spaces, taken from the left. -/
def dropEscapedSpaces : List Char → List Char
  | '%' :: '2' :: '0' :: rest => dropEscapedSpaces rest
  | char :: rest => char :: dropEscapedSpaces rest
  | [] => []

def stripPayload (payload : String) : String :=
  String.ofList ((dropEscapedSpaces payload.toList).filter (· ≠ ' '))

/-- The condition of a payload, with what was recorded before it and in it.  A payload with
nothing in it is an empty group and leaves no record. -/
def compileAfter (catalog : Catalog) (model : Model) (recorded : List String)
    (payload? : Option String) : Compiled Condition :=
  let content := stripPayload (payload?.getD "")
  if content.isEmpty then .pure (.group [])
  else match Json.read? content with
    | none => .after recorded (.fail (.malformedFilter content))
    | some value => .after recorded (compileValue catalog model value)

def compile (catalog : Catalog) (model : Model) (payload? : Option String) :
    Compiled Condition :=
  compileAfter catalog model [] payload?

end Condition

end ListQuery
