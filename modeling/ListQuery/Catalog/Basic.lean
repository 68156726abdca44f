import ListQuery.Json.Basic
import ListQuery.Text.Quoted

/-!
# Models and relations

A model names a table, its columns, its relations to other models and the fields that are
not shown.  A relation joins `primaryKey` of the related table to `foreignKey` of the table
it belongs to.
-/

namespace ListQuery

inductive Cardinality where
  | one
  | many
  deriving DecidableEq, Repr

structure Relation where
  name : String
  cardinality : Cardinality
  model : String
  /-- A column of the related model. -/
  primaryKey : String
  /-- A column of the model that the relation belongs to. -/
  foreignKey : String
  deriving DecidableEq, Repr

structure Model where
  name : String
  table : String
  columns : List String
  relations : List Relation
  hidden : List String
  /-- A change made to every row before it is shown. -/
  serializer : Option (Json → Json)

namespace Model

def hasColumn (model : Model) (column : String) : Bool := column ∈ model.columns

def relation? (model : Model) (name : String) : Option Relation :=
  model.relations.find? (·.name = name)

def toOne? (model : Model) (name : String) : Option Relation :=
  model.relations.find? fun relation =>
    relation.name = name && relation.cardinality = .one

def qualify (model : Model) (column : String) : String := model.table ++ "." ++ column

def present (model : Model) (row : Json) : Json :=
  match model.serializer.elim row (· row) with
  | .object fields => .object (Json.eraseFields model.hidden fields)
  | shown => shown

end Model

/-! ## Descriptions -/

def describeRecord (name : String) (parts : List (String × String)) : String :=
  name ++ " \x7b " ++ ", ".intercalate (parts.map fun (label, part) => label ++ ": " ++ part) ++
    " \x7d"

def describeList (parts : List String) : String := "[" ++ ", ".intercalate parts ++ "]"

def Relation.description (relation : Relation) : String :=
  describeRecord "RelationDefinition"
    [("name", Text.quoted relation.name),
      ("kind", match relation.cardinality with
        | .one => "HasOne"
        | .many => "HasMany"),
      ("model", Text.quoted relation.model),
      ("primary_key", Text.quoted relation.primaryKey),
      ("foreign_key", Text.quoted relation.foreignKey)]

def Model.description (model : Model) : String :=
  describeRecord "ModelDefinition"
    [("name", Text.quoted model.name), ("table", Text.quoted model.table),
      ("columns", describeList (model.columns.map Text.quoted)),
      ("relations", describeList (model.relations.map Relation.description)),
      ("hidden", describeList (model.hidden.map Text.quoted)),
      ("serializer", if model.serializer.isSome then "true" else "false")]

end ListQuery
