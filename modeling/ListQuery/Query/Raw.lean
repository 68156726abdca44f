import ListQuery.Text.Form

/-!
# Raw queries

A list is asked for with up to six parameters, each of which is a text or absent.
-/

namespace ListQuery

inductive Parameter where
  | page
  | perPage
  | fields
  | sort
  | filter
  | loads
  deriving DecidableEq, Repr

namespace Parameter

def name : Parameter → String
  | .page => "page"
  | .perPage => "per_page"
  | .fields => "fields"
  | .sort => "sort"
  | .filter => "q"
  | .loads => "with"

def all : List Parameter := [.page, .perPage, .fields, .sort, .filter, .loads]

def ofName? (name : String) : Option Parameter := all.find? (·.name = name)

end Parameter

structure RawQuery where
  page : Option String
  perPage : Option String
  fields : Option String
  sort : Option String
  filter : Option String
  loads : Option String
  deriving DecidableEq, Repr

namespace RawQuery

def empty : RawQuery := ⟨none, none, none, none, none, none⟩

def get? (raw : RawQuery) : Parameter → Option String
  | .page => raw.page
  | .perPage => raw.perPage
  | .fields => raw.fields
  | .sort => raw.sort
  | .filter => raw.filter
  | .loads => raw.loads

def set (raw : RawQuery) (parameter : Parameter) (value : String) : RawQuery :=
  match parameter with
  | .page => { raw with page := some value }
  | .perPage => { raw with perPage := some value }
  | .fields => { raw with fields := some value }
  | .sort => { raw with sort := some value }
  | .filter => { raw with filter := some value }
  | .loads => { raw with loads := some value }

@[simp] theorem get?_set_self (raw : RawQuery) (parameter : Parameter) (value : String) :
    (raw.set parameter value).get? parameter = some value := by
  cases parameter <;> rfl

theorem get?_set_of_ne (raw : RawQuery) {written read : Parameter} (value : String)
    (h : read ≠ written) : (raw.set written value).get? read = raw.get? read := by
  cases written <;> cases read <;> simp_all [set, get?]

/-! ## Forms -/

structure RepeatedParameter where
  parameter : Parameter
  deriving DecidableEq, Repr

def RepeatedParameter.message (repeated : RepeatedParameter) : String :=
  "Failed to deserialize query string: duplicate field `" ++ repeated.parameter.name ++ "`"

def takePair (raw : RawQuery) (pair : String × String) : Except RepeatedParameter RawQuery :=
  match Parameter.ofName? pair.1 with
  | none => .ok raw
  | some parameter =>
      if (raw.get? parameter).isSome then .error ⟨parameter⟩
      else .ok (raw.set parameter pair.2)

def ofForm (text : String) : Except RepeatedParameter RawQuery :=
  (Text.Form.pairs text).foldlM takePair empty

end RawQuery

end ListQuery
