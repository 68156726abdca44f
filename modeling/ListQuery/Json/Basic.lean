import ListQuery.Double.Basic

/-!
# JSON documents

Objects keep their fields in order.  Writing a key that is already there keeps its place;
erasing a key moves the last field into the hole.
-/

namespace ListQuery

inductive Number where
  | integer (value : Int)
  | double (value : Double)
  deriving DecidableEq, Repr

inductive Json where
  | null
  | bool (value : Bool)
  | number (value : Number)
  | text (value : String)
  | array (items : List Json)
  | object (fields : List (String × Json))
  deriving BEq, Repr, Inhabited

namespace Json

def isNull : Json → Bool
  | .null => true
  | _ => false

/-! ## Ordered fields -/

variable {α : Type}

/-- The fields with a key set to a value, in its old place if it has one. -/
def insertField (key : String) (value : α) : List (String × α) → List (String × α)
  | [] => [(key, value)]
  | field :: fields =>
      if field.1 = key then (key, value) :: fields
      else field :: insertField key value fields

/-- The fields without a key, the last of them in its place. -/
def eraseField (key : String) (fields : List (String × α)) : List (String × α) :=
  match fields.dropWhile (·.1 != key) with
  | [] => fields
  | _ :: back =>
      let front := fields.takeWhile (·.1 != key)
      match back.getLast? with
      | none => front
      | some last => front ++ last :: back.dropLast

def eraseFields (keys : List String) (fields : List (String × α)) : List (String × α) :=
  keys.foldl (fun fields key => eraseField key fields) fields

theorem lookup_insertField (key : String) (value : α) (fields : List (String × α)) :
    (insertField key value fields).lookup key = some value := by
  induction fields with
  | nil => simp [insertField]
  | cons field fields ih =>
      obtain ⟨name, old⟩ := field
      unfold insertField
      split
      · simp
      · next hne =>
          have : (key == name) = false := by simpa using fun h => hne h.symm
          simp [List.lookup_cons, this, ih]

example : eraseField "b" [("a", 1), ("b", 2), ("c", 3), ("d", 4)] =
    [("a", 1), ("d", 4), ("c", 3)] := by decide
example : insertField "a" 3 [("a", 1), ("b", 2)] = [("a", 3), ("b", 2)] := by decide

end Json

end ListQuery
