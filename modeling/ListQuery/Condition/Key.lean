import ListQuery.Condition.Basic
import ListQuery.Error
import ListQuery.Json.Writer
import ListQuery.Text.Cut

/-!
# Keys of filters

A key is a column path, which may follow `$or.` or `$and.` and be followed by the ending of
an operator.  The operator decides which values the key may have.
-/

namespace ListQuery

inductive Operator where
  | compare (comparison : Comparison)
  | set (test : SetTest)
  deriving DecidableEq, Repr

namespace Operator

/-- No ending of the list is the ending of another one. -/
def endings : List (String × Operator) :=
  [(".$not", .compare .notEqual), (".$gt", .compare .greater),
    (".$gte", .compare .greaterOrEqual), (".$lt", .compare .less),
    (".$lte", .compare .lessOrEqual), (".$like", .compare .like),
    (".$notLike", .compare .notLike), (".$in", .set .isIn), (".$notIn", .set .isNotIn),
    (".$between", .set .between), (".$notBetween", .set .notBetween)]

def split (field : String) : String × Operator :=
  (endings.findSome? fun (ending, operator) =>
    (Text.before? ending field).map (·, operator)).getD (field, .compare .equal)

end Operator

/-! ## Links -/

/-- The link that a key asks for and what follows it; of both leads the second wins. -/
def Connective.split (key : String) : Option Connective × String :=
  let (first?, rest) := match Text.after? "$or." key with
    | some rest => (some Connective.or, rest)
    | none => (none, key)
  match Text.after? "$and." rest with
  | some rest => (some .and, rest)
  | none => (first?, rest)

/-! ## Values -/

def SetTest.separator : SetTest → Char
  | .isIn | .isNotIn => ','
  | .between | .notBetween => ':'

def SetTest.values? (test : SetTest) : Json → Option (List Scalar)
  | .text text => some ((Text.splitOn test.separator text).map Scalar.ofPiece)
  | .array items => items.mapM Scalar.ofJson?
  | _ => none

namespace Filter

def ofValue? : Operator → Json → Option Filter
  | .compare .like, .text pattern => some (.compare .like (.text (Text.substitute '*' '%' pattern)))
  | .compare .notLike, .text pattern =>
      some (.compare .notLike (.text (Text.substitute '*' '%' pattern)))
  | .compare .like, _ => none
  | .compare .notLike, _ => none
  | .compare comparison, value => (Scalar.ofJson? value).map (.compare comparison)
  | .set test, value => do
      let values ← test.values? value
      if test.isRange && values.length ≠ 2 then none else some (.set test values)

def pairText (key : String) (value : Json) : String :=
  "\x7b\"" ++ key ++ "\":" ++ value.write ++ "\x7d"

def ofField (key field : String) (value : Json) : Except QueryError (String × Filter) :=
  if value.isNull then
    match Text.before? ".$not" field with
    | some path => .ok (path, .null .isNotNull)
    | none => .ok (field, .null .isNull)
  else
    let (path, operator) := Operator.split field
    match ofValue? operator value with
    | some filter => .ok (path, filter)
    | none => .error (.malformedFilter (pairText key value))

end Filter

end ListQuery
