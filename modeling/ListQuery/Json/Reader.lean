import ListQuery.Json.Token

/-!
# Reading documents

The reader keeps the arrays and objects that are open around the value it reads, the
innermost first, and takes one token at a time.  A key that comes again in an object keeps
its first place and takes the last value.
-/

namespace ListQuery.Json

/-- An open array or object: a `member` is an object that waits for the value of a key. -/
inductive Frame where
  | array (reversed : List Json)
  | object (fields : List (String × Json))
  | member (fields : List (String × Json)) (key : String)

inductive Expected where
  | value
  | firstItem
  | firstKey
  | key
  | colon
  deriving DecidableEq, Repr

inductive Reader where
  | expects (expected : Expected) (frames : List Frame)
  | holds (value : Json) (frames : List Frame)

namespace Reader

def value? (depth : Nat) (frames : List Frame) : Token → Option Reader
  | .null => some (.holds .null frames)
  | .bool value => some (.holds (.bool value) frames)
  | .number value => some (.holds (.number value) frames)
  | .text value => some (.holds (.text value) frames)
  | .openArray =>
      if frames.length < depth then some (.expects .firstItem (.array [] :: frames)) else none
  | .openObject =>
      if frames.length < depth then some (.expects .firstKey (.object [] :: frames)) else none
  | _ => none

def step? (depth : Nat) : Reader → Token → Option Reader
  | .expects .firstItem (.array _ :: frames), .closeArray => some (.holds (.array []) frames)
  | .expects .firstKey (.object _ :: frames), .closeObject => some (.holds (.object []) frames)
  | .expects .value frames, token => value? depth frames token
  | .expects .firstItem frames, token => value? depth frames token
  | .expects .firstKey (.object fields :: frames), .text key =>
      some (.expects .colon (.member fields key :: frames))
  | .expects .key (.object fields :: frames), .text key =>
      some (.expects .colon (.member fields key :: frames))
  | .expects .colon frames, .colon => some (.expects .value frames)
  | .holds value (.array reversed :: frames), .comma =>
      some (.expects .value (.array (value :: reversed) :: frames))
  | .holds value (.array reversed :: frames), .closeArray =>
      some (.holds (.array (value :: reversed).reverse) frames)
  | .holds value (.member fields key :: frames), .comma =>
      some (.expects .key (.object (insertField key value fields) :: frames))
  | .holds value (.member fields key :: frames), .closeObject =>
      some (.holds (.object (insertField key value fields)) frames)
  | _, _ => none

def finish? : Reader → Option Json
  | .holds value [] => some value
  | _ => none

end Reader

def greatestDepth : Nat := 127

def readWithin? (depth : Nat) (text : String) : Option Json := do
  let tokens ← tokens? text.toList
  let reader ← tokens.foldlM (Reader.step? depth) (.expects .value [])
  reader.finish?

def read? (text : String) : Option Json := readWithin? greatestDepth text

end ListQuery.Json
