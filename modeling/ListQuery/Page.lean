import ListQuery.Text.Blank
import ListQuery.Text.Slice
import ListQuery.Width

/-!
# Pages

A page is asked for by number and size.  Both parameters are read leniently and never
rejected: a value that is missing, is no number or is out of range gives way to a default.
Every accepted page has an offset that sixty-three bits hold.
-/

namespace ListQuery

/-! ## Parameters -/

def isDigitOctet (octet : UInt8) : Bool := '0'.toUInt8 ≤ octet && octet ≤ '9'.toUInt8

def signLength : List Char → Nat
  | '-' :: _ | '+' :: _ => 1
  | _ => 0

/-- What an integer at the start of a text is read as, where the text can be cut before and
after its digits.  The digits are counted among the octets. -/
def readLeading? (text : String) : Option (Option Int) := do
  let chars := Text.trimLead text.toList
  let (_, unsigned) ← Text.sliceAt? chars (signLength chars)
  let count := ((Text.octets unsigned).takeWhile isDigitOctet).length
  if count = 0 then return none
  let (numeral, _) ← Text.sliceAt? chars (signLength chars + count)
  return readSigned? numeral

def leadingInteger? (text : String) : Option Int := (readLeading? text).join

def boundedParameter (least greatest default : Nat) (content? : Option String) : Nat :=
  let value? := (content?.bind leadingInteger?).bind unsigned?
  (value?.filter fun value => least ≤ value ∧ value ≤ greatest).getD default

def greatestOffset : Nat := signedLimit - 1

def greatestPerPage : Nat := 10000

/-- The greatest page whose offset can be bound whatever the size of the pages. -/
def greatestPage : Nat := greatestOffset / greatestPerPage + 1

def parsePage (content? : Option String) : Nat := boundedParameter 1 greatestPage 1 content?

def parsePerPage (content? : Option String) : Nat :=
  boundedParameter 2 greatestPerPage 10 content?

/-! ## Windows -/

def rowsBefore (perPage page : Nat) : Nat := saturatingMul (page - 1) perPage

structure Window where
  offset : Nat
  limit : Nat
  deriving DecidableEq, Repr

def Window.of (perPage page : Nat) : Window :=
  ⟨min (rowsBefore perPage page) greatestOffset, perPage⟩

/-! ## Pages of results -/

/-- A page of results and its place among all of them.  `first` and `last` count from one
and are zero where the page has no rows. -/
structure Page (α : Type) where
  total : Nat
  perPage : Nat
  current : Nat
  lastPage : Nat
  first : Nat
  last : Nat
  rows : List α
  deriving DecidableEq, Repr

/-- The page with the given rows; a page has room for one row at least. -/
def Page.of {α : Type} (rows : List α) (total perPage current : Nat) : Page α :=
  let perPage := max perPage 1
  let before := rowsBefore perPage current
  { total := total
    perPage := perPage
    current := current
    lastPage := max ((total + (perPage - 1)) / perPage) 1
    first := if rows.isEmpty then 0 else wrappingAdd before 1
    last := if rows.isEmpty then 0 else wrappingAdd before rows.length
    rows := rows }

/-! ## Bounds -/

theorem boundedParameter_mem_range {least greatest default : Nat}
    (hleast : least ≤ default) (hgreatest : default ≤ greatest)
    (content? : Option String) :
    least ≤ boundedParameter least greatest default content? ∧
      boundedParameter least greatest default content? ≤ greatest := by
  unfold boundedParameter
  simp only
  cases hvalue : ((content?.bind leadingInteger?).bind unsigned?).filter
      fun value => least ≤ value ∧ value ≤ greatest with
  | none => exact ⟨hleast, hgreatest⟩
  | some value => simpa using (Option.filter_eq_some_iff.mp hvalue).2

example : parsePage (some " 42") = 42 := by decide +kernel
example : parsePage (some "- 1") = 1 := by decide +kernel
example : parsePerPage (some "+25rows") = 25 := by decide +kernel
example : parsePerPage (some "10001") = 10 := by decide +kernel
example : Window.of 25 3 = ⟨50, 25⟩ := by decide
example : (Page.of [(), (), ()] 23 10 3).last = 23 := by decide

end ListQuery
