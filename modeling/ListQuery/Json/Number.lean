import ListQuery.Double.Layout
import ListQuery.Json.Basic
import ListQuery.Width

/-!
# Numbers of documents

A number is an optional minus, a whole part without leading zeros, and optionally a fraction
and an exponent.  Without fraction and exponent it is an integer where 64 bits hold it.

Any other number is read in three steps.  The significand takes digits while it stays below
`2 ^ 64`; whole digits beyond that count as powers of ten and fraction digits beyond that are
dropped.  The significand is rounded to a double.  That double is multiplied or divided by
the double nearest to the power of ten, at most `10 ^ 308` at a time.
-/

namespace ListQuery

/-! ## Spelling -/

/-- A number as it is spelled: an absent fraction has no digits. -/
structure Literal where
  negative : Bool
  whole : List Char
  fraction : List Char
  exponent : Option Int
  deriving DecidableEq, Repr

namespace Literal

def fraction? : List Char → Option (List Char × List Char)
  | '.' :: rest =>
      let digits := rest.takeWhile Char.isDigit
      if digits.isEmpty then none else some (digits, rest.dropWhile Char.isDigit)
  | chars => some ([], chars)

def digits? (chars : List Char) : Option (List Char) :=
  if chars.isEmpty || !chars.all Char.isDigit then none else some chars

def exponent? : List Char → Option (Option Int)
  | [] => some none
  | mark :: rest =>
      if mark = 'e' ∨ mark = 'E' then
        match rest with
        | '-' :: digits =>
            (digits? digits).map fun digits => some (-(Nat.ofDigitChars 10 digits 0 : Int))
        | '+' :: digits =>
            (digits? digits).map fun digits => some (Nat.ofDigitChars 10 digits 0 : Int)
        | digits =>
            (digits? digits).map fun digits => some (Nat.ofDigitChars 10 digits 0 : Int)
      else none

def unsigned? (negative : Bool) (chars : List Char) : Option Literal := do
  let whole := chars.takeWhile Char.isDigit
  guard (!whole.isEmpty && (whole.head? != some '0' || whole.length = 1))
  let (fraction, rest) ← fraction? (chars.dropWhile Char.isDigit)
  let exponent ← exponent? rest
  some ⟨negative, whole, fraction, exponent⟩

def ofChars? : List Char → Option Literal
  | '-' :: chars => unsigned? true chars
  | chars => unsigned? false chars

def isWhole (literal : Literal) : Bool := literal.fraction.isEmpty && literal.exponent.isNone

end Literal

/-! ## Value -/

/-- A significand of 64 bits that takes digits while it can, and how many it leaves. -/
def absorb (significand : Nat) : List Char → Nat × Nat
  | [] => (significand, 0)
  | digit :: digits =>
      let next := 10 * significand + (digit.toNat - '0'.toNat)
      if next < unsignedLimit then absorb next digits else (significand, digits.length + 1)

def powerOfTen (exponent : Nat) : Double := (Double.ofDecimal? false 1 exponent).getD default

/-- A magnitude divided again and again, until it is zero at the latest. -/
def divideRepeatedly (divisor magnitude : Double) : Nat → Double
  | 0 => magnitude
  | times + 1 =>
      if magnitude.isZero then magnitude
      else divideRepeatedly divisor ((magnitude.div? divisor).getD default) times

def scaleByTen? (magnitude : Double) (exponent : Int) : Option Double :=
  let power := exponent.natAbs
  if power ≤ 308 then
    if 0 ≤ exponent then magnitude.mul? (powerOfTen power)
    else magnitude.div? (powerOfTen power)
  else if magnitude.isZero then some magnitude
  else if 0 ≤ exponent then none
  else
    let strides := (power - 1) / 308
    (divideRepeatedly (powerOfTen 308) magnitude strides).div?
      (powerOfTen (power - 308 * strides))

def Literal.double? (literal : Literal) : Option Double := do
  let (whole, uncounted) := absorb 0 literal.whole
  let (significand, dropped) := absorb whole literal.fraction
  let exponent : Int :=
    literal.exponent.getD 0 + uncounted - (literal.fraction.length - dropped)
  let magnitude ← Double.ofRatio? false significand 1
  let scaled ← scaleByTen? magnitude exponent
  some (if literal.negative then scaled.neg else scaled)

def Literal.number? (literal : Literal) : Option Number :=
  let natural := Nat.ofDigitChars 10 literal.whole 0
  if literal.isWhole && !literal.negative && natural < unsignedLimit then some (.integer natural)
  else if literal.isWhole && literal.negative && 0 < natural && natural ≤ signedLimit then
    some (.integer (-natural))
  else literal.double?.map .double

namespace Number

def ofChars? (chars : List Char) : Option Number := do
  let literal ← Literal.ofChars? chars
  literal.number?

def text : Number → String
  | .integer value => toString value
  | .double value => Double.Layout.document.text value

example : (ofChars? "18446744073709551615".toList).map text = some "18446744073709551615" := by
  decide +kernel
example : (ofChars? "18446744073709551616".toList).map text = some "1.8446744073709552e+19" := by
  decide +kernel
example : (ofChars? "-0".toList).map text = some "-0.0" := by decide +kernel
example : (ofChars? "5e-324".toList).map text = some "5e-324" := by decide +kernel
example : (ofChars? "1e-400".toList).map text = some "0.0" := by decide +kernel
example : ofChars? "1e400".toList = none := by decide +kernel
example : ofChars? "01".toList = none := by decide +kernel
example : ofChars? "1.".toList = none := by decide +kernel

end Number

end ListQuery
