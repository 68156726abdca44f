/-!
# Widths of integers

Integers of documents and statements have sixty-four bits, with or without a sign.  Digits are
read one after the other, and no step on the way may need more bits.
-/

namespace ListQuery

/-- `2 ^ 63`, one more than the greatest signed integer. -/
def signedLimit : Nat := 9223372036854775808

/-- `2 ^ 64`, one more than the greatest unsigned integer. -/
def unsignedLimit : Nat := 18446744073709551616

example : signedLimit = 2 ^ 63 ∧ unsignedLimit = 2 ^ 64 := by decide

def signed? (value : Int) : Option Int :=
  if -signedLimit ≤ value ∧ value < signedLimit then some value else none

def unsigned? (value : Int) : Option Nat :=
  if 0 ≤ value ∧ value < unsignedLimit then some value.toNat else none

def saturatingMul (left right : Nat) : Nat := min (left * right) (unsignedLimit - 1)

def wrappingAdd (left right : Nat) : Nat := (left + right) % unsignedLimit

theorem saturatingMul_of_lt {left right : Nat} (h : left * right < unsignedLimit) :
    saturatingMul left right = left * right :=
  Nat.min_eq_left (Nat.le_sub_one_of_lt h)

theorem wrappingAdd_of_lt {left right : Nat} (h : left + right < unsignedLimit) :
    wrappingAdd left right = left + right :=
  Nat.mod_eq_of_lt h

/-! ## Digits -/

def digit? (char : Char) : Option Nat :=
  if char.isDigit then some (char.toNat - '0'.toNat) else none

def appendDigit? (negative : Bool) (value : Int) (char : Char) : Option Int := do
  let shifted ← signed? (value * 10)
  let digit ← digit? char
  signed? (if negative then shifted - digit else shifted + digit)

def readSigned? (chars : List Char) : Option Int :=
  let (negative, digits) := match chars with
    | '-' :: rest => (true, rest)
    | '+' :: rest => (false, rest)
    | rest => (false, rest)
  if digits.isEmpty then none else digits.foldlM (appendDigit? negative) 0

example : readSigned? "-9223372036854775808".toList = some (-9223372036854775808) := by
  decide +kernel
example : readSigned? "+9223372036854775808".toList = none := by decide +kernel
example : readSigned? "-".toList = none := by decide

end ListQuery
