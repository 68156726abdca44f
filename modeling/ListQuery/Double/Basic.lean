/-!
# Double-precision numbers

A finite double is a sign, a significand below `2 ^ 53` and a power of two between `-1074`
and `971`.  All arithmetic is exact on natural numbers and rounds once, to the nearest
double and to the even significand when two are equally near.
-/

namespace ListQuery

/-- The number `± significand * 2 ^ exponent`; the significand is at least `2 ^ 52` unless
the exponent is the least one. -/
structure Double where
  negative : Bool
  significand : Nat
  exponent : Int
  deriving DecidableEq, Repr, Inhabited

namespace Double

def leastExponent : Int := -1074

/-- `2 ^ 52`, the least significand of a double whose exponent is not the least. -/
def leastNormal : Nat := 4503599627370496

def greatestExponent : Int := 971

def zero (negative : Bool) : Double := ⟨negative, 0, leastExponent⟩

def isZero (value : Double) : Bool := value.significand = 0

def neg (value : Double) : Double := { value with negative := !value.negative }

def ratio (value : Double) : Nat × Nat :=
  (value.significand * Nat.pow 2 value.exponent.toNat, Nat.pow 2 (-value.exponent).toNat)

/-! ## Rounding -/

/-- The quotient rounded to the nearest number, and to the even one of two equally near. -/
def roundQuotient (numerator denominator : Nat) : Nat :=
  let quotient := numerator / denominator
  let twice := 2 * (numerator % denominator)
  if twice < denominator ∨ (twice = denominator ∧ quotient % 2 = 0) then quotient
  else quotient + 1

def scaleBy (numerator denominator : Nat) (exponent : Int) : Nat × Nat :=
  (numerator * Nat.pow 2 (-exponent).toNat, denominator * Nat.pow 2 exponent.toNat)

/-- The exponent at which a positive quotient has a significand of fifty-three bits, or the
least exponent where there is none. -/
def exponentOf (numerator denominator : Nat) : Int :=
  let estimate : Int := numerator.log2 - denominator.log2 - 52
  let (scaled, unit) := scaleBy numerator denominator estimate
  max leastExponent (if scaled / unit < leastNormal then estimate - 1 else estimate)

def ofRatio? (negative : Bool) (numerator denominator : Nat) : Option Double :=
  if numerator = 0 then some (zero negative)
  else
    let exponent := exponentOf numerator denominator
    let (scaled, unit) := scaleBy numerator denominator exponent
    let significand := roundQuotient scaled unit
    let rounded : Double :=
      if significand = 2 * leastNormal then ⟨negative, leastNormal, exponent + 1⟩
      else ⟨negative, significand, exponent⟩
    if rounded.exponent ≤ greatestExponent then some rounded else none

def ofDecimal? (negative : Bool) (digits : Nat) (scale : Int) : Option Double :=
  ofRatio? negative (digits * Nat.pow 10 scale.toNat) (Nat.pow 10 (-scale).toNat)

def mul? (left right : Double) : Option Double :=
  ofRatio? (left.negative != right.negative) (left.ratio.1 * right.ratio.1)
    (left.ratio.2 * right.ratio.2)

def div? (left right : Double) : Option Double :=
  ofRatio? (left.negative != right.negative) (left.ratio.1 * right.ratio.2)
    (left.ratio.2 * right.ratio.1)

/-! ## Laws of rounding -/

theorem roundQuotient_within (numerator denominator : Nat) (h : 0 < denominator) :
    2 * (roundQuotient numerator denominator * denominator) ≤ 2 * numerator + denominator ∧
      2 * numerator ≤ 2 * (roundQuotient numerator denominator * denominator) + denominator := by
  have hdiv := Nat.div_add_mod numerator denominator
  have hmod := Nat.mod_lt numerator h
  rw [Nat.mul_comm] at hdiv
  simp only [roundQuotient]
  split
  · next hlow => constructor <;> omega
  · next hhigh =>
      rw [Nat.add_mul, Nat.one_mul]
      constructor <;> omega

theorem roundQuotient_tie (numerator denominator : Nat)
    (h : 2 * (numerator % denominator) = denominator) :
    roundQuotient numerator denominator % 2 = 0 := by
  unfold roundQuotient
  by_cases heven : numerator / denominator % 2 = 0
  · simp [h, heven]
  · simp only [h, Nat.lt_irrefl, true_and, false_or, heven, if_false]
    omega

example : ofDecimal? false 15 (-1) = some ⟨false, 6755399441055744, -52⟩ := by decide +kernel
example : ofDecimal? false 5 (-324) = some ⟨false, 1, -1074⟩ := by decide +kernel
example : ofDecimal? false 17976931348623159 292 = none := by decide +kernel
example : ofDecimal? true 9007199254740993 0 = some ⟨true, leastNormal, 1⟩ := by decide +kernel

end Double

end ListQuery
