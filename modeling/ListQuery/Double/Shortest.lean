import ListQuery.Double.Basic

/-!
# The shortest decimal of a double

Among the decimals that read back to a double, the shortest are those with the fewest
digits, and of these the one nearest to the double is taken.  The search is on grids of
powers of ten, from the decade of the leading digit downwards; on each grid only the two
neighbours of the value can be nearest.
-/

namespace ListQuery.Double

inductive Tie where
  | even
  | away
  deriving DecidableEq, Repr

structure Decimal where
  digits : Nat
  scale : Int
  deriving DecidableEq, Repr

def decadeOf (numerator denominator : Nat) : Int :=
  if denominator ≤ numerator then
    (Nat.toDigits 10 (numerator / denominator)).length - 1
  else -((Nat.toDigits 10 ((denominator - 1) / numerator)).length : Int)

/-- The interval of numbers that round to a double, in quarters of its last place.  The gap
below a power of two is half as wide as the gap above it. -/
def quarters (value : Double) : Nat × Nat :=
  let below := if value.significand = leastNormal ∧ leastExponent < value.exponent then 1 else 2
  (4 * value.significand - below, 4 * value.significand + 2)

def readsBack (value : Double) (decimal : Decimal) : Bool :=
  let (low, high) := value.quarters
  let quarter := value.exponent - 2
  let written :=
    decimal.digits * Nat.pow 10 decimal.scale.toNat * Nat.pow 2 (-quarter).toNat
  let unit := Nat.pow 2 quarter.toNat * Nat.pow 10 (-decimal.scale).toNat
  if value.significand % 2 = 0 then low * unit ≤ written && written ≤ high * unit
  else low * unit < written && written < high * unit

/-- The neighbour of a double on the grid of a power of ten that reads back to it, the
nearer one where both do. -/
def onGrid? (tie : Tie) (value : Double) (scale : Int) : Option Decimal :=
  let numerator := value.ratio.1 * Nat.pow 10 (-scale).toNat
  let denominator := value.ratio.2 * Nat.pow 10 scale.toNat
  let below := numerator / denominator
  let lower : Decimal := ⟨below, scale⟩
  let upper : Decimal := ⟨below + 1, scale⟩
  match value.readsBack lower, value.readsBack upper with
  | false, false => none
  | true, false => some lower
  | false, true => some upper
  | true, true =>
      let twice := 2 * (numerator % denominator)
      if twice < denominator then some lower
      else if denominator < twice then some upper
      else match tie with
        | .even => some (if below % 2 = 0 then lower else upper)
        | .away => some upper

/-- The shortest decimal of the magnitude of a double that is not zero.  Seventeen digits
always suffice, so the last alternative is not taken. -/
def shortest (tie : Tie) (value : Double) : Decimal :=
  let decade := decadeOf value.ratio.1 value.ratio.2
  match (List.range 17).findSome? fun (place : Nat) => value.onGrid? tie (decade - place) with
  | some decimal => decimal
  | none => ⟨value.significand, 0⟩

example : (Double.mk false 1 (-1074)).shortest .even = ⟨5, -324⟩ := by decide +kernel
example : (Double.mk false leastNormal (-77)).shortest .even = ⟨29802322387695312, -24⟩ := by
  decide +kernel
example : (Double.mk false leastNormal (-77)).shortest .away = ⟨29802322387695313, -24⟩ := by
  decide +kernel

end ListQuery.Double
