import ListQuery.Double.Shortest

/-!
# Writing doubles

A layout says which way a tie between two shortest decimals goes, which decades are written
with an exponent, and what marks a whole number.  A value in a statement is written out in
full; a value in a document takes an exponent outside the decades from `-5` to `15` and
always shows that it is a double.
-/

namespace ListQuery.Double

structure Layout where
  tie : Tie
  /-- Whether a number whose leading digit stands for this power of ten has an exponent. -/
  takesExponent : Int → Bool
  wholeMark : List Char

/-- Values bound in statements and inlined into them. -/
def Layout.plain : Layout := ⟨.away, fun _ => false, []⟩

def Layout.document : Layout :=
  ⟨.even, fun decade => decade < -5 || 15 < decade, ['.', '0']⟩

/-- The digits of a decimal without the zeros at their end, and the power of ten of the
first of them. -/
def Decimal.leading (decimal : Decimal) : List Char × Int :=
  let digits := Nat.toDigits 10 decimal.digits
  ((digits.reverse.dropWhile (· = '0')).reverse, digits.length - 1 + decimal.scale)

def Layout.positional (layout : Layout) (digits : List Char) (decade : Int) : List Char :=
  let whole := (decade + 1).toNat
  if decade < 0 then
    ['0', '.'] ++ List.replicate (-decade - 1).toNat '0' ++ digits
  else if digits.length ≤ whole then
    digits ++ List.replicate (whole - digits.length) '0' ++ layout.wholeMark
  else digits.take whole ++ '.' :: digits.drop whole

def withExponent (digits : List Char) (decade : Int) : List Char :=
  let fraction := if digits.length ≤ 1 then [] else '.' :: digits.drop 1
  digits.take 1 ++ fraction ++ ['e', if decade < 0 then '-' else '+'] ++
    Nat.toDigits 10 decade.natAbs

def Layout.magnitude (layout : Layout) (value : Double) : List Char :=
  if value.isZero then '0' :: layout.wholeMark
  else
    let (digits, decade) := (value.shortest layout.tie).leading
    if layout.takesExponent decade then withExponent digits decade
    else layout.positional digits decade

def Layout.text (layout : Layout) (value : Double) : String :=
  String.ofList ((if value.negative then ['-'] else []) ++ layout.magnitude value)

example : ((ofDecimal? false 1 2).map Layout.plain.text) = some "100" := by decide +kernel
example : ((ofDecimal? false 1 (-7)).map Layout.plain.text) = some "0.0000001" := by
  decide +kernel
example : ((ofDecimal? false 15 19).map Layout.document.text) = some "1.5e+20" := by
  decide +kernel
example : ((ofDecimal? false 1 15).map Layout.document.text) = some "1000000000000000.0" := by
  decide +kernel
example : ((ofDecimal? false 1 (-5)).map Layout.document.text) = some "0.00001" := by
  decide +kernel
example : ((ofDecimal? true 15 (-11)).map Layout.document.text) = some "-1.5e-10" := by
  decide +kernel
example : Layout.document.text (zero true) = "-0.0" := by decide +kernel

end ListQuery.Double
