import TableQuery.Binary64.Shortest
import TableQuery.Decimal.Literal

/-!
# Reading double precision numbers

A decimal literal is read as the double precision number nearest to it. Of two that are as near, the
one with the even significand is taken.
-/

namespace TableQuery
namespace Binary64

namespace Ratio

def floorLog2 (a : Ratio) : Int :=
  let estimate := (a.num.log2 : Int) - a.den.log2
  if a.lt (.ofBinary 1 estimate) then estimate - 1 else estimate

def nearestUnits (a : Ratio) (exponent : Int) : Nat :=
  let num := if 0 ≤ exponent then a.num else a.num * Nat.pow 2 (-exponent).toNat
  let den := if 0 ≤ exponent then a.den * Nat.pow 2 exponent.toNat else a.den
  let below := num / den
  let twice := 2 * (num % den)
  if den < twice ∨ (twice = den ∧ below % 2 = 1) then below + 1 else below

end Ratio

def nearest (negative : Bool) (a : Ratio) : Binary64 :=
  let exponent := max (a.floorLog2 - 52) minExponent
  let units := a.nearestUnits exponent
  let (units, exponent) := if units = 2 * hidden then (hidden, exponent + 1) else (units, exponent)
  if maxExponent < exponent then infinity negative else finite negative units exponent

/-- The number nearest to a decimal literal. Literals beyond the range of all numbers are not
computed: their digits alone say that they are infinite or zero. -/
def ofLiteral (literal : Decimal.Literal) : Binary64 :=
  let digits := (literal.whole ++ literal.fraction).dropWhile (· = '0')
  let exponent := literal.exponent - literal.fraction.length
  let leading := digits.length + exponent
  if digits.isEmpty || leading < -330 then finite literal.negative 0 minExponent
  else if 310 < leading then infinity literal.negative
  else nearest literal.negative (.ofDecimal (Decimal.digitsValue digits) exponent)

def ofText? (text : String) : Option Binary64 :=
  match text.toLower with
  | "nan" | "+nan" | "-nan" => some nan
  | "inf" | "+inf" | "infinity" | "+infinity" => some (infinity false)
  | "-inf" | "-infinity" => some (infinity true)
  | _ => (Decimal.Literal.ofChars? text.toList).map ofLiteral

end Binary64

end TableQuery
