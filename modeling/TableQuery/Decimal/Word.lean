import TableQuery.Decimal.Literal

/-!
# Literals in words

The scale of a literal is kept in a signed word of 64 bits. A literal is refused if its exponent or
its first scale is no word. The steps after that are not guarded: each zero that is dropped lowers the
scale, and a scale below zero is negated. If the result is no word, wrapping arithmetic takes the word
that differs from it by a multiple of 2 to the 64th power, and checked arithmetic stops.
-/

namespace TableQuery

inductive Arithmetic where
  | wrapping
  | checked
deriving DecidableEq, Repr

inductive Overflow where
  | overflow
deriving DecidableEq, Repr

def word? (n : Int) : Option Int64 :=
  if Int64.minValue.toInt ≤ n ∧ n ≤ Int64.maxValue.toInt then some (.ofInt n) else none

def Arithmetic.word (arithmetic : Arithmetic) (result : Int) : Except Overflow Int64 :=
  match word? result, arithmetic with
  | some word, _ => .ok word
  | none, .wrapping => .ok (.ofInt result)
  | none, .checked => .error .overflow

namespace Decimal
namespace Literal

def scaleWord? (literal : Literal) : Option Int64 := do
  let exponent ← word? literal.exponent
  let places ← word? literal.fraction.length
  word? (places.toInt - exponent.toInt)

/-- Drops zeros from the end of digits, which are given last first, as `dropZeros` does. -/
def dropZerosIn (arithmetic : Arithmetic) :
    List Char → Int64 → Except Overflow (List Char × Int64)
  | [], scale => .ok ([], scale)
  | c :: rest, scale =>
    if (maxDigits < rest.length + 1 ∨ (maxScale : Int) < scale.toInt) ∧ c = '0' then do
      let lowered ← arithmetic.word (scale.toInt - 1)
      dropZerosIn arithmetic rest lowered
    else .ok (c :: rest, scale)

/-- The decimal with the value of digits at a scale. The scale is negated only if it is below zero and
the digits are few enough. -/
def decimalIn? (arithmetic : Arithmetic) (negative : Bool) (digits : List Char) (scale : Int64) :
    Except Overflow (Option Decimal) :=
  if digits.length ≤ maxDigits ∧ scale.toInt < 0 then do
    let zeros ← arithmetic.word (-scale.toInt)
    return if zeros.toInt < 0 then none else decimal? negative digits (-zeros.toInt)
  else .ok (decimal? negative digits scale.toInt)

def valueIn? (arithmetic : Arithmetic) (literal : Literal) : Except Overflow (Option Decimal) :=
  match literal.scaleWord? with
  | none => .ok none
  | some scale => do
    let digits := (literal.whole ++ literal.fraction).dropWhile (· = '0')
    let (kept, scale) ← dropZerosIn arithmetic digits.reverse scale
    decimalIn? arithmetic literal.negative kept.reverse scale

end Literal

def ofCharsIn? (arithmetic : Arithmetic) (cs : List Char) : Except Overflow (Option Decimal) :=
  match Literal.ofChars? cs with
  | none => .ok none
  | some literal => literal.valueIn? arithmetic

end Decimal

end TableQuery
