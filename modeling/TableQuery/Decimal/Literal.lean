import TableQuery.Decimal

/-!
# Decimal literals

A literal is an optional sign, digits with at most one point among or around them, and an optional
exponent. It is read exactly or not at all: a literal whose value does not fit a decimal without
rounding is refused.
-/

namespace TableQuery
namespace Decimal

structure Literal where
  negative : Bool
  whole : List Char
  fraction : List Char
  exponent : Int
deriving DecidableEq, Repr

def digitValue (c : Char) : Nat :=
  c.toNat - '0'.toNat

def digitsValue (digits : List Char) : Nat :=
  digits.foldl (fun value c => 10 * value + digitValue c) 0

namespace Literal

/-!
## Form

A literal is cut from the front: a sign, the digits before the point and behind it, and the
exponent, which goes on to the end. Without an exponent mark the exponent is zero.
-/

def sign : List Char → Bool × List Char
  | '-' :: rest => (true, rest)
  | '+' :: rest => (false, rest)
  | cs => (false, cs)

def afterPoint : List Char → List Char × List Char
  | '.' :: rest => (rest.takeWhile Char.isDigit, rest.dropWhile Char.isDigit)
  | cs => ([], cs)

def signedNumber? (cs : List Char) : Option Int :=
  let (negative, digits) := sign cs
  if digits.isEmpty || !digits.all Char.isDigit then none
  else if negative then some (-digitsValue digits)
  else some (digitsValue digits)

def exponent? : List Char → Option Int
  | [] => some 0
  | c :: rest => if c = 'e' ∨ c = 'E' then signedNumber? rest else none

def ofChars? (cs : List Char) : Option Literal :=
  let (negative, unsigned) := sign cs
  let whole := unsigned.takeWhile Char.isDigit
  let (fraction, rest) := afterPoint (unsigned.dropWhile Char.isDigit)
  if whole.isEmpty && fraction.isEmpty then none
  else (exponent? rest).map fun exponent => ⟨negative, whole, fraction, exponent⟩

/-!
## Value

The digits without their point are a number, to be divided by the power of ten that the scale says.
Zeros at the end can go as long as there are more than 38 digits or more than 28 places.
-/

def maxDigits : Nat := 38

/-- Drops zeros from the end of digits, which are given last first, while there are too many digits
or too many places. -/
def dropZeros : List Char → Int → List Char × Int
  | [], scale => ([], scale)
  | c :: rest, scale =>
    if (maxDigits < rest.length + 1 ∨ (maxScale : Int) < scale) ∧ c = '0' then
      dropZeros rest (scale - 1)
    else (c :: rest, scale)

/-- The decimal with the value of digits at a scale. A negative scale appends zeros, at most as many
as there are digits in the largest literal. -/
def decimal? (negative : Bool) (digits : List Char) (scale : Int) : Option Decimal :=
  let magnitude := digitsValue digits
  let signed (n : Nat) : Int := if negative then -n else n
  if maxDigits < digits.length ∨ (maxScale : Int) < scale then none
  else if 0 ≤ scale then ofParts? (signed magnitude) scale.toNat
  else if scale < -maxDigits then none
  else ofParts? (signed (magnitude * Nat.pow 10 (-scale).toNat)) 0

def value? (literal : Literal) : Option Decimal :=
  let digits := (literal.whole ++ literal.fraction).dropWhile (· = '0')
  let scale := (literal.fraction.length : Int) - literal.exponent
  let (kept, scale) := dropZeros digits.reverse scale
  decimal? literal.negative kept.reverse scale

end Literal

def ofChars? (cs : List Char) : Option Decimal :=
  (Literal.ofChars? cs).bind Literal.value?

end Decimal

end TableQuery
