import TableQuery.Binary64
import TableQuery.Decimal

/-!
# Shortest digits

The text of a double precision number has the fewest digits that read back as the same number. A
decimal reads back if it lies in the interval of reals that round to the number. On the grid of
decimals with a given number of digits only the two neighbours of the number have to be tried, and
of two that read back the nearer one is taken, the upper one if both are as near.
-/

namespace TableQuery
namespace Binary64

structure Ratio where
  num : Nat
  den : Nat
deriving Repr

namespace Ratio

def ofBinary (units : Nat) (exponent : Int) : Ratio :=
  if 0 ≤ exponent then ⟨units * Nat.pow 2 exponent.toNat, 1⟩
  else ⟨units, Nat.pow 2 (-exponent).toNat⟩

def ofDecimal (units : Nat) (exponent : Int) : Ratio :=
  if 0 ≤ exponent then ⟨units * Nat.pow 10 exponent.toNat, 1⟩
  else ⟨units, Nat.pow 10 (-exponent).toNat⟩

def lt (a b : Ratio) : Bool :=
  decide (a.num * b.den < b.num * a.den)

def unitsOfTen (a : Ratio) (exponent : Int) : Nat :=
  if 0 ≤ exponent then a.num / (a.den * Nat.pow 10 exponent.toNat)
  else a.num * Nat.pow 10 (-exponent).toNat / a.den

/-- More places than any double precision number has zeros behind its point. -/
def places : Nat := 340

def leading (a : Ratio) : Int :=
  (Nat.toDigits 10 (a.unitsOfTen (-places))).length - 1 - places

end Ratio

structure Interval where
  low : Ratio
  value : Ratio
  high : Ratio
  closed : Bool
deriving Repr

namespace Interval

/-- The interval of a significand and an exponent. It reaches halfway to both neighbours. Below a
power of two the lower neighbour is half as far away. The ends belong to it if the significand is
even. -/
def ofParts (significand : Nat) (exponent : Int) : Interval where
  low :=
    if significand = hidden then .ofBinary (4 * significand - 1) (exponent - 2)
    else .ofBinary (2 * significand - 1) (exponent - 1)
  value := .ofBinary significand exponent
  high := .ofBinary (2 * significand + 1) (exponent - 1)
  closed := significand % 2 = 0

def has (interval : Interval) (a : Ratio) : Bool :=
  if interval.closed then !a.lt interval.low && !interval.high.lt a
  else interval.low.lt a && a.lt interval.high

end Interval

def onGrid? (interval : Interval) (exponent : Int) : Option (Nat × Int) :=
  let below := interval.value.unitsOfTen exponent
  let above := below + 1
  let middle : Ratio := .ofDecimal (10 * below + 5) (exponent - 1)
  match interval.has (.ofDecimal below exponent), interval.has (.ofDecimal above exponent) with
  | true, true => some (if interval.value.lt middle then below else above, exponent)
  | true, false => some (below, exponent)
  | false, true => some (above, exponent)
  | false, false => none

def firstGrid (interval : Interval) (exponent : Int) : Nat → Nat × Int
  | 0 => (interval.value.unitsOfTen exponent, exponent)
  | finer + 1 =>
    match onGrid? interval exponent with
    | some found => found
    | none => firstGrid interval (exponent - 1) finer

/-- The digits and the power of ten of the shortest decimal that reads back. Seventeen digits are
always enough. -/
def shortest (significand : Nat) (exponent : Int) : Nat × Int :=
  let interval := Interval.ofParts significand exponent
  firstGrid interval interval.value.leading 17

def plainText (digits : Nat) (exponent : Int) : List Char :=
  if 0 ≤ exponent then Nat.toDigits 10 (digits * Nat.pow 10 exponent.toNat)
  else
    let (kept, scale) := Decimal.dropZeros digits (-exponent).toNat
    Decimal.magnitudeText kept.natAbs scale

/-- A number in plain notation with the fewest digits that read back. Zero keeps its sign. -/
def text (x : Binary64) : String :=
  let signed (negative : Bool) (cs : List Char) : String :=
    String.ofList (if negative then '-' :: cs else cs)
  match x.view with
  | .nan => "NaN"
  | .infinite negative => signed negative "inf".toList
  | .finite negative 0 _ => signed negative ['0']
  | .finite negative significand exponent =>
    let (digits, power) := shortest significand exponent
    signed negative (plainText digits power)

end Binary64

end TableQuery
