/-!
# Double precision numbers

A binary floating-point number of 64 bits: a sign, eleven bits of exponent and 52 bits of fraction.
The number is its bit pattern, so two numbers are the same exactly when their patterns are. They
agree when they have the same value.
-/

namespace TableQuery

structure Binary64 where
  bits : UInt64
deriving DecidableEq, Repr

namespace Binary64

inductive View where
  | nan
  | infinite (negative : Bool)
  | finite (negative : Bool) (significand : Nat) (exponent : Int)
deriving DecidableEq, Repr

def hidden : Nat := Nat.pow 2 52

def minExponent : Int := -1074

def maxExponent : Int := 971

def view (x : Binary64) : View :=
  let pattern := x.bits.toNat
  let negative := decide (Nat.pow 2 63 ≤ pattern)
  let exponent : Nat := pattern / Nat.pow 2 52 % Nat.pow 2 11
  let fraction := pattern % Nat.pow 2 52
  if exponent = 2047 then
    if fraction = 0 then .infinite negative else .nan
  else if exponent = 0 then .finite negative fraction minExponent
  else .finite negative (hidden + fraction) ((exponent : Int) - 1 + minExponent)

/-- Whether two numbers have the same value. A pattern that is no number agrees with nothing, not
even with itself, and the two zeros agree. -/
def agrees (x y : Binary64) : Bool :=
  match x.view, y.view with
  | .nan, _ => false
  | _, .nan => false
  | .finite _ 0 _, .finite _ 0 _ => true
  | _, _ => x = y

def pack (negative : Bool) (exponent fraction : Nat) : Binary64 :=
  ⟨.ofNat ((if negative then Nat.pow 2 63 else 0) + exponent * Nat.pow 2 52 + fraction)⟩

def nan : Binary64 := pack false 2047 (Nat.pow 2 51)

def infinity (negative : Bool) : Binary64 := pack negative 2047 0

/-- The finite number of a significand below `2 ^ 53` and an exponent. A significand without the
hidden bit has the least exponent. -/
def finite (negative : Bool) (significand : Nat) (exponent : Int) : Binary64 :=
  if significand < hidden then pack negative 0 significand
  else pack negative (exponent - minExponent + 1).toNat (significand - hidden)

end Binary64

end TableQuery
