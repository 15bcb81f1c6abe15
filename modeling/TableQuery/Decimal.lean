/-!
# Decimals

A decimal is a sign, a whole magnitude and the number of its digits that stand after the point. The
scale is part of the number as written: `1.5` and `1.50` are two decimals of one value. So is the
sign: there is a negative zero, although nothing that is read gives one. The magnitude has at most
96 bits and the scale is at most 28.
-/

namespace TableQuery

structure Decimal where
  negative : Bool
  magnitude : Nat
  scale : Nat
  magnitude_le : magnitude ≤ 79228162514264337593543950335
  scale_le : scale ≤ 28
deriving DecidableEq, Repr

namespace Decimal

def maxMagnitude : Nat := 79228162514264337593543950335

def maxScale : Nat := 28

def coefficient (d : Decimal) : Int :=
  if d.negative then -d.magnitude else d.magnitude

def ofParts? (coefficient : Int) (scale : Nat) : Option Decimal :=
  if h : coefficient.natAbs ≤ maxMagnitude ∧ scale ≤ maxScale then
    some ⟨coefficient < 0, coefficient.natAbs, scale, h.1, h.2⟩
  else
    none

theorem natAbs_toInt_le (n : Int64) : n.toInt.natAbs ≤ maxMagnitude := by
  have hlo := n.minValue_le_toInt
  have hhi := n.toInt_le
  simp only [maxMagnitude]
  simp [Int64.minValue, Int64.maxValue] at hlo hhi
  omega

def ofInt64 (n : Int64) : Decimal :=
  ⟨n.toInt < 0, n.toInt.natAbs, 0, natAbs_toInt_le n, by decide⟩

theorem toNat_le (n : UInt64) : n.toNat ≤ maxMagnitude := by
  have h := n.toNat_lt
  simp only [maxMagnitude]
  omega

def ofUInt64 (n : UInt64) : Decimal :=
  ⟨false, n.toNat, 0, toNat_le n, by decide⟩

/-!
## Text

Decimals are written in plain notation: every place of the scale is there, at least one digit stands
before the point, and there is never an exponent.
-/

def paddedDigits (least n : Nat) : List Char :=
  let digits := Nat.toDigits 10 n
  List.replicate (least - digits.length) '0' ++ digits

def magnitudeText (magnitude scale : Nat) : List Char :=
  let digits := paddedDigits (scale + 1) magnitude
  let whole := digits.length - scale
  if scale = 0 then digits
  else digits.take whole ++ '.' :: digits.drop whole

def chars (d : Decimal) : List Char :=
  if d.negative then '-' :: magnitudeText d.magnitude d.scale
  else magnitudeText d.magnitude d.scale

def text (d : Decimal) : String :=
  String.ofList d.chars

/-!
## Whole numbers

A decimal without a fraction is a whole number, whatever zeros it is written with.
-/

def whole? (d : Decimal) : Option Int :=
  if d.coefficient % (Nat.pow 10 d.scale : Nat) = 0 then
    some (d.coefficient / (Nat.pow 10 d.scale : Nat))
  else none

/-!
## Normal form

The normal form of a decimal has the same value and no zero at the end of its fraction.
-/

def dropZeros (coefficient : Int) : Nat → Int × Nat
  | 0 => (coefficient, 0)
  | scale + 1 =>
    if coefficient % 10 = 0 then dropZeros (coefficient / 10) scale
    else (coefficient, scale + 1)

theorem natAbs_coefficient (d : Decimal) : d.coefficient.natAbs = d.magnitude := by
  unfold coefficient
  split <;> omega

theorem dropZeros_bounds (coefficient : Int) (scale : Nat) :
    (dropZeros coefficient scale).1.natAbs ≤ coefficient.natAbs ∧
      (dropZeros coefficient scale).2 ≤ scale := by
  induction scale generalizing coefficient with
  | zero => simp [dropZeros]
  | succ scale ih =>
      by_cases h : coefficient % 10 = 0
      · simp only [dropZeros, h, if_true]
        have hstep := ih (coefficient / 10)
        exact ⟨by omega, by omega⟩
      · simp [dropZeros, h]

theorem natAbs_dropZeros_le (d : Decimal) :
    (dropZeros d.coefficient d.scale).1.natAbs ≤ maxMagnitude := by
  have hbounds := dropZeros_bounds d.coefficient d.scale
  rw [natAbs_coefficient] at hbounds
  exact Nat.le_trans hbounds.1 d.magnitude_le

/-- The decimal of the same value without zeros at the end of its fraction. A zero has no sign. -/
def normalize (d : Decimal) : Decimal :=
  let parts := dropZeros d.coefficient d.scale
  ⟨parts.1 < 0, parts.1.natAbs, parts.2, natAbs_dropZeros_le d,
    Nat.le_trans (dropZeros_bounds d.coefficient d.scale).2 d.scale_le⟩

end Decimal

end TableQuery
