import Mathlib.Tactic.NormNum
import TableQuery.Plan.Coercion
import TableQuery.Proofs.Decimal.Exactness
import TableQuery.Sql.OfPlan

/-!
# Normal form

A number has one decimal without zeros at the end of its fraction. A parameter in scientific notation
becomes this decimal, however the number is written: where the point stands, which exponent makes up
for it and how many zeros are around the digits does not count.
-/

namespace TableQuery
namespace Decimal

/-- A decimal without a zero at the end of its fraction. A zero has no places and no sign. -/
structure IsNormal (d : Decimal) : Prop where
  sign : d.magnitude = 0 → d.negative = false
  places : d.scale ≠ 0 → ¬ 10 ∣ d.magnitude

/-!
## Dropping zeros

Dropping zeros changes the places and leaves the value. It stops at the first digit of the fraction
that is not zero, or where no fraction is left.
-/

theorem value_dropZeros (coefficient : Int) (scale : Nat) :
    ((dropZeros coefficient scale).1 : ℚ) / 10 ^ (dropZeros coefficient scale).2 =
      coefficient / 10 ^ scale := by
  induction scale generalizing coefficient with
  | zero => rfl
  | succ scale ih =>
      rw [dropZeros]
      split
      · next hzero =>
          have hten : (coefficient : ℚ) = (coefficient / 10 : Int) * 10 := by
            exact_mod_cast (Int.ediv_mul_cancel (Int.dvd_of_emod_eq_zero hzero)).symm
          rw [ih, hten, pow_succ, mul_div_mul_right _ _ (by norm_num)]
      · rfl

theorem not_dvd_dropZeros (coefficient : Int) (scale : Nat)
    (h : (dropZeros coefficient scale).2 ≠ 0) : ¬ (10 : Int) ∣ (dropZeros coefficient scale).1 := by
  induction scale generalizing coefficient with
  | zero => exact absurd rfl h
  | succ scale ih =>
      rw [dropZeros] at h ⊢
      split at h
      · next hzero =>
          rw [if_pos hzero]
          exact ih (coefficient / 10) h
      · next hdigit =>
          rw [if_neg hdigit]
          exact fun hdvd => hdigit (Int.emod_eq_zero_of_dvd hdvd)

theorem coefficient_normalize (d : Decimal) :
    d.normalize.coefficient = (dropZeros d.coefficient d.scale).1 := by
  rw [normalize, coefficient]
  simp only [decide_eq_true_eq]
  generalize (dropZeros d.coefficient d.scale).1 = c
  split <;> omega

theorem value_normalize (d : Decimal) : d.normalize.value = d.value := by
  rw [value, coefficient_normalize]
  exact value_dropZeros d.coefficient d.scale

theorem isNormal_normalize (d : Decimal) : d.normalize.IsNormal := by
  constructor
  · intro hzero
    have hcoefficient : (dropZeros d.coefficient d.scale).1 = 0 := Int.natAbs_eq_zero.mp hzero
    exact decide_eq_false (by omega)
  · intro hplaces hdvd
    exact not_dvd_dropZeros d.coefficient d.scale hplaces (Int.ofNat_dvd_left.mpr hdvd)

/-!
## Uniqueness

A normal form has as few places as its number can have. So two normal forms of one number have the
same places, and then the same magnitude.
-/

namespace IsNormal

variable {d e : Decimal}

theorem scale_eq_zero (h : d.IsNormal) (hzero : d.magnitude = 0) : d.scale = 0 := by
  by_contra hplaces
  exact h.places hplaces (hzero ▸ Nat.dvd_zero 10)

theorem scale_le (h : d.IsNormal) (hvalue : d.value = e.value) : d.scale ≤ e.scale := by
  by_contra hmore
  have hvalue := congrArg abs hvalue
  rw [abs_value, abs_value, ← zpow_natCast, ← zpow_natCast, eq_comm,
    div_ten_zpow_eq_iff (by omega)] at hvalue
  apply h.places (by omega)
  rw [← hvalue]
  exact Dvd.dvd.mul_left (dvd_pow_self 10 (by omega)) e.magnitude

theorem negative_eq (h : d.IsNormal) : d.negative = decide (d.coefficient < 0) := by
  have hsign := h.sign
  unfold coefficient
  cases hnegative : d.negative with
  | false => simp
  | true =>
      have hpositive : d.magnitude ≠ 0 := by
        intro hzero
        rw [hsign hzero] at hnegative
        cases hnegative
      simp [Nat.pos_of_ne_zero hpositive]

theorem eq_of_value_eq (hd : d.IsNormal) (he : e.IsNormal) (hvalue : d.value = e.value) : d = e := by
  have hscale : d.scale = e.scale :=
    Nat.le_antisymm (hd.scale_le hvalue) (he.scale_le hvalue.symm)
  have hcoefficient : d.coefficient = e.coefficient := by
    rw [value, value, hscale, div_left_inj' (by positivity)] at hvalue
    exact_mod_cast hvalue
  have hnegative : d.negative = e.negative := by
    rw [hd.negative_eq, he.negative_eq, hcoefficient]
  have hmagnitude : d.magnitude = e.magnitude := by
    rw [← natAbs_coefficient, hcoefficient, natAbs_coefficient]
  obtain ⟨negative, magnitude, scale, _, _⟩ := d
  obtain ⟨negative', magnitude', scale', _, _⟩ := e
  cases hnegative
  cases hmagnitude
  cases hscale
  rfl

end IsNormal

end Decimal

/-!
## Parameters

A value with an exponent mark that is read as a number is a numeral, and it becomes the normal form
of what the numeral writes.
-/

open Decimal (Numeral)

theorem Scalar.ofText_numeral {text : String} {n : Numeral} (hmark : hasExponentMark text = true)
    (hread : (Decimal.ofChars? text.toList).isSome = true) (htext : n.chars = text.toList) :
    ∃ d : Decimal, Scalar.ofText text = .number d ∧ d.IsNormal ∧ d.value = n.value := by
  rcases Option.isSome_iff_exists.mp hread with ⟨d, hd⟩
  refine ⟨d.normalize, ?_, d.isNormal_normalize, ?_⟩
  · simp only [Scalar.ofText, ofReading, hd, hmark, if_true]
  · rw [← htext, Decimal.ofChars?_numeral] at hd
    rw [d.value_normalize, (Numeral.of_value? hd).1]

theorem Decimal.exists_numeral_of_isSome {cs : List Char} (h : (ofChars? cs).isSome = true) :
    ∃ n : Numeral, n.chars = cs := by
  rcases Option.isSome_iff_exists.mp h with ⟨d, hd⟩
  rcases Option.bind_eq_some_iff.mp hd with ⟨l, hl, _⟩
  rcases Literal.exists_numeral hl with ⟨n, hchars, _⟩
  exact ⟨n, hchars⟩

/-- Two parameters in scientific notation that are read are numerals. If they write one number, they
become the same decimal, with the same magnitude and the same places. It is the number that is
written, its fraction does not end with a zero, and a zero has no places. So the two are written in a
statement with the same text. -/
theorem Scalar.ofText_scientific {text text' : String} (hmark : hasExponentMark text = true)
    (hmark' : hasExponentMark text' = true)
    (hread : (Decimal.ofChars? text.toList).isSome = true)
    (hread' : (Decimal.ofChars? text'.toList).isSome = true) :
    (∃ n : Numeral, n.chars = text.toList) ∧ (∃ n : Numeral, n.chars = text'.toList) ∧
    ∀ n n' : Numeral, n.chars = text.toList → n'.chars = text'.toList → n.value = n'.value →
      ∃ d : Decimal, Scalar.ofText text = .number d ∧ Scalar.ofText text' = .number d ∧
        d.value = n.value ∧ d.value = n'.value ∧
        (d.scale ≠ 0 → ¬ 10 ∣ d.magnitude) ∧
        (n.value = 0 → d.scale = 0 ∧ d.magnitude = 0 ∧ d.negative = false) ∧
        (Sql.scalarExpr (Scalar.ofText text)).render = d.text ∧
        (Sql.scalarExpr (Scalar.ofText text')).render = d.text := by
  refine ⟨Decimal.exists_numeral_of_isSome hread, Decimal.exists_numeral_of_isSome hread', ?_⟩
  intro n n' htext htext' hsame
  rcases ofText_numeral hmark hread htext with ⟨d, hd, hnormal, hvalue⟩
  rcases ofText_numeral hmark' hread' htext' with ⟨d', hd', hnormal', hvalue'⟩
  have heq : d' = d :=
    hnormal'.eq_of_value_eq hnormal (hvalue'.trans (hsame.symm.trans hvalue.symm))
  subst heq
  refine ⟨d', hd, hd', hvalue, hvalue', hnormal.places, ?_, ?_, ?_⟩
  · intro hzero
    have hmagnitude : d'.magnitude = 0 := by
      rw [← hvalue, ← abs_eq_zero, d'.abs_value, div_eq_zero_iff] at hzero
      rcases hzero with hmagnitude | hpower
      · exact_mod_cast hmagnitude
      · exact absurd hpower (by positivity)
    exact ⟨hnormal.scale_eq_zero hmagnitude, hmagnitude, hnormal.sign hmagnitude⟩
  · rw [hd]
    rfl
  · rw [hd']
    rfl

def paddedNumeral : Numeral where
  sign := .minus
  whole := ['0', '1', '2']
  fraction := some ['5', '0', '0']
  exponent := some ⟨'E', .minus, ['0', '2'], Or.inr rfl, List.all_eq_true.mp rfl,
    List.cons_ne_nil _ _⟩
  isDigit_of_mem_whole := List.all_eq_true.mp rfl
  isDigit_of_mem_fraction := List.all_eq_true.mp rfl
  digits_ne_nil := List.cons_ne_nil _ _

def shiftedNumeral : Numeral where
  sign := .minus
  whole := []
  fraction := some ['0', '1', '2', '5']
  exponent := some ⟨'E', .plus, ['1'], Or.inr rfl, List.all_eq_true.mp rfl,
    List.cons_ne_nil _ _⟩
  isDigit_of_mem_whole := List.all_eq_true.mp rfl
  isDigit_of_mem_fraction := List.all_eq_true.mp rfl
  digits_ne_nil := List.cons_ne_nil _ _

theorem Scalar.ofText_scientific_shifted :
    ∃ d : Decimal, Scalar.ofText "-012.500E-02" = .number d ∧
      Scalar.ofText "-.0125E+1" = .number d ∧ d.value = paddedNumeral.value ∧
      (Sql.scalarExpr (Scalar.ofText "-.0125E+1")).render = d.text := by
  have hpadded : paddedNumeral.value = -1 / 8 := by
    have hwhole : Nat.ofDigitChars 10 paddedNumeral.whole 0 = 12 := rfl
    have hplaces : Nat.ofDigitChars 10 paddedNumeral.places 0 = 500 := rfl
    have hlength : paddedNumeral.places.length = 3 := rfl
    have hpower : Numeral.power paddedNumeral.exponent = -2 := rfl
    rw [Numeral.value, hwhole, hplaces, hlength, hpower]
    norm_num [paddedNumeral, Decimal.SignMark.negative]
  have hshifted : shiftedNumeral.value = -1 / 8 := by
    have hwhole : Nat.ofDigitChars 10 shiftedNumeral.whole 0 = 0 := rfl
    have hplaces : Nat.ofDigitChars 10 shiftedNumeral.places 0 = 125 := rfl
    have hlength : shiftedNumeral.places.length = 4 := rfl
    have hpower : Numeral.power shiftedNumeral.exponent = 1 := rfl
    rw [Numeral.value, hwhole, hplaces, hlength, hpower]
    norm_num [shiftedNumeral, Decimal.SignMark.negative]
  have hmark : hasExponentMark "-012.500E-02" = true ∧ hasExponentMark "-.0125E+1" = true := by
    decide +kernel
  have hread : (Decimal.ofChars? "-012.500E-02".toList).isSome = true ∧
      (Decimal.ofChars? "-.0125E+1".toList).isSome = true := by
    decide +kernel
  have hchars : paddedNumeral.chars = "-012.500E-02".toList := by decide +kernel
  have hchars' : shiftedNumeral.chars = "-.0125E+1".toList := by decide +kernel
  rcases Scalar.ofText_scientific hmark.1 hmark.2 hread.1 hread.2 with ⟨_, _, hscientific⟩
  rcases hscientific _ _ hchars hchars' (hpadded.trans hshifted.symm) with
    ⟨d, htext, htext', hvalue, _, _, _, _, hrender⟩
  exact ⟨d, htext, htext', hvalue, hrender⟩

end TableQuery
