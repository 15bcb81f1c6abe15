import Mathlib.Algebra.Order.Ring.Nat
import TableQuery.Proofs.Decimal.PlainNotation

/-!
# Reduction

Before a literal becomes a decimal, its digits lose all zeros in front and, if they or the places are
too many, zeros at the end. What is left is the same number at a smaller scale. This module says how
far the reduction goes, and which digits and scales become a decimal after it.
-/

namespace TableQuery
namespace Decimal

/-!
## Digits

Digits in front count by the power of ten of the digits behind them. So a number is large if its
first digit is not zero, and it is no multiple of ten if its last digit is not zero.
-/

theorem digitsValue_append (front back : List Char) :
    digitsValue (front ++ back) = digitsValue front * 10 ^ back.length + digitsValue back := by
  simp only [digitsValue_eq_ofDigitChars]
  rw [Nat.ofDigitChars_append, Nat.ofDigitChars_eq_ofDigitChars_zero, Nat.mul_comm]

theorem digitsValue_append_zeros (digits : List Char) (k : Nat) :
    digitsValue (digits ++ List.replicate k '0') = digitsValue digits * 10 ^ k := by
  simp only [digitsValue_eq_ofDigitChars]
  rw [Nat.ofDigitChars_append, Nat.ofDigitChars_replicate_zero, Nat.mul_comm]

theorem digitsValue_singleton (c : Char) : digitsValue [c] = digitValue c := by
  simp [digitsValue]

theorem digitValue_bounds {c : Char} (hdigit : c.isDigit = true) (hzero : c ≠ '0') :
    1 ≤ digitValue c ∧ digitValue c ≤ 9 := by
  have hbounds : 48 ≤ c.toNat ∧ c.toNat ≤ 57 := by
    simpa [Char.isDigit, UInt32.le_iff_toNat_le] using hdigit
  have hne : c.toNat ≠ 48 := fun h => hzero (Char.toNat_inj.mp h)
  have hzeroNat : '0'.toNat = 48 := rfl
  unfold digitValue
  omega

theorem pow_length_le {digits : List Char} (hdigits : ∀ c ∈ digits, c.isDigit = true)
    (hhead : ∀ c ∈ digits.head?, c ≠ '0') (hsome : digits ≠ []) :
    10 ^ digits.length ≤ 10 * digitsValue digits := by
  rcases List.exists_cons_of_ne_nil hsome with ⟨c, rest, rfl⟩
  have hfirst := digitValue_bounds (hdigits c (by simp)) (hhead c (by simp))
  have hsplit := digitsValue_append [c] rest
  rw [List.singleton_append, digitsValue_singleton] at hsplit
  have hpow : 10 ^ rest.length ≤ digitValue c * 10 ^ rest.length :=
    Nat.le_mul_of_pos_left _ hfirst.1
  rw [List.length_cons, Nat.pow_succ]
  omega

theorem not_dvd_digitsValue_reverse {last : List Char} (hdigits : ∀ c ∈ last, c.isDigit = true)
    (hlast : last.head? ≠ some '0') (hsome : last ≠ []) : ¬ 10 ∣ digitsValue last.reverse := by
  rcases List.exists_cons_of_ne_nil hsome with ⟨c, rest, rfl⟩
  have hbounds := digitValue_bounds (hdigits c (by simp)) fun hc => hlast (congrArg some hc)
  have hsplit := digitsValue_append rest.reverse [c]
  rw [digitsValue_singleton, List.length_singleton] at hsplit
  rw [List.reverse_cons]
  omega

namespace Literal

/-!
## Zeros at the end

Dropping zeros stops where the digits and the places are few enough, or where no zero is left. It
does not go on longer than it has to.
-/

/-- What is left of digits, which are given last first, and of a scale when `k` zeros are dropped. -/
structure Trimmed (digits : List Char) (scale : Int) (k : Nat) (kept : List Char) (left : Int) :
    Prop where
  digits_eq : digits = List.replicate k '0' ++ kept
  left_eq : left = scale - k
  needed : k = 0 ∨ maxDigits ≤ kept.length ∨ (maxScale : Int) ≤ left
  stopped : kept.length ≤ maxDigits ∧ left ≤ maxScale ∨ kept.head? ≠ some '0'

theorem Trimmed.keep {c : Char} {rest : List Char} {scale : Int}
    (h : ¬ ((maxDigits < rest.length + 1 ∨ (maxScale : Int) < scale) ∧ c = '0')) :
    Trimmed (c :: rest) scale 0 (c :: rest) scale := by
  refine ⟨rfl, by omega, Or.inl rfl, ?_⟩
  by_cases hzero : c = '0'
  · have hfew : ¬ (maxDigits < rest.length + 1 ∨ (maxScale : Int) < scale) :=
      fun hmany => h ⟨hmany, hzero⟩
    refine Or.inl ?_
    rw [List.length_cons]
    omega
  · exact Or.inr fun hhead => hzero (Option.some.inj hhead)

theorem Trimmed.drop {rest kept : List Char} {scale left : Int} {k : Nat}
    (hmany : maxDigits < rest.length + 1 ∨ (maxScale : Int) < scale)
    (h : Trimmed rest (scale - 1) k kept left) :
    Trimmed ('0' :: rest) scale (k + 1) kept left := by
  have hleft := h.left_eq
  refine ⟨?_, by omega, ?_, h.stopped⟩
  · rw [h.digits_eq]
    rfl
  · rcases h.needed with rfl | hneeded
    -- This zero is the last one to go: it was too many, and without it nothing else is.
    · have hkept := h.digits_eq
      rw [List.replicate_zero, List.nil_append] at hkept
      rw [← hkept]
      omega
    · exact Or.inr hneeded

theorem exists_trimmed (digits : List Char) (scale : Int) :
    ∃ k, Trimmed digits scale k (dropZeros digits scale).1 (dropZeros digits scale).2 := by
  induction digits generalizing scale with
  | nil => exact ⟨0, rfl, by simp [dropZeros], Or.inl rfl, Or.inr (by simp [dropZeros])⟩
  | cons c rest ih =>
      by_cases hdrop : (maxDigits < rest.length + 1 ∨ (maxScale : Int) < scale) ∧ c = '0'
      · rcases ih (scale - 1) with ⟨k, htrimmed⟩
        simp only [dropZeros, hdrop, and_self, if_true]
        exact ⟨k + 1, htrimmed.drop hdrop.1⟩
      · simp only [dropZeros, hdrop, if_false]
        exact ⟨0, .keep hdrop⟩

/-!
## Reduced literals

A literal is its digits without the point, divided by the power of ten of its scale. It is held at
this scale, or at the nearest scale of a decimal.
-/

def significand (l : Literal) : Nat :=
  digitsValue (l.whole ++ l.fraction)

def scale (l : Literal) : Int :=
  (l.fraction.length : Int) - l.exponent

/-- The scale of a decimal that is nearest to the scale of a literal. -/
def heldScale (l : Literal) : Nat :=
  (min l.scale maxScale).toNat

def stripped (l : Literal) : List Char :=
  (l.whole ++ l.fraction).dropWhile (· = '0')

theorem head?_stripped (l : Literal) : ∀ c ∈ l.stripped.head?, c ≠ '0' := by
  intro c hc
  simpa using Text.head?_dropWhile (· = '0') (l.whole ++ l.fraction) c hc

/-- The digits and the scale that a literal comes to, without zeros in front and without `k` zeros at
the end. -/
structure Reduced (l : Literal) (k : Nat) (kept : List Char) (left : Int) : Prop where
  value?_eq : l.value? = decimal? l.negative kept left
  significand_eq : l.significand = digitsValue kept * 10 ^ k
  left_eq : left = l.scale - k
  needed : k = 0 ∨ maxDigits ≤ kept.length ∨ (maxScale : Int) ≤ left
  stopped : kept.length ≤ maxDigits ∧ left ≤ maxScale ∨ kept = [] ∨ ¬ 10 ∣ digitsValue kept
  leads : kept ≠ [] → 10 ^ kept.length ≤ 10 * digitsValue kept
  zero : kept = [] → k = 0

theorem Trimmed.reduced {l : Literal} (hdigits : ∀ c ∈ l.whole ++ l.fraction, c.isDigit = true)
    {k : Nat} {last : List Char} {left : Int} (h : Trimmed l.stripped.reverse l.scale k last left)
    (hvalue : l.value? = decimal? l.negative last.reverse left) : l.Reduced k last.reverse left := by
  have hsplit : l.stripped = last.reverse ++ List.replicate k '0' := by
    rw [← List.reverse_reverse l.stripped, h.digits_eq, List.reverse_append, List.reverse_replicate]
  have hkept : ∀ c ∈ last.reverse, c.isDigit = true := by
    intro c hc
    have hstripped : c ∈ l.stripped := hsplit ▸ List.mem_append_left _ hc
    exact hdigits c ((List.dropWhile_suffix _).mem hstripped)
  refine ⟨hvalue, ?_, h.left_eq, ?_, ?_, ?_, ?_⟩
  · rw [← digitsValue_append_zeros, ← hsplit, stripped, digitsValue_dropWhile_zero]
    rfl
  · rw [List.length_reverse]
    exact h.needed
  · rw [List.length_reverse]
    rcases h.stopped with hfew | hlast
    · exact Or.inl hfew
    · refine Or.inr ?_
      by_cases hnil : last = []
      · exact Or.inl (by rw [hnil]; rfl)
      · exact Or.inr (not_dvd_digitsValue_reverse (fun c hc => hkept c (by simpa using hc)) hlast hnil)
  · intro hsome
    refine pow_length_le hkept (fun c hc => l.head?_stripped c ?_) hsome
    rw [hsplit, List.head?_append, hc]
    rfl
  · intro hnil
    cases k with
    | zero => rfl
    | succ k =>
        rw [hnil] at hsplit
        exact absurd rfl (l.head?_stripped '0' (by rw [hsplit]; rfl))

theorem exists_reduced {l : Literal} (hdigits : ∀ c ∈ l.whole ++ l.fraction, c.isDigit = true) :
    ∃ k kept left, l.Reduced k kept left := by
  rcases exists_trimmed l.stripped.reverse l.scale with ⟨k, htrimmed⟩
  exact ⟨k, _, _, htrimmed.reduced hdigits rfl⟩

/-!
## From digits to a decimal

The number of digits is limited apart from the magnitude of a decimal, and so is the number of zeros
that a negative scale appends. Unless all digits are zeros, the magnitude is the stronger limit.
-/

theorem natAbs_signed (negative : Bool) (n : Nat) : (signed negative n).natAbs = n := by
  unfold signed
  split <;> omega

theorem limits_of_decimal? {negative : Bool} {digits : List Char} {scale : Int} {d : Decimal}
    (h : decimal? negative digits scale = some d) :
    digits.length ≤ maxDigits ∧ -(maxDigits : Int) ≤ scale ∧ scale ≤ maxScale := by
  simp only [decimal?] at h
  split at h
  · cases h
  · split at h
    · omega
    · split at h
      · cases h
      · omega

theorem decimal?_of_limits (negative : Bool) {digits : List Char} {scale : Int}
    (hdigits : digits.length ≤ maxDigits) (hlow : -(maxDigits : Int) ≤ scale)
    (hhigh : scale ≤ maxScale) :
    decimal? negative digits scale =
      ofParts? (signed negative (digitsValue digits * 10 ^ (-scale).toNat)) scale.toNat := by
  have hfew : ¬ (maxDigits < digits.length ∨ (maxScale : Int) < scale) := by omega
  by_cases hplaces : 0 ≤ scale
  · have hpower : (-scale).toNat = 0 := by omega
    simp only [decimal?, if_neg hfew, if_pos hplaces, hpower, Nat.pow_zero, Nat.mul_one]
    rfl
  · have hnone : scale.toNat = 0 := by omega
    simp only [decimal?, if_neg hfew, if_neg hplaces, if_neg (Int.not_lt.mpr hlow), hnone]
    rfl

namespace Reduced

variable {l : Literal} {k : Nat} {kept : List Char} {left : Int}

theorem digitsValue_pos (h : l.Reduced k kept left) (hsome : kept ≠ []) : 0 < digitsValue kept := by
  have hleads := h.leads hsome
  have hpos : 0 < 10 ^ kept.length := Nat.pow_pos (by decide)
  omega

theorem eq_nil_iff (h : l.Reduced k kept left) : kept = [] ↔ l.significand = 0 := by
  rw [h.significand_eq]
  constructor
  · rintro rfl
    exact Nat.zero_mul _
  · intro hzero
    by_cases hsome : kept = []
    · exact hsome
    · have hpos := Nat.mul_pos (h.digitsValue_pos hsome) (Nat.pow_pos (by decide) : 0 < 10 ^ k)
      omega

theorem length_lt (h : l.Reduced k kept left) {e : Nat}
    (hfits : digitsValue kept * 10 ^ e ≤ maxMagnitude) : kept.length < maxDigits := by
  by_cases hsome : kept = []
  · rw [hsome]
    decide
  · have hleads := h.leads hsome
    have hdigits : digitsValue kept ≤ digitsValue kept * 10 ^ e :=
      Nat.le_mul_of_pos_right _ (Nat.pow_pos (by decide))
    have hlimit : 10 * maxMagnitude < 10 ^ maxDigits := by decide
    have hsmall : 10 ^ kept.length < 10 ^ maxDigits := by omega
    exact (Nat.pow_lt_pow_iff_right (by decide)).mp hsmall

theorem neg_maxDigits_le (h : l.Reduced k kept left) (hsome : kept ≠ [])
    (hfits : digitsValue kept * 10 ^ (-left).toNat ≤ maxMagnitude) : -(maxDigits : Int) ≤ left := by
  have hpow : 10 ^ (-left).toNat ≤ digitsValue kept * 10 ^ (-left).toNat :=
    Nat.le_mul_of_pos_left _ (h.digitsValue_pos hsome)
  have hlimit : maxMagnitude < 10 ^ maxDigits := by decide
  have hsmall : 10 ^ (-left).toNat < 10 ^ maxDigits := by omega
  have hlt : (-left).toNat < maxDigits := (Nat.pow_lt_pow_iff_right (by decide)).mp hsmall
  omega

end Reduced

end Literal

end Decimal
end TableQuery
