import Mathlib.Algebra.Order.Field.Power
import Mathlib.Algebra.Order.Field.Rat
import Mathlib.Tactic.FieldSimp
import Mathlib.Tactic.Positivity
import TableQuery.Proofs.Decimal.Reduction

/-!
# Exactness

Reading a numeral never rounds: the decimal that is read is the rational number that the numeral
writes. Which numerals are read is settled as well. A numeral has a scale, and its number has to be a
decimal at this scale, or at the nearest scale that decimals have.
-/

namespace TableQuery
namespace Decimal

def value (d : Decimal) : ℚ :=
  d.coefficient / 10 ^ d.scale

theorem abs_value (d : Decimal) : |d.value| = d.magnitude / 10 ^ d.scale := by
  have hpower : (0 : ℚ) < 10 ^ d.scale := by positivity
  rw [value, abs_div, abs_of_pos hpower, ← Int.cast_abs, Int.abs_eq_natAbs, natAbs_coefficient,
    Int.cast_natCast]

theorem value_ofInt64 (n : Int64) : (ofInt64 n).value = n.toInt := by
  have hcoefficient : (ofInt64 n).coefficient = n.toInt := by
    simp only [ofInt64, coefficient, decide_eq_true_eq]
    split <;> omega
  rw [value, hcoefficient]
  exact div_one _

/-!
## Powers of ten
-/

theorem ten_zpow_sub {s t : Int} (h : s ≤ t) :
    (10 : ℚ) ^ t = 10 ^ s * 10 ^ (t - s).toNat := by
  have hsum : t = s + ((t - s).toNat : Int) := by omega
  conv_lhs => rw [hsum]
  rw [zpow_add₀ (by norm_num), zpow_natCast]

theorem div_ten_zpow_eq_iff {a b : Nat} {s t : Int} (h : s ≤ t) :
    (a : ℚ) / 10 ^ s = b / 10 ^ t ↔ a * 10 ^ (t - s).toNat = b := by
  have hs : (10 : ℚ) ^ s ≠ 0 := by positivity
  rw [ten_zpow_sub h, div_eq_div_iff hs (by positivity), ← mul_assoc, mul_right_comm,
    mul_left_inj' hs]
  exact_mod_cast Iff.rfl

theorem ten_zpow_eq_div (s : Int) : (10 : ℚ) ^ s = 10 ^ s.toNat / 10 ^ (-s).toNat := by
  have hsplit : s = (s.toNat : Int) - ((-s).toNat : Int) := by omega
  conv_lhs => rw [hsplit]
  rw [zpow_sub₀ (by norm_num), zpow_natCast, zpow_natCast]

theorem cast_signed (negative : Bool) (n : Nat) :
    (signed negative n : ℚ) = (if negative then -1 else 1) * n := by
  cases negative with
  | true => simp [signed]
  | false => simp [signed]

/-!
## Literals

Neither the reduction nor the step from digits to a decimal changes the number.
-/

theorem ofParts?_eq_some {c : Int} {s : Nat} {d : Decimal} (h : ofParts? c s = some d) :
    d.coefficient = c ∧ d.scale = s ∧ c.natAbs ≤ maxMagnitude := by
  unfold ofParts? at h
  split at h
  · rename_i hbounds
    cases h
    refine ⟨?_, rfl, hbounds.1⟩
    simp only [coefficient, decide_eq_true_eq]
    split <;> omega
  · cases h

namespace Literal

theorem of_decimal? {negative : Bool} {digits : List Char} {scale : Int} {d : Decimal}
    (h : decimal? negative digits scale = some d) :
    d.value = (if negative then -1 else 1) * (digitsValue digits / 10 ^ scale) ∧
      d.scale = scale.toNat ∧ digitsValue digits * 10 ^ (-scale).toNat ≤ maxMagnitude := by
  rcases limits_of_decimal? h with ⟨hdigits, hlow, hhigh⟩
  rw [decimal?_of_limits negative hdigits hlow hhigh] at h
  rcases ofParts?_eq_some h with ⟨hcoefficient, hscale, hmagnitude⟩
  rw [natAbs_signed] at hmagnitude
  refine ⟨?_, hscale, hmagnitude⟩
  rw [Decimal.value, hcoefficient, hscale, cast_signed, ten_zpow_eq_div]
  push_cast
  field_simp

theorem isSome_decimal? {negative : Bool} {digits : List Char} {scale : Int}
    (hdigits : digits.length ≤ maxDigits) (hlow : -(maxDigits : Int) ≤ scale)
    (hhigh : scale ≤ maxScale)
    (hfits : digitsValue digits * 10 ^ (-scale).toNat ≤ maxMagnitude) :
    (decimal? negative digits scale).isSome = true := by
  have hbounds : (signed negative (digitsValue digits * 10 ^ (-scale).toNat)).natAbs ≤ maxMagnitude ∧
      scale.toNat ≤ maxScale := by
    rw [natAbs_signed]
    omega
  rw [decimal?_of_limits negative hdigits hlow hhigh, ofParts?, dif_pos hbounds]
  rfl

namespace Reduced

variable {l : Literal} {k : Nat} {kept : List Char} {left : Int}

theorem quotient_eq (h : l.Reduced k kept left) :
    (digitsValue kept : ℚ) / 10 ^ left = l.significand / 10 ^ l.scale := by
  have hleft := h.left_eq
  rw [div_ten_zpow_eq_iff (by omega), h.significand_eq]
  congr 2
  omega

/-- Zeros are dropped until the scale is small enough, if the number has so few places at all. -/
theorem left_le (h : l.Reduced k kept left) (hsome : kept ≠ []) {m : Nat}
    (hvalue : (digitsValue kept : ℚ) / 10 ^ left = m / 10 ^ (l.heldScale : Int)) :
    left ≤ maxScale := by
  by_contra hhigh
  have hleft := h.left_eq
  have hheld : l.heldScale = maxScale := by
    unfold heldScale
    omega
  rw [hheld, eq_comm, div_ten_zpow_eq_iff (by omega)] at hvalue
  have hpositive : (left - maxScale).toNat ≠ 0 := by omega
  rcases h.stopped with hfew | hnil | hlast
  · exact hhigh hfew.2
  · exact hsome hnil
  · apply hlast
    rw [← hvalue]
    exact Dvd.dvd.mul_left (dvd_pow_self 10 hpositive) m

theorem isSome_decimal? (h : l.Reduced k kept left) (hsome : kept ≠ []) {m : Nat}
    (hm : m ≤ maxMagnitude)
    (hvalue : (digitsValue kept : ℚ) / 10 ^ left = m / 10 ^ (l.heldScale : Int)) :
    (decimal? l.negative kept left).isSome = true := by
  have hleft := h.left_eq
  have hhigh := h.left_le hsome hvalue
  have hheld : left ≤ l.heldScale := by
    unfold heldScale
    omega
  rw [div_ten_zpow_eq_iff hheld] at hvalue
  have hpow : 10 ^ (-left).toNat ≤ 10 ^ ((l.heldScale : Int) - left).toNat :=
    Nat.pow_le_pow_right (by decide) (by omega)
  have hfits : digitsValue kept * 10 ^ (-left).toNat ≤ maxMagnitude :=
    calc
      digitsValue kept * 10 ^ (-left).toNat
        ≤ digitsValue kept * 10 ^ ((l.heldScale : Int) - left).toNat := Nat.mul_le_mul_left _ hpow
      _ = m := hvalue
      _ ≤ maxMagnitude := hm
  exact Literal.isSome_decimal? (Nat.le_of_lt (h.length_lt hfits)) (h.neg_maxDigits_le hsome hfits)
    hhigh hfits

end Reduced

section Reading

variable {l : Literal} (hdigits : ∀ c ∈ l.whole ++ l.fraction, c.isDigit = true)

include hdigits

theorem of_value? {d : Decimal} (h : l.value? = some d) :
    d.value = (if l.negative then -1 else 1) * (l.significand / 10 ^ l.scale) ∧
      d.scale = l.heldScale ∧
      (l.significand = 0 → -(maxDigits : Int) ≤ l.scale ∧ l.scale ≤ maxScale) := by
  rcases exists_reduced hdigits with ⟨k, kept, left, hreduced⟩
  rw [hreduced.value?_eq] at h
  rcases of_decimal? h with ⟨hvalue, hscale, hfits⟩
  have hlimits := limits_of_decimal? h
  have hshort := hreduced.length_lt hfits
  have hneeded := hreduced.needed
  have hleft := hreduced.left_eq
  refine ⟨?_, ?_, ?_⟩
  · rw [hvalue, hreduced.quotient_eq]
  -- Zeros were not dropped for the digits, which are fewer than 38, so they went for the places only.
  · rw [hscale, heldScale]
    omega
  · intro hzero
    have hk := hreduced.zero (hreduced.eq_nil_iff.mpr hzero)
    omega

theorem isSome_value? {m : Nat} (hm : m ≤ maxMagnitude)
    (hvalue : (l.significand : ℚ) / 10 ^ l.scale = m / 10 ^ (l.heldScale : Int))
    (hzero : l.significand = 0 → -(maxDigits : Int) ≤ l.scale ∧ l.scale ≤ maxScale) :
    l.value?.isSome = true := by
  rcases exists_reduced hdigits with ⟨k, kept, left, hreduced⟩
  rw [hreduced.value?_eq]
  rw [← hreduced.quotient_eq] at hvalue
  by_cases hnil : kept = []
  -- A zero has no digit to drop, so its scale has to be in range as it is.
  · have hrange := hzero (hreduced.eq_nil_iff.mp hnil)
    have hleft := hreduced.left_eq
    have hk := hreduced.zero hnil
    subst hnil
    refine isSome_decimal? (by decide) (by omega) (by omega) ?_
    exact (Nat.zero_mul _).le.trans (Nat.zero_le _)
  · exact hreduced.isSome_decimal? hnil hm hvalue

end Reading

end Literal

/-!
## Numerals

The digits before the point and those behind it are one number once the point is left out.
-/

/-- The rational number that a numeral writes. -/
def Numeral.value (n : Numeral) : ℚ :=
  (if n.sign.negative then -1 else 1) *
    (Nat.ofDigitChars 10 n.whole 0 + Nat.ofDigitChars 10 n.places 0 / 10 ^ n.places.length) *
    10 ^ Numeral.power n.exponent

namespace Numeral

theorem isDigit_of_mem_literal (n : Numeral) :
    ∀ c ∈ n.literal.whole ++ n.literal.fraction, c.isDigit = true := by
  intro c hc
  rcases List.mem_append.mp hc with hwhole | hfraction
  · exact n.isDigit_of_mem_whole c hwhole
  · exact n.isDigit_of_mem_fraction c hfraction

theorem value_eq (n : Numeral) :
    n.value = (if n.sign.negative then -1 else 1) *
      (n.literal.significand / 10 ^ n.literal.scale) := by
  have hsignificand : n.literal.significand =
      Nat.ofDigitChars 10 n.whole 0 * 10 ^ n.places.length + Nat.ofDigitChars 10 n.places 0 := by
    rw [← digitsValue_eq_ofDigitChars, ← digitsValue_eq_ofDigitChars, ← digitsValue_append]
    rfl
  have hscale : n.literal.scale = (n.places.length : Int) - power n.exponent := rfl
  rw [value, hsignificand, hscale, zpow_sub₀ (by norm_num), zpow_natCast]
  push_cast
  field_simp

theorem abs_value (n : Numeral) : |n.value| = n.literal.significand / 10 ^ n.literal.scale := by
  have hnonneg : (0 : ℚ) ≤ n.literal.significand / 10 ^ n.literal.scale := by positivity
  rw [value_eq, abs_mul, abs_of_nonneg hnonneg]
  cases n.sign.negative with
  | true => simp
  | false => simp

theorem value_eq_zero_iff (n : Numeral) : n.value = 0 ↔ n.literal.significand = 0 := by
  have hpower : (10 : ℚ) ^ n.literal.scale ≠ 0 := by positivity
  rw [← abs_eq_zero, abs_value, div_eq_zero_iff, or_iff_left hpower, Nat.cast_eq_zero]

theorem of_value? {n : Numeral} {d : Decimal} (h : n.literal.value? = some d) :
    d.value = n.value ∧ d.scale = n.literal.heldScale ∧
      (n.value = 0 → -(Literal.maxDigits : Int) ≤ n.literal.scale ∧ n.literal.scale ≤ maxScale) := by
  rcases Literal.of_value? n.isDigit_of_mem_literal h with ⟨hvalue, hscale, hzero⟩
  refine ⟨?_, hscale, fun h => hzero (n.value_eq_zero_iff.mp h)⟩
  rw [hvalue, value_eq]
  rfl

/-- Whether some decimal is the number that a numeral writes. -/
def Representable (n : Numeral) : Prop :=
  ∃ (m : Int) (s : Nat), m.natAbs ≤ maxMagnitude ∧ s ≤ maxScale ∧ n.value = m / 10 ^ s

/-- Whether the number fits into a decimal as it is written, with the places that the numeral gives
it as far as decimals have them. For a zero this is about its places only. -/
structure FitsAsWritten (n : Numeral) : Prop where
  magnitude_le : |n.value| * 10 ^ n.literal.heldScale ≤ maxMagnitude
  zero_scale : n.value = 0 →
    -(Literal.maxDigits : Int) ≤ n.literal.scale ∧ n.literal.scale ≤ maxScale

theorem Representable.exists_held {n : Numeral} (h : n.Representable) :
    ∃ m : Nat, |n.value| = m / 10 ^ (n.literal.heldScale : Int) := by
  by_cases hplaces : n.literal.scale ≤ maxScale
  · have hheld : n.literal.scale ≤ (n.literal.heldScale : Int) := by
      unfold Literal.heldScale
      omega
    exact ⟨_, by rw [abs_value]; exact (div_ten_zpow_eq_iff hheld).mpr rfl⟩
  · have hheld : n.literal.heldScale = maxScale := by
      unfold Literal.heldScale
      omega
    rcases h with ⟨m, s, _, hs, hvalue⟩
    have hpower : (0 : ℚ) < 10 ^ s := by positivity
    have habs : |n.value| = (m.natAbs : ℚ) / 10 ^ (s : Int) := by
      rw [hvalue, abs_div, abs_of_pos hpower, zpow_natCast, Nat.cast_natAbs, Int.cast_abs]
    rw [habs, hheld]
    exact ⟨_, (div_ten_zpow_eq_iff (Int.ofNat_le.mpr hs)).mpr rfl⟩

end Numeral

theorem ofChars?_numeral (n : Numeral) : ofChars? n.chars = n.literal.value? := by
  unfold ofChars?
  rw [Literal.ofChars?_numeral]
  rfl

/-- What is read as a decimal is written as a numeral, and the decimal is the number of this numeral
exactly. Without an exponent the decimal has the places that are written, up to 28. -/
theorem ofChars?_exact {cs : List Char} {d : Decimal} (h : ofChars? cs = some d) :
    ∃ n : Numeral, n.chars = cs ∧ d.value = n.value ∧
      d.coefficient.natAbs < 2 ^ 96 ∧ d.scale ≤ 28 ∧
      (n.exponent = none → n.places.length ≤ 28 → d.scale = n.places.length) := by
  rcases Option.bind_eq_some_iff.mp h with ⟨l, hl, hd⟩
  rcases Literal.exists_numeral hl with ⟨n, hchars, rfl⟩
  rcases Numeral.of_value? hd with ⟨hvalue, hscale, _⟩
  refine ⟨n, hchars, hvalue, ?_, d.scale_le, ?_⟩
  · rw [natAbs_coefficient]
    exact Nat.lt_of_le_of_lt d.magnitude_le (by decide)
  · intro hexponent hplaces
    have hwritten : n.literal.scale = n.places.length := by
      show (n.places.length : Int) - Numeral.power n.exponent = n.places.length
      rw [hexponent]
      exact Int.sub_zero _
    rw [hscale, Literal.heldScale, hwritten]
    unfold maxScale
    omega

/-- A numeral with zeros in front and at the end. -/
theorem ofChars?_exact_padded :
    ∃ (d : Decimal) (n : Numeral), ofChars? ['-', '0', '0', '7', '.', '5', '0'] = some d ∧
      d.coefficient = -750 ∧ d.scale = 2 ∧ n.chars = ['-', '0', '0', '7', '.', '5', '0'] ∧
      d.value = n.value ∧ (n.exponent = none → n.places.length ≤ 28 → 2 = n.places.length) := by
  have hread : ofChars? ['-', '0', '0', '7', '.', '5', '0'] =
      some ⟨true, 750, 2, by decide, by decide⟩ := rfl
  rcases ofChars?_exact hread with ⟨n, hchars, hvalue, _, _, hscale⟩
  exact ⟨_, n, hread, rfl, rfl, hchars, hvalue, hscale⟩

/-- The numerals that are read are those that write the number of a decimal and fit as written. -/
theorem isSome_ofChars?_iff (n : Numeral) :
    (ofChars? n.chars).isSome = true ↔ n.Representable ∧ n.FitsAsWritten := by
  rw [ofChars?_numeral]
  constructor
  · intro h
    rcases Option.isSome_iff_exists.mp h with ⟨d, hd⟩
    rcases Numeral.of_value? hd with ⟨hvalue, hscale, hzero⟩
    have hmagnitude : d.coefficient.natAbs ≤ maxMagnitude := by
      rw [natAbs_coefficient]
      exact d.magnitude_le
    refine ⟨⟨d.coefficient, d.scale, hmagnitude, d.scale_le, hvalue.symm⟩, ?_, hzero⟩
    rw [← hvalue, d.abs_value, ← hscale, div_mul_cancel₀ _ (by positivity)]
    exact_mod_cast d.magnitude_le
  · rintro ⟨hrepresentable, hfits⟩
    rcases hrepresentable.exists_held with ⟨m, hm⟩
    have hle : m ≤ maxMagnitude := by
      have hbounded := hfits.magnitude_le
      rw [hm, zpow_natCast, div_mul_cancel₀ _ (by positivity)] at hbounded
      exact_mod_cast hbounded
    rw [n.abs_value] at hm
    exact Literal.isSome_value? n.isDigit_of_mem_literal hle hm fun h =>
      hfits.zero_scale (n.value_eq_zero_iff.mpr h)

def longZero : Numeral where
  sign := .absent
  whole := ['0']
  fraction := some (List.replicate 29 '0')
  exponent := none
  isDigit_of_mem_whole := List.all_eq_true.mp rfl
  isDigit_of_mem_fraction := List.all_eq_true.mp rfl
  digits_ne_nil := by decide

def raisedZero : Numeral where
  sign := .absent
  whole := ['0']
  fraction := none
  exponent := some ⟨'e', .absent, ['3', '9'], Or.inl rfl, List.all_eq_true.mp rfl, by decide⟩
  isDigit_of_mem_whole := List.all_eq_true.mp rfl
  isDigit_of_mem_fraction := List.all_eq_true.mp rfl
  digits_ne_nil := by decide

def longTen : Numeral where
  sign := .absent
  whole := ['1', '0']
  fraction := some (List.replicate 28 '0')
  exponent := none
  isDigit_of_mem_whole := List.all_eq_true.mp rfl
  isDigit_of_mem_fraction := List.all_eq_true.mp rfl
  digits_ne_nil := by decide

/-- Not every numeral that writes the number of a decimal is read: a zero can have too many places or
too high a power, and zeros at the end can make the digits too many. -/
theorem ofChars?_refuses_representable :
    (longZero.Representable ∧ ofChars? longZero.chars = none) ∧
      (raisedZero.Representable ∧ ofChars? raisedZero.chars = none) ∧
      (longTen.Representable ∧ ofChars? longTen.chars = none) := by
  have hlong : longZero.value = 0 := longZero.value_eq_zero_iff.mpr rfl
  have hraised : raisedZero.value = 0 := raisedZero.value_eq_zero_iff.mpr rfl
  have hten : longTen.value = 10 := by
    have hwhole : Nat.ofDigitChars 10 longTen.whole 0 = 10 := rfl
    have hplaces : Nat.ofDigitChars 10 longTen.places 0 = 0 := rfl
    rw [Numeral.value, hwhole, hplaces]
    norm_num [longTen, SignMark.negative, Numeral.power]
  refine ⟨⟨⟨0, 0, by decide, by decide, ?_⟩, rfl⟩, ⟨⟨0, 0, by decide, by decide, ?_⟩, rfl⟩,
    ⟨⟨10, 0, by decide, by decide, ?_⟩, rfl⟩⟩
  · simp [hlong]
  · simp [hraised]
  · simp [hten]

end Decimal
end TableQuery
