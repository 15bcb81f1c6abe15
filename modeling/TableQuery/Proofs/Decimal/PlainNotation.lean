import TableQuery.Proofs.Decimal.Numeral

/-!
# Plain notation

A decimal in plain notation is a sign, at least one digit and, for a scale above zero, a point with
as many digits behind it as the scale says. Read as a literal it has these parts again, and read as
a decimal it is the same decimal, except that a zero loses its sign.
-/

namespace TableQuery
namespace Decimal

/-!
## Digits

The padded digits of a number are digits only, and they write the number. There are never more of
them than a literal may have.
-/

theorem digitsValue_zero_cons (digits : List Char) :
    digitsValue ('0' :: digits) = digitsValue digits := by
  rfl

theorem digitsValue_dropWhile_zero (digits : List Char) :
    digitsValue (digits.dropWhile (· = '0')) = digitsValue digits := by
  induction digits with
  | nil => rfl
  | cons c rest ih =>
      by_cases hc : c = '0'
      · rw [hc, digitsValue_zero_cons, ← ih]
        simp
      · simp [List.dropWhile, hc]

theorem digitsValue_paddedDigits (least n : Nat) :
    digitsValue (paddedDigits least n) = n := by
  rw [digitsValue_eq_ofDigitChars]
  simp only [paddedDigits]
  rw [Nat.ofDigitChars_append, Nat.ofDigitChars_replicate_zero, Nat.mul_zero]
  exact Nat.ofDigitChars_ten_toDigits

theorem isDigit_of_mem_paddedDigits {least n : Nat} {c : Char}
    (h : c ∈ paddedDigits least n) : c.isDigit = true := by
  simp only [paddedDigits] at h
  rcases List.mem_append.mp h with hzero | hdigit
  · rw [List.eq_of_mem_replicate hzero]
    rfl
  · exact Nat.isDigit_of_mem_toDigits (by decide) (by decide) hdigit

theorem length_paddedDigits (least n : Nat) :
    (paddedDigits least n).length = max least (Nat.toDigits 10 n).length := by
  simp only [paddedDigits, List.length_append, List.length_replicate]
  omega

theorem length_toDigits_magnitude (d : Decimal) : (Nat.toDigits 10 d.magnitude).length ≤ 29 := by
  rw [Nat.length_toDigits_le_iff (by decide) (by decide)]
  exact Nat.lt_of_le_of_lt d.magnitude_le (by decide)

/-!
## The parts of a decimal

The padded digits of the magnitude are cut where the point stands. At least one of them is in front
of it.
-/

def wholeDigits (d : Decimal) : List Char :=
  let digits := paddedDigits (d.scale + 1) d.magnitude
  digits.take (digits.length - d.scale)

def fractionDigits (d : Decimal) : List Char :=
  let digits := paddedDigits (d.scale + 1) d.magnitude
  digits.drop (digits.length - d.scale)

theorem wholeDigits_append_fractionDigits (d : Decimal) :
    d.wholeDigits ++ d.fractionDigits = paddedDigits (d.scale + 1) d.magnitude :=
  List.take_append_drop _ _

theorem scale_lt_length_paddedDigits (d : Decimal) :
    d.scale < (paddedDigits (d.scale + 1) d.magnitude).length := by
  rw [length_paddedDigits]
  omega

theorem length_fractionDigits (d : Decimal) : d.fractionDigits.length = d.scale := by
  have hscale := d.scale_lt_length_paddedDigits
  simp only [fractionDigits, List.length_drop]
  omega

theorem wholeDigits_ne_nil (d : Decimal) : d.wholeDigits ≠ [] := by
  have hscale := d.scale_lt_length_paddedDigits
  intro hnil
  have hlength := congrArg List.length hnil
  simp only [wholeDigits, List.length_take, List.length_nil] at hlength
  omega

theorem isDigit_of_mem_wholeDigits {d : Decimal} {c : Char} (h : c ∈ d.wholeDigits) :
    c.isDigit = true :=
  isDigit_of_mem_paddedDigits (List.mem_of_mem_take h)

theorem isDigit_of_mem_fractionDigits {d : Decimal} {c : Char} (h : c ∈ d.fractionDigits) :
    c.isDigit = true :=
  isDigit_of_mem_paddedDigits (List.mem_of_mem_drop h)

def fractionChars (d : Decimal) : List Char :=
  if d.scale = 0 then [] else '.' :: d.fractionDigits

theorem magnitudeText_eq (d : Decimal) :
    magnitudeText d.magnitude d.scale = d.wholeDigits ++ d.fractionChars := by
  by_cases hscale : d.scale = 0
  · simp [magnitudeText, wholeDigits, fractionChars, hscale]
  · simp only [magnitudeText, wholeDigits, fractionChars, fractionDigits, hscale, if_false]

theorem chars_eq (d : Decimal) :
    d.chars = (if d.negative then ['-'] else []) ++ (d.wholeDigits ++ d.fractionChars) := by
  unfold chars
  rw [magnitudeText_eq]
  cases d.negative <;> rfl

theorem chars_eq_cons (d : Decimal) :
    ∃ c tail, d.chars = c :: tail ∧ (c.isDigit = true ∨ c = '-') ∧
      ∀ x ∈ tail, x.isDigit = true ∨ x = '.' := by
  have hfraction : ∀ x ∈ d.fractionChars, x.isDigit = true ∨ x = '.' := by
    intro x hx
    unfold fractionChars at hx
    split at hx
    · cases hx
    · rcases List.mem_cons.mp hx with rfl | hdigit
      · exact Or.inr rfl
      · exact Or.inl (isDigit_of_mem_fractionDigits hdigit)
  have hdigits : ∀ x ∈ d.wholeDigits ++ d.fractionChars, x.isDigit = true ∨ x = '.' := by
    intro x hx
    rcases List.mem_append.mp hx with hwhole | hpoint
    · exact Or.inl (isDigit_of_mem_wholeDigits hwhole)
    · exact hfraction x hpoint
  rw [chars_eq]
  cases d.negative with
  | true => exact ⟨'-', _, rfl, Or.inr rfl, hdigits⟩
  | false =>
      cases hwhole : d.wholeDigits with
      | nil => exact absurd hwhole d.wholeDigits_ne_nil
      | cons c tail =>
          refine ⟨c, tail ++ d.fractionChars, rfl, Or.inl ?_, ?_⟩
          · exact isDigit_of_mem_wholeDigits (d := d) (by simp [hwhole])
          · intro x hx
            exact hdigits x (by simp [hwhole, List.mem_append.mp hx])

theorem mem_chars {d : Decimal} {c : Char} (h : c ∈ d.chars) :
    c.isDigit = true ∨ c = '-' ∨ c = '.' := by
  rcases d.chars_eq_cons with ⟨first, tail, hchars, hfirst, htail⟩
  rw [hchars] at h
  rcases List.mem_cons.mp h with rfl | hmem
  · rcases hfirst with hdigit | hminus
    · exact Or.inl hdigit
    · exact Or.inr (Or.inl hminus)
  · rcases htail c hmem with hdigit | hpoint
    · exact Or.inl hdigit
    · exact Or.inr (Or.inr hpoint)

/-!
## Reading

The plain notation is a numeral with the parts of the decimal and without an exponent, so these parts
are found again.
-/

def numeral (d : Decimal) : Numeral where
  sign := if d.negative then .minus else .absent
  whole := d.wholeDigits
  fraction := if d.scale = 0 then none else some d.fractionDigits
  exponent := none
  isDigit_of_mem_whole _ := isDigit_of_mem_wholeDigits
  isDigit_of_mem_fraction := by
    intro c hc
    split at hc
    · cases hc
    · exact isDigit_of_mem_fractionDigits hc
  digits_ne_nil := by
    simp [d.wholeDigits_ne_nil]

theorem chars_numeral (d : Decimal) : d.numeral.chars = d.chars := by
  have hsign : d.numeral.sign.chars = if d.negative then ['-'] else [] := by
    show SignMark.chars (if d.negative then .minus else .absent) = _
    split <;> rfl
  have hfraction : Numeral.fractionChars d.numeral.fraction = d.fractionChars := by
    show Numeral.fractionChars (if d.scale = 0 then none else some d.fractionDigits) = _
    unfold fractionChars
    split <;> rfl
  have hexponent : Numeral.exponentChars d.numeral.exponent = [] := rfl
  rw [chars_eq, Numeral.chars, hsign, hfraction, hexponent, List.append_nil]
  rfl

theorem places_numeral (d : Decimal) : d.numeral.places = d.fractionDigits := by
  show (if d.scale = 0 then none else some d.fractionDigits).getD [] = d.fractionDigits
  split
  · rename_i hscale
    have hlength := d.length_fractionDigits
    rw [hscale] at hlength
    exact (List.length_eq_zero_iff.mp hlength).symm
  · rfl

theorem literal_numeral (d : Decimal) :
    d.numeral.literal = ⟨d.negative, d.wholeDigits, d.fractionDigits, 0⟩ := by
  have hsign : d.numeral.sign.negative = d.negative := by
    show SignMark.negative (if d.negative then .minus else .absent) = _
    cases d.negative <;> rfl
  rw [Numeral.literal, hsign, places_numeral]
  rfl

theorem Literal.ofChars?_chars (d : Decimal) :
    Literal.ofChars? d.chars = some ⟨d.negative, d.wholeDigits, d.fractionDigits, 0⟩ := by
  rw [← chars_numeral, Literal.ofChars?_numeral, literal_numeral]

/-!
The digits of a decimal are few enough for nothing to be dropped from their end, so the literal has
the value of the decimal at its scale.
-/

theorem Literal.dropZeros_eq_self {digits : List Char} {scale : Int}
    (hdigits : digits.length ≤ Literal.maxDigits) (hscale : scale ≤ maxScale) :
    Literal.dropZeros digits scale = (digits, scale) := by
  cases digits with
  | nil => rfl
  | cons c rest =>
      rw [List.length_cons] at hdigits
      have hkeep : ¬ ((Literal.maxDigits < rest.length + 1 ∨ (maxScale : Int) < scale) ∧ c = '0') := by
        omega
      simp only [Literal.dropZeros, hkeep, if_false]

/-- The decimal without the sign of a zero. -/
def signless (d : Decimal) : Decimal :=
  { d with negative := d.negative && d.magnitude != 0 }

theorem signless_eq_self {d : Decimal} (h : d.negative = true → d.magnitude ≠ 0) :
    d.signless = d := by
  obtain ⟨negative, magnitude, scale, hmagnitude, hscale⟩ := d
  cases negative with
  | true => simpa [signless] using h
  | false => rfl

theorem ofParts?_coefficient (d : Decimal) : ofParts? d.coefficient d.scale = some d.signless := by
  have hbounds : d.coefficient.natAbs ≤ maxMagnitude ∧ d.scale ≤ maxScale := by
    rw [natAbs_coefficient]
    exact ⟨d.magnitude_le, d.scale_le⟩
  have hsign : decide (d.coefficient < 0) = (d.negative && d.magnitude != 0) := by
    unfold coefficient
    cases d.negative with
    | true =>
        by_cases hzero : d.magnitude = 0
        · simp [hzero]
        · have hpos : 0 < d.magnitude := Nat.pos_of_ne_zero hzero
          simp [hzero, hpos]
    | false => simp
  unfold ofParts?
  rw [dif_pos hbounds]
  simp only [hsign, natAbs_coefficient]
  rfl

theorem length_digits_le (d : Decimal) :
    ((d.wholeDigits ++ d.fractionDigits).dropWhile (· = '0')).length ≤ Literal.maxDigits := by
  have hsuffix := (List.dropWhile_suffix (l := d.wholeDigits ++ d.fractionDigits) (· = '0')).length_le
  have hdigits := d.length_toDigits_magnitude
  have hscale := d.scale_le
  rw [wholeDigits_append_fractionDigits] at hsuffix ⊢
  rw [length_paddedDigits] at hsuffix
  unfold Literal.maxDigits
  omega

/-- Reading the plain notation of a decimal gives the decimal back, with no sign on a zero. -/
theorem ofChars?_chars (d : Decimal) : ofChars? d.chars = some d.signless := by
  have hscale : ((d.fractionDigits.length : Int) - 0) = d.scale := by
    rw [length_fractionDigits, Int.sub_zero]
  have hplaces : (d.scale : Int) ≤ maxScale := Int.ofNat_le.mpr d.scale_le
  have hkept := Literal.dropZeros_eq_self
    (Nat.le_trans (Nat.le_of_eq List.length_reverse) d.length_digits_le) hplaces
  have hvalue : digitsValue ((d.wholeDigits ++ d.fractionDigits).dropWhile (· = '0')) =
      d.magnitude := by
    rw [digitsValue_dropWhile_zero, wholeDigits_append_fractionDigits, digitsValue_paddedDigits]
  have hfits : ¬ (Literal.maxDigits <
      ((d.wholeDigits ++ d.fractionDigits).dropWhile (· = '0')).length ∨
        (maxScale : Int) < d.scale) := by
    have hlength := d.length_digits_le
    omega
  unfold ofChars?
  rw [Literal.ofChars?_chars, Option.bind_some]
  simp only [Literal.value?, hscale, hkept, List.reverse_reverse, Literal.decimal?, hvalue]
  rw [if_neg hfits, if_pos (Int.natCast_nonneg _), Int.toNat_natCast]
  exact d.ofParts?_coefficient

end Decimal
end TableQuery
