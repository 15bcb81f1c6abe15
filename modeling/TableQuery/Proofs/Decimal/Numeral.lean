import TableQuery.Decimal.Literal
import TableQuery.Proofs.Text.Runs

/-!
# Numerals

The syntax of decimal literals: an optional sign, digits with at most one point among or around them,
and an optional exponent. Characters have the form of a literal exactly if a numeral is written with
them, and the parts of the literal are the parts of the numeral.
-/

namespace TableQuery
namespace Decimal

inductive SignMark where
  | absent
  | plus
  | minus

namespace SignMark

def chars : SignMark → List Char
  | absent => []
  | plus => ['+']
  | minus => ['-']

def negative : SignMark → Bool
  | absent | plus => false
  | minus => true

end SignMark

def signed (negative : Bool) (n : Nat) : Int :=
  if negative then -n else n

structure ExponentPart where
  mark : Char
  sign : SignMark
  digits : List Char
  mark_eq : mark = 'e' ∨ mark = 'E'
  isDigit_of_mem : ∀ c ∈ digits, c.isDigit = true
  digits_ne_nil : digits ≠ []

namespace ExponentPart

def chars (part : ExponentPart) : List Char :=
  part.mark :: (part.sign.chars ++ part.digits)

def value (part : ExponentPart) : Int :=
  signed part.sign.negative (Nat.ofDigitChars 10 part.digits 0)

end ExponentPart

/-- A numeral. There may be no digits before the point or none behind it, but not both. -/
structure Numeral where
  sign : SignMark
  whole : List Char
  fraction : Option (List Char)
  exponent : Option ExponentPart
  isDigit_of_mem_whole : ∀ c ∈ whole, c.isDigit = true
  isDigit_of_mem_fraction : ∀ c ∈ fraction.getD [], c.isDigit = true
  digits_ne_nil : whole ++ fraction.getD [] ≠ []

namespace Numeral

def places (n : Numeral) : List Char :=
  n.fraction.getD []

def fractionChars : Option (List Char) → List Char
  | none => []
  | some digits => '.' :: digits

def exponentChars : Option ExponentPart → List Char
  | none => []
  | some part => part.chars

def power : Option ExponentPart → Int
  | none => 0
  | some part => part.value

def chars (n : Numeral) : List Char :=
  n.sign.chars ++ (n.whole ++ (fractionChars n.fraction ++ exponentChars n.exponent))

def literal (n : Numeral) : Literal :=
  ⟨n.sign.negative, n.whole, n.places, power n.exponent⟩

end Numeral

/-!
## Signs and exponents

A sign and an exponent are found again in front of whatever characters stand behind them.
-/

theorem digitsValue_eq_ofDigitChars (digits : List Char) :
    digitsValue digits = Nat.ofDigitChars 10 digits 0 := by
  rw [Nat.ofDigitChars_eq_foldl]
  rfl

namespace Literal

theorem sign_append (mark : SignMark) {rest : List Char}
    (hrest : ∀ c ∈ rest.head?, c ≠ '-' ∧ c ≠ '+') :
    sign (mark.chars ++ rest) = (mark.negative, rest) := by
  cases mark with
  | plus => rfl
  | minus => rfl
  | absent =>
      cases rest with
      | nil => rfl
      | cons c rest =>
          have hc := hrest c (by simp)
          show sign (c :: rest) = (false, c :: rest)
          unfold sign
          split
          · rename_i heq
            injection heq with hminus
            exact absurd hminus hc.1
          · rename_i heq
            injection heq with hplus
            exact absurd hplus hc.2
          · rfl

theorem exists_signMark (cs : List Char) :
    ∃ mark : SignMark, cs = mark.chars ++ (sign cs).2 ∧ mark.negative = (sign cs).1 := by
  unfold sign
  split
  · exact ⟨.minus, rfl, rfl⟩
  · exact ⟨.plus, rfl, rfl⟩
  · exact ⟨.absent, rfl, rfl⟩

theorem ne_sign_of_isDigit {c : Char} (h : c.isDigit = true) : c ≠ '-' ∧ c ≠ '+' :=
  ⟨Text.ne_of_isDigit h rfl, Text.ne_of_isDigit h rfl⟩

theorem signedNumber?_append (mark : SignMark) {digits : List Char}
    (hdigits : ∀ c ∈ digits, c.isDigit = true) (hsome : digits ≠ []) :
    signedNumber? (mark.chars ++ digits) =
      some (signed mark.negative (Nat.ofDigitChars 10 digits 0)) := by
  have hsign := sign_append mark fun c hc =>
    ne_sign_of_isDigit (hdigits c (List.mem_of_mem_head? hc))
  have hform : (digits.isEmpty || !digits.all Char.isDigit) = false := by
    have hall : digits.all Char.isDigit = true := List.all_eq_true.mpr hdigits
    simp [hall, hsome]
  simp only [signedNumber?, hsign, hform, Bool.false_eq_true, if_false,
    digitsValue_eq_ofDigitChars]
  cases mark.negative <;> rfl

theorem exists_of_signedNumber? {cs : List Char} {n : Int} (h : signedNumber? cs = some n) :
    ∃ (mark : SignMark) (digits : List Char), cs = mark.chars ++ digits ∧
      (∀ c ∈ digits, c.isDigit = true) ∧ digits ≠ [] := by
  rcases exists_signMark cs with ⟨mark, hcs, _⟩
  refine ⟨mark, (sign cs).2, hcs, ?_⟩
  simp only [signedNumber?] at h
  split at h
  · cases h
  · rename_i hform
    simp only [Bool.not_eq_true, Bool.or_eq_false_iff, Bool.not_eq_false', List.isEmpty_eq_false_iff,
      List.all_eq_true] at hform
    exact ⟨hform.2, hform.1⟩

theorem exponent?_exponentChars (part : Option ExponentPart) :
    exponent? (Numeral.exponentChars part) = some (Numeral.power part) := by
  cases part with
  | none => rfl
  | some part =>
      show (if part.mark = 'e' ∨ part.mark = 'E' then
        signedNumber? (part.sign.chars ++ part.digits) else none) = _
      rw [if_pos part.mark_eq, signedNumber?_append part.sign part.isDigit_of_mem part.digits_ne_nil]
      rfl

theorem exists_exponentPart {cs : List Char} {power : Int} (h : exponent? cs = some power) :
    ∃ part : Option ExponentPart, cs = Numeral.exponentChars part := by
  cases cs with
  | nil => exact ⟨none, rfl⟩
  | cons c rest =>
      simp only [exponent?] at h
      split at h
      · rename_i hmark
        rcases exists_of_signedNumber? h with ⟨mark, digits, rfl, hdigits, hsome⟩
        exact ⟨some ⟨c, mark, digits, hmark, hdigits, hsome⟩, rfl⟩
      · cases h

/-!
## The form of a literal

Neither the point nor the mark of an exponent is a digit, so the runs of digits end where the parts
of the numeral end.
-/

theorem head?_exponentChars (part : Option ExponentPart) :
    ∀ c ∈ (Numeral.exponentChars part).head?, c.isDigit = false ∧ c ≠ '.' := by
  intro c hc
  cases part with
  | none => simp [Numeral.exponentChars] at hc
  | some part =>
      have hmark : c = part.mark := by
        simpa [Numeral.exponentChars, ExponentPart.chars, eq_comm] using hc
      rcases part.mark_eq with he | he
      · rw [hmark, he]
        decide
      · rw [hmark, he]
        decide

theorem head?_fraction_exponent (fraction : Option (List Char)) (part : Option ExponentPart) :
    ∀ c ∈ (Numeral.fractionChars fraction ++ Numeral.exponentChars part).head?,
      c.isDigit = false := by
  intro c hc
  cases fraction with
  | none => exact (head?_exponentChars part c hc).1
  | some digits =>
      have hpoint : c = '.' := by simpa [Numeral.fractionChars, eq_comm] using hc
      rw [hpoint]
      decide

theorem afterPoint_eq_nil {cs : List Char} (h : ∀ c ∈ cs.head?, c ≠ '.') :
    afterPoint cs = ([], cs) := by
  cases cs with
  | nil => rfl
  | cons c rest =>
      have hc := h c (by simp)
      unfold afterPoint
      split
      · rename_i heq
        injection heq with hpoint
        exact absurd hpoint hc
      · rfl

theorem afterPoint_fraction_exponent {fraction : Option (List Char)} (part : Option ExponentPart)
    (hdigits : ∀ c ∈ fraction.getD [], c.isDigit = true) :
    afterPoint (Numeral.fractionChars fraction ++ Numeral.exponentChars part) =
      (fraction.getD [], Numeral.exponentChars part) := by
  cases fraction with
  | none => exact afterPoint_eq_nil fun c hc => (head?_exponentChars part c hc).2
  | some digits =>
      have hparts := Text.takeWhile_dropWhile_append hdigits fun c hc =>
        (head?_exponentChars part c hc).1
      show ((digits ++ _).takeWhile Char.isDigit, (digits ++ _).dropWhile Char.isDigit) = _
      exact Prod.ext hparts.1 hparts.2

theorem exists_fraction (cs : List Char) :
    ∃ fraction : Option (List Char), cs = Numeral.fractionChars fraction ++ (afterPoint cs).2 ∧
      (afterPoint cs).1 = fraction.getD [] ∧ ∀ c ∈ fraction.getD [], c.isDigit = true := by
  unfold afterPoint
  split
  · rename_i rest
    refine ⟨some (rest.takeWhile Char.isDigit), ?_, rfl, ?_⟩
    · exact congrArg ('.' :: ·) List.takeWhile_append_dropWhile.symm
    · exact List.all_eq_true.mp List.all_takeWhile
  · exact ⟨none, rfl, rfl, by simp⟩

theorem head?_unsigned (n : Numeral) :
    ∀ c ∈ (n.whole ++
        (Numeral.fractionChars n.fraction ++ Numeral.exponentChars n.exponent)).head?,
      c ≠ '-' ∧ c ≠ '+' := by
  obtain ⟨mark, whole, fraction, part, hwhole, hfraction, hsome⟩ := n
  intro c hc
  cases whole with
  | cons first whole =>
      have hfirst : c = first := by simpa [eq_comm] using hc
      rw [hfirst]
      exact ne_sign_of_isDigit (hwhole first (by simp))
  | nil =>
      cases fraction with
      | none => exact absurd rfl hsome
      | some digits =>
          have hpoint : c = '.' := by simpa [Numeral.fractionChars, eq_comm] using hc
          rw [hpoint]
          decide

theorem ofChars?_numeral (n : Numeral) : ofChars? n.chars = some n.literal := by
  have hsign : sign n.chars = (n.sign.negative, n.whole ++
      (Numeral.fractionChars n.fraction ++ Numeral.exponentChars n.exponent)) :=
    sign_append n.sign (head?_unsigned n)
  have hparts := Text.takeWhile_dropWhile_append n.isDigit_of_mem_whole
    (head?_fraction_exponent n.fraction n.exponent)
  have hform : (n.whole.isEmpty && (n.fraction.getD []).isEmpty) = false := by
    simpa only [ne_eq, List.append_eq_nil_iff, Bool.eq_false_iff, Bool.and_eq_true,
      List.isEmpty_iff] using n.digits_ne_nil
  simp only [ofChars?, hsign, hparts.1, hparts.2,
    afterPoint_fraction_exponent n.exponent n.isDigit_of_mem_fraction, hform,
    exponent?_exponentChars]
  rfl

theorem exists_numeral {cs : List Char} {l : Literal} (h : ofChars? cs = some l) :
    ∃ n : Numeral, n.chars = cs ∧ n.literal = l := by
  -- It is enough to find the numeral, since reading it back says what its parts are.
  suffices hwritten : ∃ n : Numeral, n.chars = cs by
    rcases hwritten with ⟨n, rfl⟩
    rw [ofChars?_numeral] at h
    exact ⟨n, rfl, Option.some.inj h⟩
  rcases exists_signMark cs with ⟨mark, hcs, _⟩
  rcases exists_fraction ((sign cs).2.dropWhile Char.isDigit) with
    ⟨fraction, hrest, hfraction, hdigits⟩
  simp only [ofChars?] at h
  split at h
  · cases h
  · rename_i hform
    rcases Option.map_eq_some_iff.mp h with ⟨power, hpower, _⟩
    rcases exists_exponentPart hpower with ⟨part, hpart⟩
    have hsome : (sign cs).2.takeWhile Char.isDigit ++ fraction.getD [] ≠ [] := by
      rw [hfraction] at hform
      simpa only [ne_eq, List.append_eq_nil_iff, Bool.and_eq_true, List.isEmpty_iff] using hform
    refine ⟨⟨mark, (sign cs).2.takeWhile Char.isDigit, fraction, part,
      List.all_eq_true.mp List.all_takeWhile, hdigits, hsome⟩, ?_⟩
    rw [Numeral.chars, ← hpart, ← hrest, List.takeWhile_append_dropWhile, ← hcs]

end Literal

end Decimal
end TableQuery
