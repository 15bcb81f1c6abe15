import TableQuery.Decimal.Word
import TableQuery.Proofs.Decimal.Reduction
import TableQuery.Proofs.Outcome

/-!
# The scale as a word

As long as the exact scale of a literal is a word, both kinds of arithmetic keep it. When zeros take it
below all words, checked arithmetic stops, and wrapping arithmetic goes on from the greatest word. A
text that is short enough does not have the zeros to come down again from there, and it is refused, as
the exact scale would have been.
-/

namespace TableQuery

open Outcome

/-!
## Words

Both kinds of arithmetic keep a result that is a word. A result that is none stops one of them and
becomes another number in the other.
-/

def IsWord (n : Int) : Prop :=
  -9223372036854775808 ≤ n ∧ n ≤ 9223372036854775807

theorem isWord_toInt (word : Int64) : IsWord word.toInt := by
  have hlow := word.le_toInt
  have hhigh := word.toInt_lt
  constructor <;> omega

theorem toInt_ofInt {n : Int} (h : IsWord n) : (Int64.ofInt n).toInt = n := by
  rcases h with ⟨hlow, hhigh⟩
  apply Int64.toInt_ofInt_of_le <;> omega

theorem word?_eq_some_iff {n : Int} {word : Int64} : word? n = some word ↔ word.toInt = n := by
  have hbounds : Int64.minValue.toInt ≤ n ∧ n ≤ Int64.maxValue.toInt ↔ IsWord n := Iff.rfl
  constructor
  · intro h
    rcases Option.ite_none_right_eq_some.mp h with ⟨hword, heq⟩
    rw [← Option.some.inj heq]
    exact toInt_ofInt (hbounds.mp hword)
  · intro h
    subst h
    rw [word?, if_pos (hbounds.mpr (isWord_toInt word)), Int64.ofInt_toInt]

namespace Arithmetic

theorem word_of_isWord (arithmetic : Arithmetic) {n : Int} (h : IsWord n) :
    arithmetic.word n = .ok (.ofInt n) := by
  unfold word
  rw [word?_eq_some_iff.mpr (toInt_ofInt h)]

theorem wrapping_word (n : Int) : wrapping.word n = .ok (.ofInt n) := by
  unfold word
  cases hword : word? n with
  | none => rfl
  | some word =>
      rw [← word?_eq_some_iff.mp hword, Int64.ofInt_toInt]

end Arithmetic

namespace Decimal
namespace Literal

/-!
## Zeros at the end

The exact scale goes down by one for every zero that is dropped.
-/

theorem dropZeros_snd_bounds (digits : List Char) (scale : Int) :
    scale - digits.length ≤ (dropZeros digits scale).2 ∧ (dropZeros digits scale).2 ≤ scale := by
  rcases exists_trimmed digits scale with ⟨k, htrimmed⟩
  have hdigits := congrArg List.length htrimmed.digits_eq
  rw [List.length_append, List.length_replicate] at hdigits
  have hleft := htrimmed.left_eq
  constructor <;> omega

theorem dropZerosIn_exact (arithmetic : Arithmetic) (digits : List Char) (scale : Int64)
    (h : -9223372036854775808 ≤ (dropZeros digits scale.toInt).2) :
    dropZerosIn arithmetic digits scale =
      .ok ((dropZeros digits scale.toInt).1, .ofInt (dropZeros digits scale.toInt).2) := by
  induction digits generalizing scale with
  | nil => rw [dropZerosIn, dropZeros, Int64.ofInt_toInt]
  | cons c rest ih =>
      rw [dropZeros] at h ⊢
      rw [dropZerosIn]
      split at h
      · rename_i hdrop
        have hlow := (dropZeros_snd_bounds rest (scale.toInt - 1)).2
        have hhigh := (isWord_toInt scale).2
        have hword : IsWord (scale.toInt - 1) := ⟨by omega, by omega⟩
        rw [if_pos hdrop, if_pos hdrop, arithmetic.word_of_isWord hword, ok_bind]
        have hrest := ih (.ofInt (scale.toInt - 1))
        rw [toInt_ofInt hword] at hrest
        exact hrest h
      · rename_i hkeep
        rw [if_neg hkeep, if_neg hkeep, Int64.ofInt_toInt]

/-- Below the least word comes the greatest one, and short digits do not have the zeros to come down
from there to a scale that a decimal can have. -/
theorem dropZerosIn_wrapping (digits : List Char) (scale : Int64)
    (hshort : digits.length < 4611686018427387904)
    (h : (dropZeros digits scale.toInt).2 < -9223372036854775808) :
    ∃ kept left, dropZerosIn .wrapping digits scale = .ok (kept, left) ∧
      (maxScale : Int) < left.toInt := by
  have hscale := isWord_toInt scale
  induction digits generalizing scale with
  | nil => exact absurd h (Int.not_lt.mpr hscale.1)
  | cons c rest ih =>
      rw [List.length_cons] at hshort
      rw [dropZeros] at h
      rw [dropZerosIn]
      split at h
      · rename_i hdrop
        rw [if_pos hdrop, Arithmetic.wrapping_word, ok_bind]
        by_cases hword : IsWord (scale.toInt - 1)
        · apply ih
          · omega
          · rwa [toInt_ofInt hword]
          · exact isWord_toInt _
        · have hleast : scale.toInt - 1 = -9223372036854775809 := by
            unfold IsWord at hword hscale
            omega
          have hgreatest : (Int64.ofInt (scale.toInt - 1)).toInt = 9223372036854775807 := by
            rw [hleast]
            rfl
          have hbounds := dropZeros_snd_bounds rest 9223372036854775807
          have hleft : IsWord (dropZeros rest 9223372036854775807).2 := ⟨by omega, hbounds.2⟩
          have hrun := dropZerosIn_exact .wrapping rest (.ofInt (scale.toInt - 1))
          rw [hgreatest] at hrun
          refine ⟨_, _, hrun hleft.1, ?_⟩
          rw [toInt_ofInt hleft]
          simp only [maxScale]
          omega
      · exact absurd h (Int.not_lt.mpr hscale.1)

/-!
## From digits to a decimal

The least word is the only one that has no negative.
-/

variable {negative : Bool} {digits : List Char} {scale : Int64}

theorem decimal?_eq_none {scale : Int} (h : scale < -(maxDigits : Int) ∨ (maxScale : Int) < scale) :
    decimal? negative digits scale = none := by
  rw [Option.eq_none_iff_forall_ne_some]
  intro d hd
  have hlimits := limits_of_decimal? hd
  omega

theorem decimalIn?_exact (arithmetic : Arithmetic)
    (h : digits.length ≤ maxDigits → scale.toInt ≠ -9223372036854775808) :
    decimalIn? arithmetic negative digits scale = .ok (decimal? negative digits scale.toInt) := by
  unfold decimalIn?
  split
  · rename_i hnegated
    have hscale := isWord_toInt scale
    have hleast := h hnegated.1
    unfold IsWord at hscale
    have hword : IsWord (-scale.toInt) := ⟨by omega, by omega⟩
    rw [arithmetic.word_of_isWord hword, ok_bind, toInt_ofInt hword, if_neg (by omega), Int.neg_neg]
    rfl
  · rfl

theorem decimalIn?_wrapping :
    decimalIn? .wrapping negative digits scale = .ok (decimal? negative digits scale.toInt) := by
  by_cases hleast : digits.length ≤ maxDigits ∧ scale.toInt = -9223372036854775808
  · rcases hleast with ⟨hdigits, hscale⟩
    have hsame : (Int64.ofInt (-scale.toInt)).toInt < 0 := by
      rw [hscale]
      decide
    have hnone : decimal? negative digits scale.toInt = none := by
      apply decimal?_eq_none
      simp only [maxDigits]
      omega
    rw [decimalIn?, if_pos ⟨hdigits, by omega⟩, Arithmetic.wrapping_word, ok_bind, if_pos hsame, hnone]
    rfl
  · exact decimalIn?_exact .wrapping fun hdigits hscale => hleast ⟨hdigits, hscale⟩

/-!
## Literals

Checked arithmetic stops at a literal just if its scale leaves the words. The scale can do so only
after its exponent and its first scale have been found to be words.
-/

variable {l : Literal} {word : Int64}

theorem scaleWord?_eq_some_iff :
    l.scaleWord? = some word ↔
      IsWord l.exponent ∧ IsWord l.fraction.length ∧ word.toInt = l.scale := by
  unfold scaleWord?
  constructor
  · intro h
    rcases Option.bind_eq_some_iff.mp h with ⟨exponent, hexponent, h⟩
    rcases Option.bind_eq_some_iff.mp h with ⟨places, hplaces, h⟩
    rw [word?_eq_some_iff] at hexponent hplaces h
    rw [hexponent, hplaces] at h
    exact ⟨hexponent ▸ isWord_toInt exponent, hplaces ▸ isWord_toInt places, h⟩
  · intro h
    rcases h with ⟨hexponent, hplaces, hscale⟩
    rw [word?_eq_some_iff.mpr (toInt_ofInt hexponent), Option.bind_eq_bind, Option.bind_some,
      word?_eq_some_iff.mpr (toInt_ofInt hplaces), Option.bind_some, toInt_ofInt hexponent,
      toInt_ofInt hplaces]
    exact word?_eq_some_iff.mpr hscale

theorem valueIn?_eq_bind (arithmetic : Arithmetic) (h : l.scaleWord? = some word) :
    l.valueIn? arithmetic =
      dropZerosIn arithmetic l.stripped.reverse word >>= fun run =>
        decimalIn? arithmetic l.negative run.1.reverse run.2 := by
  unfold valueIn?
  rw [h]
  rfl

theorem valueIn?_eq_ok_none (arithmetic : Arithmetic) (h : l.scaleWord? = none) :
    l.valueIn? arithmetic = .ok none := by
  unfold valueIn?
  rw [h]

theorem value?_eq_none (h : (dropZeros l.stripped.reverse l.scale).2 < -(maxDigits : Int) ∨
    (maxScale : Int) < (dropZeros l.stripped.reverse l.scale).2) : l.value? = none :=
  decimal?_eq_none h

theorem value?_eq_none_of_scaleWord? (hshort : (l.whole ++ l.fraction).length < 4611686018427387904)
    (h : l.scaleWord? = none) : l.value? = none := by
  have hdigits : l.stripped.reverse.length ≤ (l.whole ++ l.fraction).length := by
    rw [List.length_reverse]
    exact (List.dropWhile_suffix _).length_le
  have hfraction : l.fraction.length ≤ (l.whole ++ l.fraction).length := by
    rw [List.length_append]
    omega
  have hbounds := dropZeros_snd_bounds l.stripped.reverse l.scale
  have hplaces : IsWord l.fraction.length := ⟨by omega, by omega⟩
  have hout : ¬ (IsWord l.exponent ∧ IsWord l.scale) := by
    intro hwords
    have hsome := scaleWord?_eq_some_iff.mpr ⟨hwords.1, hplaces, toInt_ofInt hwords.2⟩
    rw [h] at hsome
    cases hsome
  apply value?_eq_none
  unfold IsWord at hout
  simp only [maxDigits, maxScale]
  have hscale : l.scale = l.fraction.length - l.exponent := rfl
  omega

/-- With few digits, wrapping arithmetic gives what exact numbers give. -/
theorem valueIn?_wrapping (hshort : (l.whole ++ l.fraction).length < 4611686018427387904) :
    l.valueIn? .wrapping = .ok l.value? := by
  cases hword : l.scaleWord? with
  | none => rw [valueIn?_eq_ok_none _ hword, value?_eq_none_of_scaleWord? hshort hword]
  | some word =>
      have hscale := (scaleWord?_eq_some_iff.mp hword).2.2
      by_cases hbelow : (dropZeros l.stripped.reverse l.scale).2 < -9223372036854775808
      · have hdigits : l.stripped.reverse.length < 4611686018427387904 := by
          rw [List.length_reverse]
          exact Nat.lt_of_le_of_lt (List.dropWhile_suffix _).length_le hshort
        rcases dropZerosIn_wrapping _ word hdigits (by rwa [hscale]) with
          ⟨kept, left, hrun, hleft⟩
        have hnone : l.value? = none := by
          apply value?_eq_none
          simp only [maxDigits]
          omega
        rw [valueIn?_eq_bind _ hword, hrun, ok_bind, decimalIn?_wrapping,
          decimal?_eq_none (Or.inr hleft), hnone]
      · have hbounds := dropZeros_snd_bounds l.stripped.reverse l.scale
        have hhigh := (isWord_toInt word).2
        have hrun := dropZerosIn_exact .wrapping l.stripped.reverse word
        rw [hscale] at hrun
        rw [valueIn?_eq_bind _ hword, hrun (Int.not_lt.mp hbelow), ok_bind, decimalIn?_wrapping,
          toInt_ofInt ⟨Int.not_lt.mp hbelow, by omega⟩]
        rfl

theorem length_sign (cs : List Char) : (sign cs).2.length ≤ cs.length := by
  unfold sign
  split <;> simp

theorem length_afterPoint (cs : List Char) : (afterPoint cs).1.length ≤ cs.length := by
  unfold afterPoint
  split
  · exact Nat.le_succ_of_le (List.takeWhile_prefix _).length_le
  · simp

theorem length_of_ofChars? {cs : List Char} (h : ofChars? cs = some l) :
    (l.whole ++ l.fraction).length ≤ cs.length := by
  have hsign := length_sign cs
  have hfraction := length_afterPoint ((sign cs).2.dropWhile Char.isDigit)
  have hsplit := congrArg List.length
    (List.takeWhile_append_dropWhile (p := Char.isDigit) (l := (sign cs).2))
  rw [List.length_append] at hsplit
  simp only [ofChars?] at h
  split at h
  · cases h
  · rcases Option.map_eq_some_iff.mp h with ⟨exponent, _, hliteral⟩
    rw [← hliteral, List.length_append]
    dsimp only
    omega

end Literal

/-!
## Texts

What holds of literals holds of the texts that are read as literals, and no other text can stop.
-/

theorem ofCharsIn?_wrapping {cs : List Char} (hshort : cs.length < 4611686018427387904) :
    ofCharsIn? .wrapping cs = .ok (ofChars? cs) := by
  unfold ofCharsIn? ofChars?
  cases hliteral : Literal.ofChars? cs with
  | none => rfl
  | some literal =>
      exact Literal.valueIn?_wrapping
        (Nat.lt_of_le_of_lt (Literal.length_of_ofChars? hliteral) hshort)

end Decimal

end TableQuery
