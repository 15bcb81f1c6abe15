import TableQuery.Text.Alphabetic
import TableQuery.Text.Blank
import TableQuery.Text.Numeric

/-!
# Classes of characters that do not meet

Two classes have no character in common if no range of the one meets a range of the other.
-/

namespace TableQuery
namespace Text

def Ranges.apart (ranges others : Ranges) : Bool :=
  ranges.all fun range => others.all fun other => decide (range.2 < other.1) || decide (other.2 < range.1)

theorem Ranges.has_eq_false_of_apart {ranges others : Ranges} (h : ranges.apart others = true)
    {c : Char} (hc : ranges.has c = true) : others.has c = false := by
  rcases (ranges.has_iff c).mp hc with ⟨range, hrange, hlow, hhigh⟩
  rw [Bool.eq_false_iff]
  intro hother
  rcases (others.has_iff c).mp hother with ⟨other, hmem, hlow', hhigh'⟩
  have hapart := List.all_eq_true.mp (List.all_eq_true.mp h range hrange) other hmem
  simp only [Bool.or_eq_true, decide_eq_true_eq] at hapart
  omega

theorem isAlphabetic_eq_false_of_isBlank {c : Char} (h : isBlank c = true) : isAlphabetic c = false :=
  Ranges.has_eq_false_of_apart (by decide +kernel : blanks.apart alphabetic = true) h

theorem isNumeric_eq_false_of_isBlank {c : Char} (h : isBlank c = true) : isNumeric c = false :=
  Ranges.has_eq_false_of_apart (by decide +kernel : blanks.apart numeric = true) h

def digits : Ranges :=
  [(0x30, 0x39)]

theorem has_digits_of_isDigit {c : Char} (h : c.isDigit = true) : digits.has c = true := by
  simp only [Char.isDigit, ge_iff_le, Bool.and_eq_true, decide_eq_true_eq, UInt32.le_iff_toNat_le] at h
  exact (digits.has_iff c).mpr ⟨(0x30, 0x39), by simp [digits], h⟩

theorem isAlphabetic_eq_false_of_isDigit {c : Char} (h : c.isDigit = true) : isAlphabetic c = false :=
  Ranges.has_eq_false_of_apart (by decide +kernel : digits.apart alphabetic = true)
    (has_digits_of_isDigit h)

theorem isBlank_eq_false_of_isDigit {c : Char} (h : c.isDigit = true) : isBlank c = false :=
  Ranges.has_eq_false_of_apart (by decide +kernel : digits.apart blanks = true)
    (has_digits_of_isDigit h)

end Text
end TableQuery
