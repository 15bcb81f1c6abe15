import TableQuery.Declarative.Cursor
import TableQuery.Proofs.Decimal.PlainNotation
import TableQuery.Proofs.Text.Classes
import TableQuery.Proofs.Text.Runs

/-!
# Spelling

Every lexeme can be written: a word as it is, a text between quotes with a backslash in front of each
quote and backslash, a number in plain notation, a mark as its character. Lexemes with blanks between
them are scanned back, each at the place where it was written.
-/

namespace TableQuery
namespace Declarative

open Text (isAlphabetic isNumeric isBlank)

/-!
## Characters
-/

def isWord (name : String) : Bool :=
  match name.toList with
  | [] => false
  | c :: rest => isWordStart c && rest.all isWordPart

theorem Mark.eq_char_of_ofChar? {c : Char} {mark : Mark} (h : Mark.ofChar? c = some mark) :
    c = mark.char := by
  unfold Mark.ofChar? at h
  split at h <;> cases h <;> rfl

theorem Mark.ofChar?_eq_none {p : Char → Bool} (hp : ∀ mark : Mark, p mark.char = false) {c : Char}
    (h : p c = true) : Mark.ofChar? c = none := by
  cases hmark : Mark.ofChar? c with
  | none => rfl
  | some mark =>
      rw [Mark.eq_char_of_ofChar? hmark, hp mark] at h
      cases h

theorem isWordPart_of_isWordStart {c : Char} (h : isWordStart c = true) : isWordPart c = true := by
  simp only [isWordStart, Bool.or_eq_true] at h
  simp only [isWordPart, Bool.or_eq_true]
  rcases h with halphabetic | hunder
  · exact Or.inl (Or.inl halphabetic)
  · exact Or.inr hunder

theorem isWordPart_eq_false_of_isBlank {c : Char} (h : isBlank c = true) : isWordPart c = false := by
  have hunder : c ≠ '_' := by
    rintro rfl
    exact absurd h (by decide)
  simp [isWordPart, Text.isAlphabetic_eq_false_of_isBlank h, Text.isNumeric_eq_false_of_isBlank h,
    hunder]

theorem isNumberPart_eq_false_of_isBlank {c : Char} (h : isBlank c = true) :
    isNumberPart c = false := by
  have hpoint : c ≠ '.' := by
    rintro rfl
    exact absurd h (by decide)
  have hdigit : c.isDigit = false := by
    rw [Bool.eq_false_iff]
    intro hdigit
    rw [Text.isBlank_eq_false_of_isDigit hdigit] at h
    cases h
  simp [isNumberPart, hdigit, hpoint]

theorem isBlank_eq_false_of_isWordStart {c : Char} (h : isWordStart c = true) :
    isBlank c = false := by
  rw [Bool.eq_false_iff]
  intro hblank
  have hpart := isWordPart_of_isWordStart h
  rw [isWordPart_eq_false_of_isBlank hblank] at hpart
  cases hpart

theorem isWordStart_eq_false_of_isNumberStart {c : Char} (h : isNumberStart c = true) :
    isWordStart c = false := by
  simp only [isNumberStart, Bool.or_eq_true, decide_eq_true_eq] at h
  rcases h with hdigit | rfl
  · have hunder : c ≠ '_' := by
      rintro rfl
      exact absurd hdigit (by decide)
    simp [isWordStart, Text.isAlphabetic_eq_false_of_isDigit hdigit, hunder]
  · decide +kernel

theorem isBlank_eq_false_of_isNumberStart {c : Char} (h : isNumberStart c = true) :
    isBlank c = false := by
  simp only [isNumberStart, Bool.or_eq_true, decide_eq_true_eq] at h
  rcases h with hdigit | rfl
  · exact Text.isBlank_eq_false_of_isDigit hdigit
  · decide

/-!
## Lexemes

Between its quotes a text has a backslash in front of each quote and backslash. A word and a number
end where a blank stands, so a lexeme is scanned back if a blank or nothing is behind it.
-/

def escaped : List Char → List Char
  | [] => []
  | c :: rest => if c = '"' ∨ c = '\\' then '\\' :: c :: escaped rest else c :: escaped rest

namespace Lexeme

def spelling : Lexeme → List Char
  | word name => name.toList
  | text content => '"' :: (escaped content.toList ++ ['"'])
  | number literal _ => literal.toList
  | mark m => [m.char]

/-- A lexeme that is what its characters say: a word is one, and a number is that of its literal in
plain notation. -/
def Spelled : Lexeme → Prop
  | word name => isWord name = true
  | text _ => True
  | number literal value => ∃ decimal : Decimal, literal = decimal.text ∧ value = decimal.signless
  | mark _ => True

end Lexeme

theorem TextBody.read?_escaped (content rest : List Char) :
    TextBody.read? (escaped content ++ '"' :: rest) =
      some ⟨content, escaped content ++ ['"'], rest⟩ := by
  induction content with
  | nil => rfl
  | cons c content ih =>
      by_cases hquote : c = '"'
      · subst hquote
        simp [escaped, read?, ih]
      · by_cases hslash : c = '\\'
        · subst hslash
          simp [escaped, read?, ih]
        · have hescaped : escaped (c :: content) = c :: escaped content := by
            simp [escaped, hquote, hslash]
          have hread : read? (c :: (escaped content ++ '"' :: rest)) =
              (read? (escaped content ++ '"' :: rest)).map fun body =>
                ⟨c :: body.content, c :: body.taken, body.rest⟩ := by
            rw [read?.eq_5]
            · exact hquote
            · exact fun h _ => hslash h
            · exact fun _ _ h _ => hslash h
          rw [hescaped, List.cons_append, hread, ih]
          rfl

def StartsBlank (rest : List Char) : Prop :=
  ∀ c ∈ rest.head?, isBlank c = true

theorem scan_wordChars {c : Char} (hstart : isWordStart c = true) {more rest : List Char}
    (hparts : ∀ x ∈ more, isWordPart x = true) (hrest : ∀ x ∈ rest.head?, isWordPart x = false) :
    scan c (more ++ rest) = ⟨.ok (.word (.ofList (c :: more))), c :: more, rest⟩ := by
  have hmark : Mark.ofChar? c = none :=
    Mark.ofChar?_eq_none (by intro mark; cases mark <;> decide +kernel) hstart
  have hquote : c ≠ '"' := by
    rintro rfl
    exact absurd hstart (by decide +kernel)
  rcases Text.takeWhile_dropWhile_append hparts hrest with ⟨htake, hdrop⟩
  simp only [scan, hmark, hquote, if_false, hstart, if_true, scanWord, htake, hdrop]

theorem scan_numberChars {c : Char} (hstart : isNumberStart c = true) {more rest : List Char}
    (hparts : ∀ x ∈ more, isNumberPart x = true) (hrest : ∀ x ∈ rest.head?, isNumberPart x = false)
    {value : Decimal} (hvalue : Decimal.ofChars? (c :: more) = some value) :
    scan c (more ++ rest) = ⟨.ok (.number (.ofList (c :: more)) value), c :: more, rest⟩ := by
  have hmark : Mark.ofChar? c = none :=
    Mark.ofChar?_eq_none (by intro mark; cases mark <;> decide) hstart
  have hquote : c ≠ '"' := by
    rintro rfl
    exact absurd hstart (by decide)
  have hword := isWordStart_eq_false_of_isNumberStart hstart
  rcases Text.takeWhile_dropWhile_append hparts hrest with ⟨htake, hdrop⟩
  simp only [scan, hmark, hquote, if_false, hword, Bool.false_eq_true, hstart, if_true,
    scanNumber, htake, hdrop, hvalue]

theorem scan_word {name : String} (h : isWord name = true) {rest : List Char}
    (hrest : ∀ x ∈ rest.head?, isWordPart x = false) :
    ∃ c more, name.toList = c :: more ∧ isBlank c = false ∧
      scan c (more ++ rest) = ⟨.ok (.word name), name.toList, rest⟩ := by
  unfold isWord at h
  cases hname : name.toList with
  | nil =>
      rw [hname] at h
      cases h
  | cons c more =>
      rw [hname] at h
      simp only [Bool.and_eq_true, List.all_eq_true] at h
      rcases h with ⟨hstart, hparts⟩
      refine ⟨c, more, rfl, isBlank_eq_false_of_isWordStart hstart, ?_⟩
      rw [scan_wordChars hstart hparts hrest, ← hname, String.ofList_toList]

theorem scan_text (content : String) (rest : List Char) :
    scan '"' (escaped content.toList ++ ['"'] ++ rest) =
      ⟨.ok (.text content), (Lexeme.text content).spelling, rest⟩ := by
  have hbody : TextBody.read? (escaped content.toList ++ ['"'] ++ rest) =
      some ⟨content.toList, escaped content.toList ++ ['"'], rest⟩ := by
    rw [List.append_assoc]
    exact TextBody.read?_escaped content.toList rest
  have hmark : Mark.ofChar? '"' = none := rfl
  simp only [scan, hmark, if_true, scanText, hbody, String.ofList_toList]
  rfl

theorem scan_number (decimal : Decimal) {rest : List Char}
    (hrest : ∀ x ∈ rest.head?, isNumberPart x = false) :
    ∃ c more, decimal.chars = c :: more ∧ isBlank c = false ∧
      scan c (more ++ rest) =
        ⟨.ok (.number decimal.text decimal.signless), decimal.chars, rest⟩ := by
  rcases decimal.chars_eq_cons with ⟨c, more, hchars, hstart, hparts⟩
  have hnumber : isNumberStart c = true := by
    simpa [isNumberStart] using hstart
  have hparts' : ∀ x ∈ more, isNumberPart x = true := by
    intro x hx
    simpa [isNumberPart] using hparts x hx
  have hread : Decimal.ofChars? (c :: more) = some decimal.signless := by
    rw [← hchars]
    exact decimal.ofChars?_chars
  refine ⟨c, more, hchars, isBlank_eq_false_of_isNumberStart hnumber, ?_⟩
  rw [scan_numberChars hnumber hparts' hrest hread, ← hchars]
  rfl

theorem scan_spelling {lexeme : Lexeme} (h : lexeme.Spelled) {rest : List Char}
    (hrest : StartsBlank rest) :
    ∃ c more, lexeme.spelling = c :: more ∧ isBlank c = false ∧
      scan c (more ++ rest) = ⟨.ok lexeme, lexeme.spelling, rest⟩ := by
  cases lexeme with
  | word name => exact scan_word h fun x hx => isWordPart_eq_false_of_isBlank (hrest x hx)
  | text content => exact ⟨'"', _, rfl, by decide, scan_text content rest⟩
  | number literal value =>
      rcases h with ⟨decimal, rfl, rfl⟩
      have hspelling : (Lexeme.number decimal.text decimal.signless).spelling = decimal.chars :=
        String.toList_ofList
      rw [hspelling]
      exact scan_number decimal fun x hx => isNumberPart_eq_false_of_isBlank (hrest x hx)
  | mark mark =>
      refine ⟨mark.char, [], rfl, ?_, ?_⟩
      · cases mark <;> decide
      · rw [List.nil_append, scan, Mark.ofChar?_char]
        rfl

/-!
## Layouts

A layout is a list of lexemes, each with the gap in front of it. Gaps are blank, and there is one
between each two lexemes.
-/

abbrev Layout := List (List Char × Lexeme)

namespace Layout

def chars (last : List Char) : Layout → List Char
  | [] => last
  | (gap, lexeme) :: rest => gap ++ (lexeme.spelling ++ chars last rest)

def tokens (offset : Nat) : Layout → List Token
  | [] => []
  | (gap, lexeme) :: rest =>
    ⟨lexeme, ⟨offset + byteLength gap, byteLength lexeme.spelling⟩⟩ ::
      tokens (offset + byteLength gap + byteLength lexeme.spelling) rest

structure Separated (layout : Layout) : Prop where
  blank : ∀ entry ∈ layout, ∀ c ∈ entry.1, isBlank c = true
  gap : ∀ entry ∈ layout.tail, entry.1 ≠ []

theorem Separated.tail {entry : List Char × Lexeme} {layout : Layout}
    (h : Separated (entry :: layout)) : Separated layout := by
  constructor
  · intro entry' hentry
    exact h.blank entry' (List.mem_cons_of_mem _ hentry)
  · intro entry' hentry
    exact h.gap entry' (List.mem_of_mem_tail hentry)

theorem Separated.startsBlank {entry : List Char × Lexeme} {layout : Layout}
    (h : Separated (entry :: layout)) {last : List Char} (hlast : ∀ c ∈ last, isBlank c = true) :
    StartsBlank (layout.chars last) := by
  intro c hc
  cases layout with
  | nil => exact hlast c (List.mem_of_mem_head? hc)
  | cons next layout =>
      obtain ⟨gap, lexeme⟩ := next
      cases gap with
      | nil => exact absurd rfl (h.gap ([], lexeme) (by simp))
      | cons first gap =>
          cases hc
          exact h.blank (c :: gap, lexeme) (by simp) c (by simp)

end Layout

namespace Cursor

theorem skipBlanks_append {gap rest : List Char} (hgap : ∀ c ∈ gap, isBlank c = true)
    (hrest : ∀ c ∈ rest.head?, isBlank c = false) (offset : Nat) :
    (Cursor.mk offset (gap ++ rest)).skipBlanks = ⟨offset + byteLength gap, rest⟩ := by
  rcases Text.takeWhile_dropWhile_append hgap hrest with ⟨htake, hdrop⟩
  simp only [skipBlanks, htake, hdrop]

theorem next_of_scan {lexeme : Lexeme} {gap : List Char} {c : Char} {more rest : List Char}
    (hgap : ∀ d ∈ gap, isBlank d = true) (hsolid : isBlank c = false)
    (hscan : scan c (more ++ rest) = ⟨.ok lexeme, c :: more, rest⟩) (offset : Nat) :
    (Cursor.mk offset (gap ++ (c :: more ++ rest))).next =
      (.token ⟨lexeme, ⟨offset + byteLength gap, byteLength (c :: more)⟩⟩,
        ⟨offset + byteLength gap + byteLength (c :: more), rest⟩) := by
  have hstart : ∀ x ∈ (c :: (more ++ rest)).head?, isBlank x = false := by
    intro x hx
    cases hx
    exact hsolid
  rw [List.cons_append]
  simp only [next, skipBlanks_append hgap hstart, hscan]
  rfl

theorem next_spelling {lexeme : Lexeme} (h : lexeme.Spelled) {gap rest : List Char}
    (hgap : ∀ c ∈ gap, isBlank c = true) (hrest : StartsBlank rest) (offset : Nat) :
    (Cursor.mk offset (gap ++ (lexeme.spelling ++ rest))).next =
      (.token ⟨lexeme, ⟨offset + byteLength gap, byteLength lexeme.spelling⟩⟩,
        ⟨offset + byteLength gap + byteLength lexeme.spelling, rest⟩) := by
  rcases scan_spelling h hrest with ⟨c, more, hspelling, hsolid, hscan⟩
  rw [hspelling] at hscan ⊢
  exact next_of_scan hgap hsolid hscan offset

theorem next_blank {last : List Char} (hlast : ∀ c ∈ last, isBlank c = true) (offset : Nat) :
    (Cursor.mk offset last).next =
      (.finish ⟨offset + byteLength last, 0⟩, ⟨offset + byteLength last, []⟩) := by
  have hskip : (Cursor.mk offset last).skipBlanks = ⟨offset + byteLength last, []⟩ := by
    have happend : (Cursor.mk offset (last ++ [])).skipBlanks = ⟨offset + byteLength last, []⟩ :=
      skipBlanks_append hlast (by simp) offset
    rwa [List.append_nil] at happend
  simp only [next, hskip]

theorem tokens_eq (cursor : Cursor) :
    cursor.tokens =
      match cursor.next with
      | (.finish span, _) => ([], .ok span)
      | (.fault fault, _) => ([], .error fault)
      | (.token token, after) => (token :: after.tokens.1, after.tokens.2) := by
  rw [tokens]
  split
  all_goals
    rename_i hnext
    rw [hnext]

/-- A layout is scanned back, each lexeme at the place where it is written. -/
theorem tokens_layout {layout : Layout} (hspelled : ∀ entry ∈ layout, entry.2.Spelled)
    (hseparated : layout.Separated) {last : List Char} (hlast : ∀ c ∈ last, isBlank c = true)
    (offset : Nat) :
    (Cursor.mk offset (layout.chars last)).tokens =
      (layout.tokens offset, .ok ⟨offset + byteLength (layout.chars last), 0⟩) := by
  induction layout generalizing offset with
  | nil =>
      rw [Layout.chars, tokens_eq, next_blank hlast offset]
      rfl
  | cons entry layout ih =>
      obtain ⟨gap, lexeme⟩ := entry
      have hnext := next_spelling (hspelled (gap, lexeme) (by simp))
        (hseparated.blank (gap, lexeme) (by simp)) (hseparated.startsBlank hlast) offset
      rw [Layout.chars, tokens_eq, hnext]
      simp only [ih (fun entry hentry => hspelled entry (by simp [hentry])) hseparated.tail,
        Layout.tokens, byteLength_append, Nat.add_assoc]

end Cursor

end Declarative
end TableQuery
