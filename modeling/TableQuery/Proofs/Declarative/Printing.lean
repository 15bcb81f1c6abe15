import TableQuery.Proofs.Declarative.ViablePrefix

/-!
# Printing tokens

A list of lexemes that is printed with blanks between them is scanned back item by item. Each item is
the lexeme that was printed, at the place where it was printed, and behind the last one every item is
the end of the text.
-/

namespace TableQuery
namespace Declarative

open Text (isBlank)

/-- A lexeme that printing keeps: a word is one, and a number is written in plain notation and is not a
zero with a sign. -/
def Lexeme.Canonical : Lexeme → Prop
  | word name => isWord name = true
  | text _ => True
  | number literal value => literal = value.text ∧ (value.negative = true → value.magnitude ≠ 0)
  | mark _ => True

instance : (lexeme : Lexeme) → Decidable lexeme.Canonical
  | .word name => inferInstanceAs (Decidable (isWord name = true))
  | .text _ => .isTrue trivial
  | .number literal value =>
    inferInstanceAs
      (Decidable (literal = value.text ∧ (value.negative = true → value.magnitude ≠ 0)))
  | .mark _ => .isTrue trivial

theorem Lexeme.Canonical.spelled {lexeme : Lexeme} (h : lexeme.Canonical) : lexeme.Spelled := by
  cases lexeme with
  | word name => exact h
  | text content => trivial
  | number literal value => exact ⟨value, h.1, (Decimal.signless_eq_self h.2).symm⟩
  | mark mark => trivial

namespace Layout

def text (last : List Char) (layout : Layout) : String :=
  .ofList (layout.chars last)

theorem toList_text (last : List Char) (layout : Layout) :
    (layout.text last).toList = layout.chars last :=
  String.toList_ofList

theorem chars_append (last : List Char) (front back : Layout) :
    chars last (front ++ back) = chars (chars last back) front := by
  induction front with
  | nil => rfl
  | cons entry front ih =>
      obtain ⟨gap, lexeme⟩ := entry
      rw [List.cons_append, chars, chars, ih]

theorem chars_last (gap rest : List Char) (layout : Layout) :
    chars (gap ++ rest) layout = chars gap layout ++ rest := by
  induction layout with
  | nil => rfl
  | cons entry layout ih =>
      obtain ⟨front, lexeme⟩ := entry
      rw [chars, chars, ih, List.append_assoc, List.append_assoc]

theorem chars_split (last : List Char) (front : Layout) (gap : List Char) (lexeme : Lexeme)
    (back : Layout) :
    chars last (front ++ (gap, lexeme) :: back) =
      front.chars gap ++ (lexeme.spelling ++ back.chars last) := by
  rw [chars_append, chars, chars_last]

theorem length_tokens (offset : Nat) (layout : Layout) :
    (layout.tokens offset).length = layout.length := by
  induction layout generalizing offset with
  | nil => rfl
  | cons entry layout ih =>
      obtain ⟨gap, lexeme⟩ := entry
      rw [tokens, List.length_cons, List.length_cons, ih]

theorem getElem?_tokens (offset : Nat) (front : Layout) (gap : List Char) (lexeme : Lexeme)
    (back : Layout) :
    (tokens offset (front ++ (gap, lexeme) :: back))[front.length]? =
      some ⟨lexeme, ⟨offset + byteLength (front.chars gap), byteLength lexeme.spelling⟩⟩ := by
  induction front generalizing offset with
  | nil => rfl
  | cons entry front ih =>
      obtain ⟨ahead, first⟩ := entry
      rw [List.cons_append, tokens, List.length_cons, List.getElem?_cons_succ, ih, chars,
        byteLength_append, byteLength_append, Nat.add_assoc, Nat.add_assoc]

end Layout

namespace Cursor

theorem Ended.of_item_eq_finish {cursor : Cursor} {n : Nat} {span : Span}
    (h : cursor.item n = .finish span) : (cursor.after n).Ended := by
  rw [Cursor.item] at h
  rcases (cursor.after n).next_cases with ⟨hblank, _⟩ | ⟨_, _, _, _, outcome, _, _, _, _, hnext⟩
  · exact hblank
  · rw [hnext] at h
    cases outcome <;> cases h

/-- Printed lexemes are scanned back, each at its place, and behind them the text ends. -/
theorem item_printed {layout : Layout} {last : List Char}
    (hcanonical : ∀ entry ∈ layout, entry.2.Canonical) (hseparated : layout.Separated)
    (hlast : ∀ c ∈ last, isBlank c = true) :
    (∀ (front : Layout) gap lexeme (back : Layout), layout = front ++ (gap, lexeme) :: back →
      (layout.text last).toList = front.chars gap ++ (lexeme.spelling ++ back.chars last) ∧
      (ofText (layout.text last)).item front.length =
        .token ⟨lexeme, ⟨byteLength (front.chars gap), byteLength lexeme.spelling⟩⟩) ∧
    ∀ n, layout.length ≤ n →
      (ofText (layout.text last)).item n = .finish ⟨(layout.text last).utf8ByteSize, 0⟩ := by
  have htokens : (ofText (layout.text last)).tokens =
      (layout.tokens 0, .ok ⟨0 + byteLength (layout.chars last), 0⟩) := by
    rw [ofText, Layout.toList_text]
    exact tokens_layout (fun entry hentry => (hcanonical entry hentry).spelled) hseparated hlast 0
  constructor
  · rintro front gap lexeme back rfl
    refine ⟨?_, item_of_getElem?_tokens ?_⟩
    · rw [Layout.toList_text, Layout.chars_split]
    · rw [htokens, Layout.getElem?_tokens, Nat.zero_add]
  · intro n hn
    have hfinish := item_length_tokens (ofText (layout.text last))
    rw [htokens, Layout.length_tokens] at hfinish
    exact ((Ended.of_item_eq_finish hfinish).after hn).item

/-- A word with letters that are not ASCII, a mark, a text with characters that are escaped, and a number
with a sign and a last zero. -/
def mixedLayout : Layout :=
  [([], .word "größe_1"), ([' '], .mark .colon), (['\n', '\t'], .text "a\"\\\né"),
    ([' '], .number "-0.050" ⟨true, 50, 3, by decide, by decide⟩)]

theorem item_printed_mixed :
    mixedLayout.text [' '] = "größe_1 :\n\t\"a\\\"\\\\\né\" -0.050 " ∧
      (ofText (mixedLayout.text [' '])).item 2 = .token ⟨.text "a\"\\\né", ⟨13, 10⟩⟩ ∧
      (ofText (mixedLayout.text [' '])).item 3 =
        .token ⟨.number "-0.050" ⟨true, 50, 3, by decide, by decide⟩, ⟨24, 6⟩⟩ ∧
      (ofText (mixedLayout.text [' '])).item 4 = .finish ⟨31, 0⟩ := by
  have hcanonical : ∀ entry ∈ mixedLayout, entry.2.Canonical := by
    decide +kernel
  have hblank : (mixedLayout.all fun entry => entry.1.all isBlank) = true := by
    decide
  have hseparated : mixedLayout.Separated := by
    constructor
    · intro entry hentry
      exact List.all_eq_true.mp (List.all_eq_true.mp hblank entry hentry)
    · decide
  have hlast : ∀ c ∈ [' '], isBlank c = true := List.forall_mem_singleton.mpr (by decide)
  have hitems := item_printed hcanonical hseparated hlast
  refine ⟨by decide, ?_, ?_, ?_⟩
  · exact (hitems.1 (mixedLayout.take 2) _ _ (mixedLayout.drop 3) rfl).2
  · exact (hitems.1 (mixedLayout.take 3) _ _ [] rfl).2
  · exact hitems.2 4 (by decide)

end Cursor

end Declarative
end TableQuery
