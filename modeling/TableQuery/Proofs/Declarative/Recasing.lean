import TableQuery.Proofs.Declarative.Scanning

/-!
# Letters in another case

A letter in another case takes as many bytes and belongs to the same classes of characters. So a
text whose words are written with some letters in another case has its tokens at the same places,
and each token but these words is what it was.
-/

namespace TableQuery

open Text (isBlank)

/-!
## Characters

Letters of ASCII have another case, and all other characters have none.
-/

namespace Text

def flipCase (c : Char) : Char :=
  if 0x41 ≤ c.toNat ∧ c.toNat ≤ 0x5A then .ofNat (c.toNat + 0x20)
  else if 0x61 ≤ c.toNat ∧ c.toNat ≤ 0x7A then .ofNat (c.toNat - 0x20)
  else c

end Text

namespace Declarative

open Text (flipCase)

/-- Two characters that are one letter, take as many bytes and can stand in the same lexemes. -/
structure SameLetter (c d : Char) : Prop where
  lower : d.toLower = c.toLower
  size : d.utf8Size = c.utf8Size
  wordStart : isWordStart d = isWordStart c
  wordPart : isWordPart d = isWordPart c
  numberPart : isNumberPart d = isNumberPart c
  blank : isBlank d = isBlank c

instance (c d : Char) : Decidable (SameLetter c d) :=
  decidable_of_iff (d.toLower = c.toLower ∧ d.utf8Size = c.utf8Size ∧
      isWordStart d = isWordStart c ∧ isWordPart d = isWordPart c ∧
      isNumberPart d = isNumberPart c ∧ isBlank d = isBlank c)
    ⟨fun ⟨hlower, hsize, hstart, hpart, hnumber, hblank⟩ =>
        ⟨hlower, hsize, hstart, hpart, hnumber, hblank⟩,
      fun ⟨hlower, hsize, hstart, hpart, hnumber, hblank⟩ =>
        ⟨hlower, hsize, hstart, hpart, hnumber, hblank⟩⟩

theorem sameLetter_flipCase (c : Char) : SameLetter c (flipCase c) := by
  have hletters : ∀ k < 26, SameLetter (.ofNat (0x41 + k)) (.ofNat (0x41 + k + 0x20)) ∧
      SameLetter (.ofNat (0x61 + k)) (.ofNat (0x61 + k - 0x20)) := by
    decide +kernel
  unfold flipCase
  split
  · next hupper =>
      have hletter := (hletters (c.toNat - 0x41) (by omega)).1
      rwa [Nat.add_sub_cancel' hupper.1, Char.ofNat_toNat] at hletter
  · split
    · next hlower =>
        have hletter := (hletters (c.toNat - 0x61) (by omega)).2
        rwa [Nat.add_sub_cancel' hlower.1, Char.ofNat_toNat] at hletter
    · exact ⟨rfl, rfl, rfl, rfl, rfl, rfl⟩

section

variable (chosen : List Nat) (offset : Nat)

theorem byteLength_recased (cs : List Char) :
    byteLength (changedFrom flipCase chosen offset cs) = byteLength cs := by
  induction cs generalizing offset with
  | nil => rfl
  | cons c cs ih =>
      rw [changedFrom, byteLength_cons, byteLength_cons, ih]
      split
      · rw [(sameLetter_flipCase c).size]
      · rfl

theorem map_toLower_recased (cs : List Char) :
    (changedFrom flipCase chosen offset cs).map Char.toLower = cs.map Char.toLower := by
  induction cs generalizing offset with
  | nil => rfl
  | cons c cs ih =>
      rw [changedFrom, List.map_cons, List.map_cons, ih]
      split
      · rw [(sameLetter_flipCase c).lower]
      · rfl

theorem toLower_recased (name : String) :
    (String.ofList (changedFrom flipCase chosen offset name.toList)).toLower = name.toLower := by
  have hlower : ∀ text : String, text.toLower.toList = text.toList.map Char.toLower :=
    fun _ => String.toList_map
  apply String.toList_injective
  rw [hlower, hlower, String.toList_ofList, map_toLower_recased]

theorem StopsAt.recased {p : Char → Bool} (hp : ∀ c, p (flipCase c) = p c) {cs : List Char}
    (h : StopsAt p cs) : StopsAt p (changedFrom flipCase chosen offset cs) := by
  cases cs with
  | nil => exact h
  | cons c cs =>
      intro d hd
      have hfirst := h c rfl
      cases hd
      split
      · rw [hp, hfirst]
      · exact hfirst

theorem all_recased {p : Char → Bool} (hp : ∀ c, p (flipCase c) = p c) (cs : List Char) :
    (changedFrom flipCase chosen offset cs).all p = cs.all p := by
  induction cs generalizing offset with
  | nil => rfl
  | cons c cs ih =>
      rw [changedFrom, List.all_cons, List.all_cons, ih]
      split
      · rw [hp]
      · rfl

theorem isWord_recased {name : String} (h : isWord name = true) :
    isWord (.ofList (changedFrom flipCase chosen offset name.toList)) = true := by
  rw [isWord] at h ⊢
  rw [String.toList_ofList]
  cases hname : name.toList with
  | nil =>
      rw [hname] at h
      cases h
  | cons c rest =>
      rw [hname] at h
      simp only [Bool.and_eq_true] at h
      simp only [changedFrom, all_recased _ _ fun c => (sameLetter_flipCase c).wordPart,
        Bool.and_eq_true]
      refine ⟨?_, h.2⟩
      split
      · rw [(sameLetter_flipCase c).wordStart, h.1]
      · exact h.1

end

/-!
## Tokens

A word says the same word in other letters. All other pieces have to stay as they are.
-/

def Token.recased (chosen : List Nat) (token : Token) : Token :=
  match token.lexeme with
  | .word name =>
    ⟨.word (.ofList (changedFrom flipCase chosen token.span.offset name.toList)), token.span⟩
  | _ => token

theorem Token.recased_eq (chosen : List Nat) (token : Token) :
    token.recased chosen = ⟨(token.recased chosen).lexeme, token.span⟩ := by
  obtain ⟨lexeme, span⟩ := token
  cases lexeme <;> rfl

def InWords (chosen : List Nat) (offset : Nat) (tokens : List Token) : Prop :=
  ∀ position ∈ chosen, offset ≤ position →
    ∃ token ∈ tokens, token.span.Covers position ∧ ∃ name, token.lexeme = .word name

theorem Says.recased {lexeme : Lexeme} {piece behind : List Char}
    (h : Says (.ok lexeme) piece behind) {chosen : List Nat} {offset : Nat}
    (hpiece : (∃ name, lexeme = .word name) ∨ changedFrom flipCase chosen offset piece = piece) :
    Says (.ok (Token.recased chosen ⟨lexeme, ⟨offset, byteLength piece⟩⟩).lexeme)
      (changedFrom flipCase chosen offset piece)
      (changedFrom flipCase chosen (offset + byteLength piece) behind) := by
  have hsame : (∀ name, lexeme ≠ .word name) →
      changedFrom flipCase chosen offset piece = piece := by
    intro hlexeme
    rcases hpiece with ⟨name, hname⟩ | hpiece
    · exact absurd hname (hlexeme name)
    · exact hpiece
  cases h with
  | mark mark =>
      rw [hsame fun _ => Lexeme.noConfusion]
      exact .mark mark _
  | @word name _ hname hstops =>
      have hword := Says.word (isWord_recased chosen offset hname)
        (hstops.recased chosen (offset + byteLength name.toList)
          fun c => (sameLetter_flipCase c).wordPart)
      rwa [String.toList_ofList] at hword
  | number hliteral hvalue hstops =>
      rw [hsame fun _ => Lexeme.noConfusion]
      exact .number hliteral hvalue
        (hstops.recased _ _ fun c => (sameLetter_flipCase c).numberPart)
  | text hbody =>
      rw [hsame fun _ => Lexeme.noConfusion]
      exact .text hbody _

namespace Scans

variable {offset : Nat} {cs : List Char} {tokens : List Token} {chosen : List Nat}

theorem recased (h : Scans offset cs tokens) (hchosen : InWords chosen offset tokens) :
    Scans offset (changedFrom flipCase chosen offset cs) (tokens.map (Token.recased chosen)) := by
  induction h with
  | @blank offset cs hblank =>
      rw [changedFrom_eq_self]
      · exact .blank hblank
      · intro position hmem hle
        rcases hchosen position hmem hle with ⟨token, htoken, _⟩
        cases htoken
  | @token offset gap c more behind lexeme tokens hgap hsolid hsaid hbehind ih =>
      have hlater := hbehind.offset_le
      -- A chosen offset lies in the first token, or it lies behind the whole piece.
      have hplace : ∀ position ∈ chosen, offset ≤ position →
          (offset + byteLength gap ≤ position ∧ ∃ name, lexeme = .word name) ∨
            offset + byteLength gap + byteLength (c :: more) ≤ position := by
        intro position hmem hle
        rcases hchosen position hmem hle with ⟨token, htoken, hcovers, hword⟩
        rcases List.mem_cons.mp htoken with rfl | hrest
        · exact Or.inl ⟨hcovers.1, hword⟩
        · exact Or.inr (Nat.le_trans (hlater token hrest) hcovers.1)
      have hrest : InWords chosen (offset + byteLength gap + byteLength (c :: more)) tokens := by
        intro position hmem hle
        rcases hchosen position hmem (by omega) with ⟨token, htoken, hcovers, hword⟩
        rcases List.mem_cons.mp htoken with rfl | hrest
        · have hstop := hcovers.2
          simp only [Span.stop] at hstop
          omega
        · exact ⟨token, hrest, hcovers, hword⟩
      have hgapSame : changedFrom flipCase chosen offset gap = gap := by
        apply changedFrom_eq_self
        intro position hmem hle
        rcases hplace position hmem hle with ⟨hbehindGap, _⟩ | hbehindPiece
        · exact hbehindGap
        · omega
      have hpiece : (∃ name, lexeme = .word name) ∨
          changedFrom flipCase chosen (offset + byteLength gap) (c :: more) = c :: more := by
        by_cases hword : ∃ name, lexeme = .word name
        · exact Or.inl hword
        · refine Or.inr (changedFrom_eq_self _ fun position hmem hle => ?_)
          rcases hplace position hmem (by omega) with ⟨_, hname⟩ | hbehindPiece
          · exact absurd hname hword
          · exact hbehindPiece
      have hlexeme := hsaid.recased hpiece
      have hlength := byteLength_recased chosen (offset + byteLength gap) (c :: more)
      rw [changedFrom] at hlexeme hlength
      have hsolid' :
          isBlank (if offset + byteLength gap ∈ chosen then flipCase c else c) = false := by
        split
        · rw [(sameLetter_flipCase c).blank, hsolid]
        · exact hsolid
      have hscans := Scans.token hgap hsolid' hlexeme (by rw [hlength]; exact ih hrest)
      rw [hlength] at hscans
      rw [changedFrom_append, hgapSame, changedFrom_append, List.map_cons, Token.recased_eq]
      exact hscans

theorem length_word (h : Scans offset cs tokens) :
    ∀ token ∈ tokens, ∀ name, token.lexeme = .word name →
      token.span.length = byteLength name.toList := by
  induction h with
  | blank => exact List.forall_mem_nil _
  | @token offset gap c more behind lexeme tokens _ _ hsaid _ ih =>
      rw [List.forall_mem_cons]
      refine ⟨fun name hname => ?_, ih⟩
      simp only at hname
      subst hname
      generalize c :: more = piece at hsaid
      cases hsaid with
      | word _ _ => rfl

end Scans

/-!
## Texts
-/

def recased (chosen : List Nat) (text : String) : String :=
  .ofList (changedFrom flipCase chosen 0 text.toList)

theorem tokens_recased {text : String} {span : Span} {chosen : List Nat}
    (hending : (Cursor.ofText text).tokens.2 = .ok span)
    (hchosen : InWords chosen 0 (Cursor.ofText text).tokens.1) :
    (Cursor.ofText (recased chosen text)).tokens.1 =
        (Cursor.ofText text).tokens.1.map (Token.recased chosen) ∧
      ∃ span, (Cursor.ofText (recased chosen text)).tokens.2 = .ok span := by
  have htokens := ((Scans.of_tokens hending).recased hchosen).tokens_eq
  have htext : Cursor.ofText (recased chosen text) =
      ⟨0, changedFrom flipCase chosen 0 text.toList⟩ := by
    rw [Cursor.ofText, recased, String.toList_ofList]
  rw [htext]
  exact ⟨congrArg Prod.fst htokens, _, congrArg Prod.snd htokens⟩

end Declarative
end TableQuery
