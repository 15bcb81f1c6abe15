import TableQuery.Proofs.Declarative.Partition

/-!
# Scanning as a relation

A text that is scanned to its end without a fault is made of pieces with blanks between them, and each
piece says its token. Seen as a relation between the characters and the tokens, scanning is local: some
tokens in a row are scanned from the characters between the first and the last of them alone, wherever
these characters stand.
-/

namespace TableQuery

def Span.moved (distance : Nat) (span : Span) : Span :=
  ⟨distance + span.offset, span.length⟩

namespace Declarative

open Text (isBlank)

/-!
## Pieces

A piece is scanned by itself. What stands behind it only counts where the piece ends.
-/

theorem isWord_cons {c : Char} {more : List Char} {name : String} (hname : name.toList = c :: more)
    (h : isWord name = true) : isWordStart c = true ∧ ∀ x ∈ more, isWordPart x = true := by
  simpa [isWord, hname] using h

theorem isNumeral_cons {c : Char} {more : List Char} {literal : String}
    (hliteral : literal.toList = c :: more) (h : isNumeral literal = true) :
    isNumberStart c = true ∧ ∀ x ∈ more, isNumberPart x = true := by
  simpa [isNumeral, hliteral] using h

theorem Says.scan {lexeme : Lexeme} {c : Char} {more behind : List Char}
    (h : Says (.ok lexeme) (c :: more) behind) :
    Declarative.scan c (more ++ behind) = ⟨.ok lexeme, c :: more, behind⟩ := by
  generalize hpiece : c :: more = piece at h
  cases h with
  | mark mark =>
      cases hpiece
      rw [List.nil_append, Declarative.scan, Mark.ofChar?_char]
  | @word name _ hname hstops =>
      rcases isWord_cons hpiece.symm hname with ⟨hstart, hparts⟩
      rw [scan_wordChars hstart hparts hstops, hpiece, String.ofList_toList]
  | @number literal value _ hliteral hvalue hstops =>
      rcases isNumeral_cons hpiece.symm hliteral with ⟨hstart, hparts⟩
      rw [← hpiece] at hvalue
      rw [scan_numberChars hstart hparts hstops hvalue, hpiece, String.ofList_toList]
  | @text content body hbody =>
      cases hpiece
      have hread := TextBody.read?_of_unescapes hbody behind
      have hmark : Mark.ofChar? '"' = none := rfl
      rw [List.append_assoc, List.singleton_append]
      simp only [Declarative.scan, hmark, if_true, scanText, hread, String.ofList_toList]

/-- A text that can stand behind a piece in the place of another one: it ends, or it starts with a blank
or in the same way. -/
def Replaces (behind other : List Char) : Prop :=
  ∀ c ∈ other.head?, isBlank c = true ∨ c ∈ behind.head?

theorem Replaces.of_isPrefix {behind front : List Char} (h : front <+: behind) :
    Replaces behind front := by
  intro c hc
  rcases h with ⟨rest, rfl⟩
  rw [List.head?_append, Option.mem_def.mp hc]
  exact Or.inr rfl

theorem Replaces.of_blank {gap : List Char} (h : ∀ c ∈ gap, isBlank c = true)
    (behind rest : List Char) : Replaces behind (gap ++ ' ' :: rest) := by
  intro c hc
  cases gap with
  | nil =>
      cases hc
      exact Or.inl (by decide)
  | cons d gap =>
      cases hc
      exact Or.inl (h _ List.mem_cons_self)

theorem Replaces.append (front : List Char) {behind other : List Char} (h : Replaces behind other) :
    Replaces (front ++ behind) (front ++ other) := by
  cases front with
  | nil => exact h
  | cons c front => exact fun _ hd => Or.inr hd

theorem StopsAt.replace {p : Char → Bool} (hp : ∀ c, isBlank c = true → p c = false)
    {behind other : List Char} (h : StopsAt p behind) (hother : Replaces behind other) :
    StopsAt p other := by
  intro c hc
  rcases hother c hc with hblank | hsame
  · exact hp c hblank
  · exact h c hsame

theorem Says.replace {lexeme : Lexeme} {piece behind other : List Char}
    (h : Says (.ok lexeme) piece behind) (hother : Replaces behind other) :
    Says (.ok lexeme) piece other := by
  cases h with
  | mark mark => exact .mark mark other
  | word hname hstops =>
      exact .word hname (hstops.replace (fun _ => isWordPart_eq_false_of_isBlank) hother)
  | number hliteral hvalue hstops =>
      exact .number hliteral hvalue
        (hstops.replace (fun _ => isNumberPart_eq_false_of_isBlank) hother)
  | text hbody => exact .text hbody other

/-!
## Texts
-/

/-- The characters at an offset are scanned as tokens, and nothing else is there but blanks. -/
inductive Scans : Nat → List Char → List Token → Prop where
  | blank {offset : Nat} {cs : List Char} (h : ∀ c ∈ cs, isBlank c = true) : Scans offset cs []
  | token {offset : Nat} {gap : List Char} {c : Char} {more behind : List Char} {lexeme : Lexeme}
    {tokens : List Token} (hgap : ∀ d ∈ gap, isBlank d = true) (hsolid : isBlank c = false)
    (hsaid : Says (.ok lexeme) (c :: more) behind)
    (h : Scans (offset + byteLength gap + byteLength (c :: more)) behind tokens) :
    Scans offset (gap ++ (c :: more ++ behind))
      (⟨lexeme, ⟨offset + byteLength gap, byteLength (c :: more)⟩⟩ :: tokens)

namespace Scans

variable {offset : Nat} {cs : List Char} {tokens : List Token}

theorem tokens_eq (h : Scans offset cs tokens) :
    (Cursor.mk offset cs).tokens = (tokens, .ok ⟨offset + byteLength cs, 0⟩) := by
  induction h with
  | blank hblank => rw [Cursor.tokens_eq, Cursor.next_blank hblank]
  | @token offset gap c more behind lexeme tokens hgap hsolid hsaid _ ih =>
      rw [Cursor.tokens_eq, Cursor.next_of_scan hgap hsolid hsaid.scan offset]
      simp only [ih]
      simp only [byteLength_append, Nat.add_assoc]

theorem of_tokens {cursor : Cursor} {span : Span} (h : cursor.tokens.2 = .ok span) :
    Scans cursor.offset cursor.rest cursor.tokens.1 := by
  rw [Cursor.tokens_eq] at h ⊢
  rcases cursor.next_cases with
    ⟨hblank, hnext⟩ | ⟨gap, c, more, behind, outcome, hrest, hgap, hsolid, hsaid, hnext⟩
  · rw [hnext]
    exact .blank hblank
  · rw [hnext] at h ⊢
    cases outcome with
    | error cause => cases h
    | ok lexeme =>
        have hshorter : behind.length < cursor.rest.length := by
          simp only [hrest, List.length_append, List.length_cons]
          omega
        rw [hrest]
        exact .token hgap hsolid hsaid (of_tokens h)
termination_by cursor.rest.length

end Scans

/-!
## Some tokens in a row

Some tokens of a text can be taken out of it even if there is a fault behind them.
-/

/-- The characters at an offset are scanned as tokens, up to the end of the last one, in front of other
characters. -/
inductive Leads : Nat → List Char → List Token → List Char → Prop where
  | nil (offset : Nat) (behind : List Char) : Leads offset [] [] behind
  | token {offset : Nat} {gap : List Char} {c : Char} {more front behind : List Char}
    {lexeme : Lexeme} {tokens : List Token} (hgap : ∀ d ∈ gap, isBlank d = true)
    (hsolid : isBlank c = false) (hsaid : Says (.ok lexeme) (c :: more) (front ++ behind))
    (h : Leads (offset + byteLength gap + byteLength (c :: more)) front tokens behind) :
    Leads offset (gap ++ (c :: more ++ front))
      (⟨lexeme, ⟨offset + byteLength gap, byteLength (c :: more)⟩⟩ :: tokens) behind

namespace Leads

variable {offset : Nat} {front behind : List Char} {tokens : List Token}

theorem tokens_eq (h : Leads offset front tokens behind) :
    (Cursor.mk offset (front ++ behind)).tokens =
      (tokens ++ (Cursor.mk (offset + byteLength front) behind).tokens.1,
        (Cursor.mk (offset + byteLength front) behind).tokens.2) := by
  induction h with
  | nil offset behind => rfl
  | @token offset gap c more front behind lexeme tokens hgap hsolid hsaid _ ih =>
      have hlength : offset + byteLength (gap ++ (c :: more ++ front)) =
          offset + byteLength gap + byteLength (c :: more) + byteLength front := by
        rw [byteLength_append, byteLength_append, ← Nat.add_assoc, ← Nat.add_assoc]
      rw [hlength, List.append_assoc, List.append_assoc, Cursor.tokens_eq,
        Cursor.next_of_scan hgap hsolid hsaid.scan offset]
      simp only [ih]
      rfl

theorem replace (h : Leads offset front tokens behind) {other : List Char}
    (hother : Replaces behind other) : Leads offset front tokens other := by
  induction h with
  | nil offset behind => exact .nil offset other
  | token hgap hsolid hsaid _ ih =>
      exact .token hgap hsolid (hsaid.replace (hother.append _)) (ih hother)

theorem scans (h : Leads offset front tokens behind) : Scans offset front tokens := by
  induction h with
  | nil offset behind => exact .blank (List.forall_mem_nil _)
  | token hgap hsolid hsaid _ ih =>
      exact .token hgap hsolid (hsaid.replace (.of_isPrefix (List.prefix_append _ _))) ih

theorem strip {token : Token} (h : Leads offset front (token :: tokens) behind) :
    ∃ gap rest, front = gap ++ rest ∧ (∀ c ∈ gap, isBlank c = true) ∧
      Leads (offset + byteLength gap) rest (token :: tokens) behind ∧
      token.span.offset = offset + byteLength gap := by
  cases h with
  | @token _ gap c more front _ _ _ hgap hsolid hsaid hfront =>
      refine ⟨gap, c :: more ++ front, rfl, hgap, ?_, rfl⟩
      exact @token (offset + byteLength gap) [] c more front behind _ _ (List.forall_mem_nil _)
        hsolid hsaid hfront

theorem stop_last (h : Leads offset front tokens behind) {last : Token}
    (hlast : tokens.getLast? = some last) : last.span.stop = offset + byteLength front := by
  induction h with
  | nil => cases hlast
  | @token offset gap c more front behind lexeme tokens _ _ _ hfront ih =>
      rw [List.getLast?_cons, Option.some.injEq] at hlast
      cases hrest : tokens.getLast? with
      | none =>
          rw [List.getLast?_eq_none_iff.mp hrest] at hfront
          cases hfront
          rw [hrest] at hlast
          subst hlast
          simp [Span.stop, Nat.add_assoc]
      | some found =>
          rw [hrest] at hlast
          subst hlast
          rw [ih hrest]
          simp only [byteLength_append, Nat.add_assoc]

end Leads

namespace Cursor

theorem exists_leads {cursor : Cursor} {before behind : List Token}
    (h : cursor.tokens.1 = before ++ behind) :
    ∃ front back, cursor.rest = front ++ back ∧ Leads cursor.offset front before back ∧
      (Cursor.mk (cursor.offset + byteLength front) back).tokens = (behind, cursor.tokens.2) := by
  induction before generalizing cursor with
  | nil => exact ⟨[], cursor.rest, rfl, .nil _ _, Prod.ext h rfl⟩
  | cons token before ih =>
      rw [Cursor.tokens_eq] at h ⊢
      rcases cursor.next_cases with
        ⟨_, hnext⟩ | ⟨gap, c, more, left, outcome, hrest, hgap, hsolid, hsaid, hnext⟩
      · rw [hnext] at h
        cases h
      · rw [hnext] at h ⊢
        cases outcome with
        | error cause => cases h
        | ok lexeme =>
            simp only [Item.ofOutcome, List.cons_append, List.cons.injEq] at h
            rcases h with ⟨rfl, htokens⟩
            rcases ih htokens with ⟨front, back, rfl, hfront, hback⟩
            refine ⟨gap ++ (c :: more ++ front), back, ?_, .token hgap hsolid hsaid hfront, ?_⟩
            · rw [hrest, List.append_assoc, List.append_assoc]
            · rw [byteLength_append, byteLength_append, ← Nat.add_assoc, ← Nat.add_assoc]
              exact hback

end Cursor

theorem Scans.exists_leads {offset : Nat} {cs : List Char} {tokens : List Token}
    (h : Scans offset cs tokens) :
    ∃ front gap, cs = front ++ gap ∧ (∀ c ∈ gap, isBlank c = true) ∧
      Leads offset front tokens gap := by
  have htokens := h.tokens_eq
  have hall : (Cursor.mk offset cs).tokens.1 = tokens ++ [] := by
    rw [htokens, List.append_nil]
  rcases Cursor.exists_leads hall with ⟨front, gap, hcs, hleads, hgap⟩
  refine ⟨front, gap, hcs, ?_, hleads⟩
  rw [htokens] at hgap
  have hblank := Scans.of_tokens (congrArg Prod.snd hgap)
  rw [hgap] at hblank
  cases hblank with
  | blank h => exact h

namespace Cursor

theorem exists_slice {cursor : Cursor} {before tokens behind : List Token}
    (h : cursor.tokens.1 = before ++ (tokens ++ behind)) {first last : Token}
    (hfirst : tokens.head? = some first) (hlast : tokens.getLast? = some last) :
    ∃ front gap piece back, cursor.rest = front ++ (gap ++ (piece ++ back)) ∧
      (∀ c ∈ gap, isBlank c = true) ∧
      Leads cursor.offset front before (gap ++ (piece ++ back)) ∧
      Leads (cursor.offset + byteLength (front ++ gap)) piece tokens back ∧
      (Cursor.mk (cursor.offset + byteLength (front ++ (gap ++ piece))) back).tokens =
        (behind, cursor.tokens.2) ∧
      first.span.offset = cursor.offset + byteLength (front ++ gap) ∧
      last.span.stop = cursor.offset + byteLength (front ++ (gap ++ piece)) := by
  rcases exists_leads h with ⟨front, rest, hrest, hfront, hmiddle⟩
  rcases exists_leads (congrArg Prod.fst hmiddle) with ⟨gapped, back, rfl, hgapped, hback⟩
  have hstop := hgapped.stop_last hlast
  rcases List.head?_eq_some_iff.mp hfirst with ⟨more, rfl⟩
  rcases hgapped.strip with ⟨gap, piece, rfl, hgap, hpiece, hoffset⟩
  rw [List.append_assoc] at hrest hfront
  simp only [hmiddle, byteLength_append, Nat.add_assoc] at hback hpiece hoffset hstop ⊢
  exact ⟨front, gap, piece, back, hrest, hgap, hfront, hpiece, hback, hoffset, hstop⟩

end Cursor

/-!
## Places of tokens

The tokens of a text are not empty and stand one behind the other. The same characters give the same
tokens wherever they stand, moved by the difference of the offsets.
-/

def Token.mapSpan (f : Span → Span) (token : Token) : Token :=
  ⟨token.lexeme, f token.span⟩

structure Ordered (tokens : List Token) : Prop where
  solid : ∀ token ∈ tokens, token.span.offset < token.span.stop
  apart : tokens.Pairwise fun front back => front.span.stop ≤ back.span.offset

theorem Ordered.narrow {tokens more : List Token} (h : Ordered more) (hpart : tokens <:+: more) :
    Ordered tokens :=
  ⟨fun token htoken => h.solid token (hpart.subset htoken), h.apart.sublist hpart.sublist⟩

namespace Scans

variable {offset : Nat} {cs : List Char} {tokens : List Token}

theorem offset_le (h : Scans offset cs tokens) : ∀ token ∈ tokens, offset ≤ token.span.offset := by
  induction h with
  | blank => exact List.forall_mem_nil _
  | token _ _ _ _ ih =>
      rw [List.forall_mem_cons]
      refine ⟨Nat.le_add_right _ _, fun token htoken => ?_⟩
      have hle := ih token htoken
      omega

theorem stop_le (h : Scans offset cs tokens) :
    ∀ token ∈ tokens, token.span.stop ≤ offset + byteLength cs := by
  induction h with
  | blank => exact List.forall_mem_nil _
  | token _ _ _ _ ih =>
      rw [List.forall_mem_cons]
      simp only [byteLength_append]
      constructor
      · simp only [Span.stop]
        omega
      · intro token htoken
        have hle := ih token htoken
        omega

theorem ordered (h : Scans offset cs tokens) : Ordered tokens := by
  induction h with
  | blank => exact ⟨List.forall_mem_nil _, .nil⟩
  | @token offset gap c more behind lexeme tokens _ _ _ hbehind ih =>
      have hsize := c.utf8Size_pos
      constructor
      · rw [List.forall_mem_cons]
        refine ⟨?_, ih.solid⟩
        simp only [Span.stop, byteLength_cons]
        omega
      · exact .cons hbehind.offset_le ih.apart

theorem exists_unmoved {distance : Nat} (h : Scans (distance + offset) cs tokens) :
    ∃ unmoved, Scans offset cs unmoved ∧
      unmoved.map (Token.mapSpan (Span.moved distance)) = tokens := by
  generalize hstart : distance + offset = start at h
  induction h generalizing offset with
  | blank hblank => exact ⟨[], .blank hblank, rfl⟩
  | @token start gap c more behind lexeme tokens hgap hsolid hsaid _ ih =>
      have hbehind : distance + (offset + byteLength gap + byteLength (c :: more)) =
          start + byteLength gap + byteLength (c :: more) := by
        rw [← hstart, Nat.add_assoc, Nat.add_assoc, Nat.add_assoc]
      rcases ih hbehind with ⟨unmoved, hscans, hmoved⟩
      refine ⟨_, .token hgap hsolid hsaid hscans, ?_⟩
      rw [List.map_cons, hmoved, Token.mapSpan, Span.moved, ← hstart, Nat.add_assoc]

end Scans

/-!
## Changed characters

Changing each character at a chosen offset goes piece by piece.
-/

def changedFrom (change : Char → Char) (chosen : List Nat) (offset : Nat) : List Char → List Char
  | [] => []
  | c :: rest =>
    (if offset ∈ chosen then change c else c) ::
      changedFrom change chosen (offset + c.utf8Size) rest

theorem changedFrom_append (change : Char → Char) (chosen : List Nat) (offset : Nat)
    (front back : List Char) :
    changedFrom change chosen offset (front ++ back) =
      changedFrom change chosen offset front ++
        changedFrom change chosen (offset + byteLength front) back := by
  induction front generalizing offset with
  | nil => rfl
  | cons c front ih =>
      rw [List.cons_append, changedFrom, changedFrom, ih, List.cons_append, byteLength_cons,
        Nat.add_assoc]

theorem changedFrom_eq_self (change : Char → Char) {chosen : List Nat} {offset : Nat}
    {cs : List Char}
    (h : ∀ position ∈ chosen, offset ≤ position → offset + byteLength cs ≤ position) :
    changedFrom change chosen offset cs = cs := by
  induction cs generalizing offset with
  | nil => rfl
  | cons c cs ih =>
      have hsize := c.utf8Size_pos
      rw [byteLength_cons] at h
      have hfirst : offset ∉ chosen := by
        intro hmem
        have hle := h offset hmem (Nat.le_refl _)
        omega
      rw [changedFrom, if_neg hfirst, ih]
      intro position hmem hle
      have hbehind := h position hmem (by omega)
      omega

end Declarative
end TableQuery
