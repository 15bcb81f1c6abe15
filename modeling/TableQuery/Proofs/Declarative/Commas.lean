import TableQuery.Proofs.Declarative.Acceptance
import TableQuery.Proofs.Declarative.Scanning

/-!
# Commas

Commas separate entries, but so do blanks. If some of the commas of a text are replaced by blanks, the
other tokens stay where they are, and the text is read as the same query at the same places.

The text and its derivation change alike: where a comma becomes a blank, it goes from the tokens and from
the derivation, which may have a comma behind each entry but needs none.
-/

namespace TableQuery
namespace Declarative

open Outcome
open Text (isBlank)

/-!
## Texts with blanks for commas

The characters at chosen offsets become blanks. If only commas are chosen, the pieces between them
are scanned as before, since a comma and a blank end a piece in the same way.
-/

/-- The offsets of the commas of a text. A comma inside a quoted text is not one of them. -/
def commaOffsets (text : String) : List Nat :=
  ((Cursor.ofText text).tokens.1.filter fun token => token.lexeme = .mark .comma).map
    fun token => token.span.offset

def blankedFrom (chosen : List Nat) (offset : Nat) : List Char → List Char
  | [] => []
  | c :: rest =>
    (if offset ∈ chosen then ' ' else c) :: blankedFrom chosen (offset + c.utf8Size) rest

/-- A text with a blank in the place of each character at a chosen offset. -/
def blanked (chosen : List Nat) (text : String) : String :=
  .ofList (blankedFrom chosen 0 text.toList)

def Token.stays (chosen : List Nat) (token : Token) : Bool :=
  token.lexeme ≠ .mark .comma || token.span.offset ∉ chosen

theorem blankedFrom_eq_changedFrom (chosen : List Nat) (offset : Nat) (cs : List Char) :
    blankedFrom chosen offset cs = changedFrom (fun _ => ' ') chosen offset cs := by
  induction cs generalizing offset with
  | nil => rfl
  | cons c cs ih => rw [blankedFrom, changedFrom, ih]

theorem blankedFrom_append (chosen : List Nat) (offset : Nat) (front back : List Char) :
    blankedFrom chosen offset (front ++ back) =
      blankedFrom chosen offset front ++ blankedFrom chosen (offset + byteLength front) back := by
  simp only [blankedFrom_eq_changedFrom, changedFrom_append]

theorem blankedFrom_eq_self {chosen : List Nat} {offset : Nat} {cs : List Char}
    (h : ∀ position ∈ chosen, offset ≤ position → offset + byteLength cs ≤ position) :
    blankedFrom chosen offset cs = cs := by
  rw [blankedFrom_eq_changedFrom, changedFrom_eq_self _ h]

theorem replaces_blankedFrom (chosen : List Nat) (offset : Nat) (cs : List Char) :
    Replaces cs (blankedFrom chosen offset cs) := by
  intro c hc
  cases cs with
  | nil => cases hc
  | cons d cs =>
      cases hc
      by_cases hmem : offset ∈ chosen
      · rw [if_pos hmem]
        exact Or.inl (by decide)
      · rw [if_neg hmem]
        exact Or.inr rfl

namespace Scans

variable {offset : Nat} {cs : List Char} {tokens : List Token}

theorem blank_append {gap : List Char} (hgap : ∀ c ∈ gap, isBlank c = true)
    (h : Scans (offset + byteLength gap) cs tokens) : Scans offset (gap ++ cs) tokens := by
  cases h with
  | blank hblank => exact .blank (List.forall_mem_append.mpr ⟨hgap, hblank⟩)
  | @token _ inner c more behind lexeme rest hinner hsolid hsaid hrest =>
      have hoffset : offset + byteLength gap + byteLength inner =
          offset + byteLength (gap ++ inner) := by
        rw [byteLength_append, Nat.add_assoc]
      rw [hoffset] at hrest ⊢
      rw [← List.append_assoc]
      exact .token (List.forall_mem_append.mpr ⟨hgap, hinner⟩) hsolid hsaid hrest

def Chooses (chosen : List Nat) (offset : Nat) (tokens : List Token) : Prop :=
  ∀ position ∈ chosen, offset ≤ position →
    ∃ token ∈ tokens, token.lexeme = .mark .comma ∧ token.span.offset = position

theorem blanked (chosen : List Nat) (h : Scans offset cs tokens)
    (hchosen : Chooses chosen offset tokens) :
    Scans offset (blankedFrom chosen offset cs) (tokens.filter (Token.stays chosen)) := by
  induction h with
  | @blank offset cs hblank =>
      rw [blankedFrom_eq_self]
      · exact .blank hblank
      · intro position hmem hle
        rcases hchosen position hmem hle with ⟨token, htoken, _⟩
        cases htoken
  | @token offset gap c more behind lexeme tokens hgap hsolid hsaid hbehind ih =>
      have hsize := c.utf8Size_pos
      have hlater := hbehind.offset_le
      simp only [byteLength_cons] at hlater
      -- A chosen offset is that of the first token, or it lies behind the whole piece.
      have hplace : ∀ position ∈ chosen, offset ≤ position →
          (position = offset + byteLength gap ∧ lexeme = .mark .comma) ∨
            offset + byteLength gap + byteLength (c :: more) ≤ position := by
        intro position hmem hle
        rcases hchosen position hmem hle with ⟨token, htoken, hlexeme, rfl⟩
        rcases List.mem_cons.mp htoken with rfl | hrest
        · exact Or.inl ⟨rfl, hlexeme⟩
        · exact Or.inr (hlater token hrest)
      have hrest : Chooses chosen (offset + byteLength gap + byteLength (c :: more)) tokens := by
        intro position hmem hle
        rw [byteLength_cons] at hle
        rcases hchosen position hmem (by omega) with ⟨token, htoken, hlexeme, rfl⟩
        rcases List.mem_cons.mp htoken with rfl | hrest
        · simp only at hle
          omega
        · exact ⟨token, hrest, hlexeme, rfl⟩
      have hgapSame : blankedFrom chosen offset gap = gap := by
        apply blankedFrom_eq_self
        intro position hmem hle
        rcases hplace position hmem hle with ⟨rfl, _⟩ | hbehindPiece
        · exact Nat.le_refl _
        · omega
      rw [blankedFrom_append, hgapSame, blankedFrom_append, List.filter_cons]
      by_cases hfirst : offset + byteLength gap ∈ chosen
      · -- The first token is a comma that becomes a blank, so it goes to the gap behind it.
        have hlexeme : lexeme = .mark .comma := by
          rcases hplace _ hfirst (Nat.le_add_right _ _) with ⟨_, hlexeme⟩ | hbehindPiece
          · exact hlexeme
          · rw [byteLength_cons] at hbehindPiece
            omega
        subst hlexeme
        have hstays : Token.stays chosen
            ⟨.mark .comma, ⟨offset + byteLength gap, byteLength (c :: more)⟩⟩ = false := by
          simp [Token.stays, hfirst]
        rw [hstays, if_neg (by simp), ← List.append_assoc]
        generalize hpiece : c :: more = piece at hsaid ih hrest ⊢
        cases hsaid with
        | mark =>
            have hcomma : blankedFrom chosen (offset + byteLength gap) [Mark.comma.char] = [' '] := by
              rw [blankedFrom, if_pos hfirst]
              rfl
            rw [hcomma]
            apply blank_append
            · exact List.forall_mem_append.mpr ⟨hgap, List.forall_mem_singleton.mpr (by decide)⟩
            · rw [byteLength_append, ← Nat.add_assoc]
              exact ih hrest
      · have hpieceSame : blankedFrom chosen (offset + byteLength gap) (c :: more) = c :: more := by
          apply blankedFrom_eq_self
          intro position hmem hle
          rcases hplace position hmem (by omega) with ⟨rfl, _⟩ | hbehindPiece
          · exact absurd hmem hfirst
          · exact hbehindPiece
        have hstays : Token.stays chosen
            ⟨lexeme, ⟨offset + byteLength gap, byteLength (c :: more)⟩⟩ = true := by
          simp [Token.stays, hfirst]
        rw [hpieceSame, hstays, if_pos rfl]
        exact .token hgap hsolid (hsaid.replace (replaces_blankedFrom chosen _ behind)) (ih hrest)

end Scans

/-!
## Derivations without commas

A derivation loses the commas at the chosen offsets, and its yield loses their tokens. What it
derives does not change.
-/

def thinnedComma (chosen : List Nat) (comma : Option Span) : Option Span :=
  comma.filter fun span => span.offset ∉ chosen

mutual

def ValueTree.thinned (chosen : List Nat) : ValueTree → ValueTree
  | .text span content => .text span content
  | .number span literal value => .number span literal value
  | .word span name => .word span name
  | .list opened items closed => .list opened (items.thinned chosen) closed
  | .object opened fields closed => .object opened (fields.thinned chosen) closed

def ItemsTree.thinned (chosen : List Nat) : ItemsTree → ItemsTree
  | .nil => .nil
  | .cons item comma rest =>
    .cons (item.thinned chosen) (thinnedComma chosen comma) (rest.thinned chosen)

def FieldsTree.thinned (chosen : List Nat) : FieldsTree → FieldsTree
  | .nil => .nil
  | .cons key colon value comma rest =>
    .cons key colon (value.thinned chosen) (thinnedComma chosen comma) (rest.thinned chosen)

end

def DocumentTree.thinned (chosen : List Nat) (tree : DocumentTree) : DocumentTree :=
  { tree with
    arguments := tree.arguments.map fun arguments =>
      { arguments with fields := arguments.fields.thinned chosen }
    selections := tree.selections.map fun selection =>
      (selection.1, thinnedComma chosen selection.2) }

section

variable (chosen : List Nat)

theorem commaYield_thinned (comma : Option Span) :
    commaYield (thinnedComma chosen comma) = (commaYield comma).filter (Token.stays chosen) := by
  cases comma with
  | none => rfl
  | some span =>
      by_cases h : span.offset ∈ chosen
      · simp [thinnedComma, commaYield, Mark.token, Token.stays, h]
      · simp [thinnedComma, commaYield, Mark.token, Token.stays, h]

mutual

theorem ValueTree.yield_thinned (tree : ValueTree) :
    (tree.thinned chosen).yield = tree.yield.filter (Token.stays chosen) := by
  cases tree with
  | text span content => rfl
  | number span literal value => rfl
  | word span name => rfl
  | list opened items closed =>
      rw [ValueTree.thinned, ValueTree.yield, items.yield_thinned, ValueTree.yield,
        List.filter_cons_of_pos rfl, List.filter_append]
      rfl
  | object opened fields closed =>
      rw [ValueTree.thinned, ValueTree.yield, fields.yield_thinned, ValueTree.yield,
        List.filter_cons_of_pos rfl, List.filter_append]
      rfl

theorem ItemsTree.yield_thinned (items : ItemsTree) :
    (items.thinned chosen).yield = items.yield.filter (Token.stays chosen) := by
  cases items with
  | nil => rfl
  | cons item comma rest =>
      rw [ItemsTree.thinned, ItemsTree.yield, item.yield_thinned, commaYield_thinned,
        rest.yield_thinned, ItemsTree.yield, List.filter_append, List.filter_append]

theorem FieldsTree.yield_thinned (fields : FieldsTree) :
    (fields.thinned chosen).yield = fields.yield.filter (Token.stays chosen) := by
  cases fields with
  | nil => rfl
  | cons key colon value comma rest =>
      rw [FieldsTree.thinned, FieldsTree.yield, value.yield_thinned, commaYield_thinned,
        rest.yield_thinned, FieldsTree.yield, List.filter_cons_of_pos rfl,
        List.filter_cons_of_pos rfl, List.filter_append, List.filter_append]

end

mutual

theorem ValueTree.value_thinned (tree : ValueTree) : (tree.thinned chosen).value = tree.value := by
  cases tree with
  | text span content => rfl
  | number span literal value => rfl
  | word span name => rfl
  | list opened items closed =>
      rw [ValueTree.thinned, ValueTree.value, items.values_thinned, ValueTree.value]
  | object opened fields closed =>
      rw [ValueTree.thinned, ValueTree.value, fields.entries_thinned, ValueTree.value]

theorem ItemsTree.values_thinned (items : ItemsTree) :
    (items.thinned chosen).values = items.values := by
  cases items with
  | nil => rfl
  | cons item comma rest =>
      rw [ItemsTree.thinned, ItemsTree.values, item.value_thinned, rest.values_thinned,
        ItemsTree.values]

theorem FieldsTree.entries_thinned (fields : FieldsTree) :
    (fields.thinned chosen).entries = fields.entries := by
  cases fields with
  | nil => rfl
  | cons key colon value comma rest =>
      rw [FieldsTree.thinned, FieldsTree.entries, value.value_thinned, rest.entries_thinned,
        FieldsTree.entries]

end

theorem selectionsYield_thinned (selections : List (Key × Option Span)) :
    selectionsYield (selections.map fun selection =>
        (selection.1, thinnedComma chosen selection.2)) =
      (selectionsYield selections).filter (Token.stays chosen) := by
  induction selections with
  | nil => rfl
  | cons selection selections ih =>
      rw [List.map_cons, selectionsYield, ih, commaYield_thinned, selectionsYield,
        List.filter_cons_of_pos rfl, List.filter_append]

namespace DocumentTree

theorem yield_thinned (tree : DocumentTree) :
    (tree.thinned chosen).yield = tree.yield.filter (Token.stays chosen) := by
  have hkeyword : (keywordYield tree.keyword).filter (Token.stays chosen) =
      keywordYield tree.keyword := by
    cases tree.keyword <;> rfl
  have hbody : (tree.thinned chosen).bodyYield = tree.bodyYield.filter (Token.stays chosen) := by
    rw [bodyYield, bodyYield, List.filter_cons_of_pos rfl, List.filter_append,
      ← selectionsYield_thinned]
    rfl
  have harguments : ((tree.thinned chosen).arguments.map ArgumentsTree.yield).getD [] =
      ((tree.arguments.map ArgumentsTree.yield).getD []).filter (Token.stays chosen) := by
    rw [thinned]
    cases tree.arguments with
    | none => rfl
    | some arguments =>
        simp only [Option.map_some, Option.getD_some, ArgumentsTree.yield,
          FieldsTree.yield_thinned]
        rw [List.filter_cons_of_pos rfl, List.filter_append]
        rfl
  rw [yield, yield, List.filter_append, List.filter_cons_of_pos rfl, List.filter_cons_of_pos rfl,
    List.filter_append, hkeyword, ← hbody, ← harguments]
  rfl

theorem document_thinned (tree : DocumentTree) :
    (tree.thinned chosen).document = tree.document := by
  obtain ⟨keyword, opened, resource, arguments, selecting, selections, selected, closed⟩ := tree
  cases arguments with
  | none => simp [thinned, document, Function.comp_def]
  | some arguments => simp [thinned, document, Function.comp_def, FieldsTree.entries_thinned]

end DocumentTree

end

/-!
## Reading
-/

theorem Derives.blanked {text : String} {tree : DocumentTree} (h : Derives text tree)
    {chosen : List Nat} (hchosen : ∀ offset ∈ chosen, offset ∈ commaOffsets text) :
    Derives (blanked chosen text) (tree.thinned chosen) := by
  rcases h with ⟨hyield, span, hending⟩
  have hscans := Scans.of_tokens hending
  have hcommas : Scans.Chooses chosen (Cursor.ofText text).offset (Cursor.ofText text).tokens.1 := by
    intro position hmem _
    rcases List.mem_map.mp (hchosen position hmem) with ⟨token, htoken, hoffset⟩
    rcases List.mem_filter.mp htoken with ⟨hmem, hlexeme⟩
    exact ⟨token, hmem, of_decide_eq_true hlexeme, hoffset⟩
  have htokens := (hscans.blanked chosen hcommas).tokens_eq
  rw [hyield, ← tree.yield_thinned] at htokens
  have htext : Cursor.ofText (Declarative.blanked chosen text) =
      ⟨0, blankedFrom chosen 0 text.toList⟩ := by
    rw [Cursor.ofText, Declarative.blanked, String.toList_ofList]
  constructor
  · rw [htext]
    exact congrArg Prod.fst htokens
  · rw [htext]
    exact ⟨_, congrArg Prod.snd htokens⟩

namespace Query

/-- Commas are separators only. If some commas of a text are replaced by blanks, the text is read as the
same query, with all spans where they were. -/
theorem ofText_blanked {text : String} {query : Query} (h : ofText text = .ok query)
    {chosen : List Nat} (hchosen : ∀ offset ∈ chosen, offset ∈ commaOffsets text) :
    ofText (blanked chosen text) = .ok query := by
  rcases bind_eq_ok.mp (mapError_eq_ok.mp h) with ⟨document, hdocument, hquery⟩
  rcases Document.ofText_eq_ok_iff.mp hdocument with ⟨tree, hderives, rfl⟩
  rw [ofText_of_derives (hderives.blanked hchosen), tree.document_thinned, hquery]
  rfl

/-- A text with six commas, and with one more inside a quoted text. -/
def separatedText : String :=
  "\x7bé(sum:[\"a\",\"b\",],where:\x7ba:\x7beq:\"x,y\"\x7d,\x7d,)\x7bc,d\x7d\x7d"

def separatedTree : DocumentTree where
  keyword := none
  opened := ⟨0, 1⟩
  resource := ⟨"é", ⟨1, 2⟩⟩
  arguments := some
    { opened := ⟨3, 1⟩
      fields :=
        .cons ⟨"sum", ⟨4, 3⟩⟩ ⟨7, 1⟩
          (.list ⟨8, 1⟩
            (.cons (.text ⟨9, 3⟩ "a") (some ⟨12, 1⟩)
              (.cons (.text ⟨13, 3⟩ "b") (some ⟨16, 1⟩) .nil))
            ⟨17, 1⟩)
          (some ⟨18, 1⟩)
          (.cons ⟨"where", ⟨19, 5⟩⟩ ⟨24, 1⟩
            (.object ⟨25, 1⟩
              (.cons ⟨"a", ⟨26, 1⟩⟩ ⟨27, 1⟩
                (.object ⟨28, 1⟩
                  (.cons ⟨"eq", ⟨29, 2⟩⟩ ⟨31, 1⟩ (.text ⟨32, 5⟩ "x,y") none .nil) ⟨37, 1⟩)
                (some ⟨38, 1⟩) .nil)
              ⟨39, 1⟩)
            (some ⟨40, 1⟩) .nil)
      closed := ⟨41, 1⟩ }
  selecting := ⟨42, 1⟩
  selections := [(⟨"c", ⟨43, 1⟩⟩, some ⟨44, 1⟩), (⟨"d", ⟨45, 1⟩⟩, none)]
  selected := ⟨46, 1⟩
  closed := ⟨47, 1⟩

def separatedQuery : Query where
  resource := ⟨"é", ⟨1, 2⟩⟩
  selections := ["c", "d"]
  aggregates := { sum := ["a", "b"] }
  filters := [⟨"a", .eq, .string ⟨32, 5⟩ "x,y"⟩]

theorem ofText_blanked_separated :
    blanked [12, 18, 38, 44] separatedText =
        "\x7bé(sum:[\"a\" \"b\",] where:\x7ba:\x7beq:\"x,y\"\x7d \x7d,)\x7bc d\x7d\x7d" ∧
      ofText separatedText = .ok separatedQuery ∧
      ofText (blanked [12, 18, 38, 44] separatedText) = .ok separatedQuery := by
  have hderives : Derives separatedText separatedTree :=
    Derives.of_toOption (by decide +kernel)
      (show (Cursor.ofText separatedText).tokens.2.toOption = some ⟨48, 0⟩ by decide +kernel)
  have hdocument : separatedTree.document =
      ⟨⟨"é", ⟨1, 2⟩⟩,
        [(⟨"sum", ⟨4, 3⟩⟩, .list ⟨8, 10⟩ [.string ⟨9, 3⟩ "a", .string ⟨13, 3⟩ "b"]),
          (⟨"where", ⟨19, 5⟩⟩, .object ⟨25, 15⟩ [(⟨"a", ⟨26, 1⟩⟩,
            .object ⟨28, 10⟩ [(⟨"eq", ⟨29, 2⟩⟩, .string ⟨32, 5⟩ "x,y")])])],
        ["c", "d"]⟩ := rfl
  have hentry : Filter.ofEntry "a" (⟨"eq", ⟨29, 2⟩⟩, .string ⟨32, 5⟩ "x,y") =
      .ok ⟨"a", .eq, .string ⟨32, 5⟩ "x,y"⟩ := by
    have hoperator : FilterOperator.ofKey? "eq" = some .eq := by decide +kernel
    simp only [Filter.ofEntry, hoperator]
  have hmeaning : ofDocument separatedTree.document = .ok separatedQuery := by
    simp [hdocument, ofDocument, argument, Filter.ofValue, Filter.ofField, Value.asObject,
      Value.toNames, Value.asList, Value.asName, hentry, ok_bind, separatedQuery]
  have hquery : ofText separatedText = .ok separatedQuery := by
    rw [ofText_of_derives hderives, hmeaning]
    rfl
  exact ⟨by decide +kernel, hquery, ofText_blanked hquery (by decide +kernel)⟩

end Query

end Declarative
end TableQuery
