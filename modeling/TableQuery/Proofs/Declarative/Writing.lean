import TableQuery.Query.Scalar
import TableQuery.Proofs.Declarative.Erasure
import TableQuery.Proofs.Declarative.Spelling

/-!
# Writing documents

A document is written as a derivation of its own, with one blank between each two lexemes. Names are
words, texts are quoted, numbers are in plain notation, and no comma is written. What is written is
read back, but for the places.
-/

namespace TableQuery
namespace Declarative

open Outcome

/-!
## Derivations as texts

The tokens of a derivation are written with one blank between each two. If they are spelled as they
are scanned, the text is read as the document that is derived.
-/

def spaced : List Lexeme → Layout
  | [] => []
  | lexeme :: rest => ([], lexeme) :: rest.map fun lexeme => ([' '], lexeme)

theorem spaced_separated (lexemes : List Lexeme) : (spaced lexemes).Separated := by
  cases lexemes with
  | nil => exact ⟨by simp [spaced], by simp [spaced]⟩
  | cons lexeme rest =>
      constructor
      · intro entry hentry c hc
        rcases List.mem_cons.mp hentry with rfl | hrest
        · cases hc
        · rcases List.mem_map.mp hrest with ⟨_, _, rfl⟩
          cases List.mem_singleton.mp hc
          decide
      · intro entry hentry
        rcases List.mem_map.mp hentry with ⟨_, _, rfl⟩
        simp

theorem map_snd_spaced (lexemes : List Lexeme) : (spaced lexemes).map Prod.snd = lexemes := by
  cases lexemes with
  | nil => rfl
  | cons lexeme rest => simp [spaced, Function.comp_def]

theorem Layout.map_bare_tokens (layout : Layout) (offset : Nat) :
    (layout.tokens offset).map Token.bare = (layout.map Prod.snd).map (Token.mk · nowhere) := by
  induction layout generalizing offset with
  | nil => rfl
  | cons entry layout ih =>
      rw [Layout.tokens, List.map_cons, ih]
      rfl

def DocumentTree.text (tree : DocumentTree) : String :=
  String.ofList ((spaced (tree.yield.map Token.lexeme)).chars [])

theorem Document.ofText_text {tree : DocumentTree}
    (h : ∀ token ∈ tree.yield, token.lexeme.Spelled) :
    ∃ document, Document.ofText tree.text = .ok document ∧ document.bare = tree.document.bare := by
  have hspelled : ∀ entry ∈ spaced (tree.yield.map Token.lexeme), entry.2.Spelled := by
    intro entry hentry
    have hmem : entry.2 ∈ (spaced (tree.yield.map Token.lexeme)).map Prod.snd :=
      List.mem_map.mpr ⟨entry, hentry, rfl⟩
    rw [map_snd_spaced] at hmem
    rcases List.mem_map.mp hmem with ⟨token, htoken, hlexeme⟩
    rw [← hlexeme]
    exact h token htoken
  have hlast : ∀ c ∈ ([] : List Char), Text.isBlank c = true := by simp
  have htokens := Cursor.tokens_layout hspelled (spaced_separated _) hlast 0
  have hyield : ((spaced (tree.yield.map Token.lexeme)).tokens 0).map Token.bare =
      tree.yield.map Token.bare := by
    rw [Layout.map_bare_tokens, map_snd_spaced, List.map_map]
    rfl
  have htree : State.start.read (.ok nowhere) tree.yield = .ok tree.document :=
    State.read_eq_ok_iff.mpr ⟨⟨nowhere, rfl⟩, State.run?_yield tree⟩
  have hbare := State.alike_read (.ok nowhere) .start tree.yield
  rw [htree] at hbare
  have hread : Alike SameCause Document.bare (Document.ofText tree.text)
      (.ok tree.document.bare) := by
    rw [Document.ofText, Cursor.ofText, DocumentTree.text, String.toList_ofList, htokens,
      ← hbare.eq_ok, ← hyield]
    exact State.alike_read (.ok _) .start _
  exact hread.exists_ok

/-!
## Values as derivations

A zero has no sign when it is read, so its sign is not written. Fields with distinct names are read
as they are written.
-/

mutual

def Value.tree : Value → ValueTree
  | .string _ content => .text nowhere content
  | .number _ value => .number nowhere value.text value.signless
  | .boolean _ value => .word nowhere (booleanText value)
  | .identifier _ name => .word nowhere name
  | .list _ items => .list nowhere (Value.itemsTree items) nowhere
  | .object _ fields => .object nowhere (Value.fieldsTree fields) nowhere

def Value.itemsTree : List Value → ItemsTree
  | [] => .nil
  | item :: items => .cons item.tree none (Value.itemsTree items)

def Value.fieldTree : Key × Value → FieldsTree → FieldsTree
  | (key, value), rest => .cons key.bare nowhere value.tree none rest

def Value.fieldsTree : List (Key × Value) → FieldsTree
  | [] => .nil
  | field :: fields => Value.fieldTree field (Value.fieldsTree fields)

end

namespace Value

theorem values_itemsTree (items : List Value) :
    (itemsTree items).values = items.map fun item => item.tree.value := by
  induction items with
  | nil => rfl
  | cons item items ih => rw [itemsTree, ItemsTree.values, ih, List.map_cons]

theorem entries_fieldsTree (fields : Fields) :
    (fieldsTree fields).entries = fields.map fun field => (field.1.bare, field.2.tree.value) := by
  induction fields with
  | nil => rfl
  | cons field fields ih =>
      obtain ⟨key, value⟩ := field
      rw [fieldsTree, fieldTree, FieldsTree.entries, ih, List.map_cons]

theorem mem_yield_itemsTree {items : List Value} {token : Token}
    (h : token ∈ (itemsTree items).yield) : ∃ item ∈ items, token ∈ item.tree.yield := by
  induction items with
  | nil => cases h
  | cons item items ih =>
      simp only [itemsTree, ItemsTree.yield, commaYield, Option.map_none, Option.toList_none,
        List.nil_append, List.mem_append] at h
      rcases h with hitem | hrest
      · exact ⟨item, by simp, hitem⟩
      · rcases ih hrest with ⟨item', hmem, htoken⟩
        exact ⟨item', by simp [hmem], htoken⟩

theorem mem_yield_fieldsTree {fields : Fields} {token : Token}
    (h : token ∈ (fieldsTree fields).yield) :
    ∃ field ∈ fields, token = field.1.bare.token ∨ token = Mark.colon.token nowhere ∨
      token ∈ field.2.tree.yield := by
  induction fields with
  | nil => cases h
  | cons field fields ih =>
      obtain ⟨key, value⟩ := field
      simp only [fieldsTree, fieldTree, FieldsTree.yield, commaYield, Option.map_none,
        Option.toList_none, List.nil_append, List.mem_cons, List.mem_append] at h
      rcases h with hkey | hcolon | hvalue | hrest
      · exact ⟨(key, value), by simp, Or.inl hkey⟩
      · exact ⟨(key, value), by simp, Or.inr (Or.inl hcolon)⟩
      · exact ⟨(key, value), by simp, Or.inr (Or.inr hvalue)⟩
      · rcases ih hrest with ⟨field', hmem, htoken⟩
        exact ⟨field', by simp [hmem], htoken⟩

/-- A value that can be written: its names are words that are not truth values, and the fields of an
object have distinct names that are words. The numbers are restricted as is asked for. -/
inductive Writable (number : Decimal → Prop) : Value → Prop where
  | string (span : Span) (content : String) : Writable number (.string span content)
  | number (span : Span) (value : Decimal) (hvalue : number value) :
    Writable number (.number span value)
  | boolean (span : Span) (value : Bool) : Writable number (.boolean span value)
  | identifier (span : Span) (name : String) (hword : isWord name = true)
    (htrue : name.toLower ≠ "true") (hfalse : name.toLower ≠ "false") :
    Writable number (.identifier span name)
  | list (span : Span) (items : List Value) (hitems : ∀ item ∈ items, Writable number item) :
    Writable number (.list span items)
  | object (span : Span) (fields : List (Key × Value))
    (hwords : ∀ field ∈ fields, isWord field.1.name = true)
    (hdistinct : (fields.map fun field => field.1.name).Nodup)
    (hvalues : ∀ field ∈ fields, Writable number field.2) :
    Writable number (.object span fields)

theorem spelled_fieldsTree {fields : Fields}
    (hwords : ∀ field ∈ fields, isWord field.1.name = true)
    (hvalues : ∀ field ∈ fields, ∀ token ∈ field.2.tree.yield, token.lexeme.Spelled) :
    ∀ token ∈ (fieldsTree fields).yield, token.lexeme.Spelled := by
  intro token htoken
  rcases mem_yield_fieldsTree htoken with ⟨field, hfield, hkey | hcolon | hvalue⟩
  · rw [hkey]
    exact hwords field hfield
  · rw [hcolon]
    trivial
  · exact hvalues field hfield token hvalue

theorem Writable.spelled {number : Decimal → Prop} {value : Value} (h : Writable number value) :
    ∀ token ∈ value.tree.yield, token.lexeme.Spelled := by
  induction h with
  | string span content =>
      intro token htoken
      cases List.mem_singleton.mp htoken
      trivial
  | number span value hvalue =>
      intro token htoken
      cases List.mem_singleton.mp htoken
      exact ⟨value, rfl, rfl⟩
  | boolean span value =>
      intro token htoken
      cases List.mem_singleton.mp htoken
      change isWord (booleanText value) = true
      cases value <;> decide +kernel
  | identifier span name hword htrue hfalse =>
      intro token htoken
      cases List.mem_singleton.mp htoken
      exact hword
  | list span items hitems ih =>
      intro token htoken
      simp only [tree, ValueTree.yield, List.mem_cons, List.mem_append, List.not_mem_nil,
        or_false] at htoken
      rcases htoken with rfl | hitem | rfl
      · trivial
      · rcases mem_yield_itemsTree hitem with ⟨item, hmem, hyield⟩
        exact ih item hmem token hyield
      · trivial
  | object span fields hwords hdistinct hvalues ih =>
      intro token htoken
      simp only [tree, ValueTree.yield, List.mem_cons, List.mem_append, List.not_mem_nil,
        or_false] at htoken
      rcases htoken with rfl | hfield | rfl
      · trivial
      · exact spelled_fieldsTree hwords ih token hfield
      · trivial

end Value

theorem Fields.merged_eq_self {entries : List (Key × Value)}
    (h : (entries.map fun entry => entry.1.name).Nodup) : Fields.merged entries = entries := by
  induction entries with
  | nil => rfl
  | cons entry entries ih =>
      obtain ⟨key, value⟩ := entry
      rw [List.map_cons, List.nodup_cons] at h
      have hother : ∀ entry ∈ entries, entry.1.name ≠ key.name := by
        intro entry hentry heq
        exact h.1 (List.mem_map.mpr ⟨entry, hentry, heq⟩)
      have hget : Fields.get? entries key.name = none := by
        simpa [Fields.get?] using hother
      have hfilter : (entries.filter fun entry => entry.1.name ≠ key.name) = entries :=
        List.filter_eq_self.mpr fun entry hentry => by simpa using hother entry hentry
      rw [Fields.merged, ih h.2, hget, hfilter]
      rfl

theorem Value.map_name_bareFields (fields : Fields) :
    ((bareFields fields).map fun field => field.1.name) = fields.map fun field => field.1.name := by
  rw [bareFields_eq_map, List.map_map]
  apply List.map_congr_left
  intro field _
  rw [Function.comp_apply, bareField_eq]
  rfl

theorem Value.ofWord_booleanText (span : Span) (value : Bool) :
    ofWord span (booleanText value) = .boolean span value := by
  cases value with
  | true => exact if_pos (by decide +kernel)
  | false => exact (if_neg (by decide +kernel)).trans (if_pos (by decide +kernel))

theorem Value.merged_entries_fieldsTree {fields : Fields}
    (hdistinct : (fields.map fun field => field.1.name).Nodup)
    (hvalues : ∀ field ∈ fields, field.2.tree.value = field.2.bare) :
    Fields.merged (fieldsTree fields).entries = bareFields fields := by
  have hentries : (fieldsTree fields).entries = bareFields fields := by
    rw [entries_fieldsTree, bareFields_eq_map]
    apply List.map_congr_left
    intro field hfield
    rw [hvalues field hfield, bareField_eq]
  rw [hentries]
  apply Fields.merged_eq_self
  rw [map_name_bareFields]
  exact hdistinct

theorem Value.Writable.value_tree {number : Decimal → Prop}
    (hnumber : ∀ value, number value → value.signless = value) {value : Value}
    (h : Writable number value) : value.tree.value = value.bare := by
  induction h with
  | string span content => rfl
  | number span value hvalue =>
      rw [tree, ValueTree.value, hnumber value hvalue]
      rfl
  | boolean span value => exact ofWord_booleanText nowhere value
  | identifier span name hword htrue hfalse =>
      simp only [tree, ValueTree.value, ofWord, htrue, hfalse, if_false]
      rfl
  | list span items hitems ih =>
      rw [tree, ValueTree.value, values_itemsTree, bare, bareItems_eq_map,
        List.map_congr_left ih]
      rfl
  | object span fields hwords hdistinct hvalues ih =>
      rw [tree, ValueTree.value, merged_entries_fieldsTree hdistinct ih]
      rfl

/-!
## Documents as derivations
-/

namespace Document

def tree (document : Document) : DocumentTree where
  keyword := some nowhere
  opened := nowhere
  resource := document.resource.bare
  arguments :=
    if document.arguments.isEmpty then none
    else some ⟨nowhere, Value.fieldsTree document.arguments, nowhere⟩
  selecting := nowhere
  selections := document.selections.map fun name => (⟨name, nowhere⟩, none)
  selected := nowhere
  closed := nowhere

structure Writable (number : Decimal → Prop) (document : Document) : Prop where
  resource : isWord document.resource.name = true
  selections : ∀ name ∈ document.selections, isWord name = true
  words : ∀ field ∈ document.arguments, isWord field.1.name = true
  distinct : (document.arguments.map fun field => field.1.name).Nodup
  values : ∀ field ∈ document.arguments, field.2.Writable number

theorem mem_selectionsYield {selections : List String} {token : Token}
    (h : token ∈ selectionsYield (selections.map fun name => (⟨name, nowhere⟩, none))) :
    ∃ name ∈ selections, token = ⟨.word name, nowhere⟩ := by
  induction selections with
  | nil => cases h
  | cons name selections ih =>
      rcases List.mem_cons.mp h with rfl | hrest
      · exact ⟨name, by simp, rfl⟩
      · rcases ih hrest with ⟨name', hmem, htoken⟩
        exact ⟨name', by simp [hmem], htoken⟩

theorem Writable.spelled_arguments {number : Decimal → Prop} {document : Document}
    (h : document.Writable number) :
    ∀ token ∈ (document.tree.arguments.map ArgumentsTree.yield).getD [], token.lexeme.Spelled := by
  intro token htoken
  unfold tree at htoken
  simp only at htoken
  split at htoken
  · cases htoken
  · simp only [Option.map_some, Option.getD_some, ArgumentsTree.yield, List.mem_cons,
      List.mem_append, List.not_mem_nil, or_false] at htoken
    rcases htoken with rfl | hfield | rfl
    · trivial
    · exact Value.spelled_fieldsTree h.words (fun field hfield => (h.values field hfield).spelled)
        token hfield
    · trivial

theorem Writable.spelled {number : Decimal → Prop} {document : Document}
    (h : document.Writable number) : ∀ token ∈ document.tree.yield, token.lexeme.Spelled := by
  have hquery : isWord queryKeyword = true := by decide +kernel
  intro token htoken
  rcases List.mem_append.mp htoken with hkeyword | hrest
  · cases List.mem_singleton.mp hkeyword
    exact hquery
  · simp only [List.mem_cons, List.mem_append] at hrest
    rcases hrest with rfl | rfl | hargument | hbody
    · trivial
    · exact h.resource
    · exact h.spelled_arguments token hargument
    · simp only [DocumentTree.bodyYield, List.mem_cons, List.mem_append, List.not_mem_nil,
        or_false] at hbody
      rcases hbody with rfl | hselection | rfl | rfl
      · trivial
      · rcases mem_selectionsYield hselection with ⟨name, hname, rfl⟩
        exact h.selections name hname
      · trivial
      · trivial

theorem Writable.document_tree {number : Decimal → Prop}
    (hnumber : ∀ value, number value → value.signless = value) {document : Document}
    (h : document.Writable number) : document.tree.document = document.bare := by
  have hmerged := Value.merged_entries_fieldsTree h.distinct
    fun field hfield => (h.values field hfield).value_tree hnumber
  have harguments : document.tree.document.arguments = Value.bareFields document.arguments := by
    unfold tree DocumentTree.document
    cases hempty : document.arguments.isEmpty with
    | true =>
        rw [List.isEmpty_iff.mp hempty]
        rfl
    | false => exact hmerged
  have hselections : document.tree.document.selections = document.selections := by
    simp [tree, DocumentTree.document, Function.comp_def]
  exact congr (congrArg (Document.mk document.resource.bare) harguments) hselections

end Document

end Declarative
end TableQuery
