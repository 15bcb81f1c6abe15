import Mathlib.Data.List.Perm.Subperm
import TableQuery.Proofs.Declarative.Relocation
import TableQuery.Proofs.Declarative.Spans

/-!
# Values and their slices

The span of a value cuts its own characters out of the text and no others. Read alone, the slice at the
span is the same value. The values inside a list or an object have slices inside that of the list or
the object, and no two of these overlap. This holds of every value that a query compares with, and of
all values inside it.
-/

namespace TableQuery

open Outcome

def Span.Apart (a b : Span) : Prop :=
  a.stop ≤ b.offset ∨ b.stop ≤ a.offset

namespace Declarative

namespace Value

/-- A text is a value and nothing else: it is scanned to its end, its tokens derive the value, and
wherever a value may stand they are all read as this one. -/
structure ReadAlone (text : String) (value : Value) : Prop where
  scanned : ∃ span, (Cursor.ofText text).tokens.2 = .ok span
  derived : ∃ tree : ValueTree, (Cursor.ofText text).tokens.1 = tree.yield ∧ tree.value = value
  read : ∀ (resource : Key) (place : Place) (hole : Hole) (outer : List Hole),
    Awaits outer place hole →
      (State.arguments resource place).run? (Cursor.ofText text).tokens.1 =
        some (.arguments resource (.leave value hole outer))

/-- The span of a value delimits its own text. -/
structure Delimited (text : String) (value : Value) : Prop where
  lies : value.span.LiesIn text
  slice : ∃ before piece behind alone, text.toList = before ++ (piece ++ behind) ∧
    value.span = ⟨byteLength before, byteLength piece⟩ ∧ ReadAlone (.ofList piece) alone ∧
    alone.mapSpans (Span.moved (byteLength before)) = value
  inside : ∀ child ∈ value.children,
    value.span.offset < child.span.offset ∧ child.span.stop < value.span.stop
  apart : value.children.Pairwise fun a b => a.span.Apart b.span

theorem span_ofWord (span : Span) (name : String) : (ofWord span name).span = span := by
  unfold ofWord
  split
  · rfl
  · split <;> rfl

theorem children_ofWord (span : Span) (name : String) : (ofWord span name).children = [] := by
  unfold ofWord
  split
  · rfl
  · split <;> rfl

end Value

/-!
## Values inside a derivation

A name that is repeated drops values and puts the others in another order. So the values of an object
are some of the values that were derived for it, in any order.
-/

namespace Fields

theorem subperm_insert (key : Key) (value : Value) (fields : Fields) :
    List.Subperm ((fields.insert key value).map Prod.snd) (value :: fields.map Prod.snd) := by
  induction fields with
  | nil => exact .refl _
  | cons field fields ih =>
      obtain ⟨key', value'⟩ := field
      by_cases h : key'.name = key.name
      · simp only [insert, h, if_true, List.map_cons]
        exact (List.subperm_cons value).mpr (List.sublist_cons_self _ _).subperm
      · simp only [insert, h, if_false, List.map_cons]
        exact ((List.subperm_cons value').mpr ih).trans (List.Perm.swap _ _ _).subperm

theorem subperm_merged (entries : List (Key × Value)) :
    List.Subperm ((merged entries).map Prod.snd) (entries.map Prod.snd) := by
  rw [← entries.reverse_reverse]
  induction entries.reverse with
  | nil => exact .refl _
  | cons entry earlier ih =>
      obtain ⟨key, value⟩ := entry
      have hlast : List.Perm (value :: earlier.reverse.map Prod.snd)
          (earlier.reverse.map Prod.snd ++ [value]) := (List.perm_append_singleton _ _).symm
      rw [List.reverse_cons, merged_concat, List.map_append]
      exact (subperm_insert key value _).trans
        (((List.subperm_cons value).mpr ih).trans hlast.subperm)

end Fields

def ItemsTree.trees : ItemsTree → List ValueTree
  | .nil => []
  | .cons item _ rest => item :: rest.trees

def FieldsTree.trees : FieldsTree → List ValueTree
  | .nil => []
  | .cons _ _ value _ rest => value :: rest.trees

def ValueTree.children : ValueTree → List ValueTree
  | .list _ items _ => items.trees
  | .object _ fields _ => fields.trees
  | _ => []

theorem ItemsTree.values_eq_map (items : ItemsTree) :
    items.values = items.trees.map ValueTree.value := by
  cases items with
  | nil => rfl
  | cons item comma rest => rw [values, trees, List.map_cons, rest.values_eq_map]

theorem FieldsTree.map_snd_entries (fields : FieldsTree) :
    fields.entries.map Prod.snd = fields.trees.map ValueTree.value := by
  cases fields with
  | nil => rfl
  | cons key colon value comma rest =>
      rw [entries, trees, List.map_cons, List.map_cons, rest.map_snd_entries]

theorem isInfix_bracketed (first : Token) (inner : List Token) (last : Token) :
    inner <:+: first :: (inner ++ [last]) :=
  (List.prefix_append _ _).isInfix.trans (List.suffix_cons _ _).isInfix

theorem ValueTree.isInfix_cons {tree : ValueTree} {trees : List ValueTree} {rest : List Token}
    (h : ∀ part ∈ trees, part.yield <:+: rest) (middle : List Token) :
    ∀ part ∈ tree :: trees, part.yield <:+: tree.yield ++ (middle ++ rest) := by
  intro part hpart
  rcases List.mem_cons.mp hpart with rfl | hlater
  · exact (List.prefix_append _ _).isInfix
  · exact (h part hlater).trans
      ((List.suffix_append _ _).trans (List.suffix_append _ _)).isInfix

theorem ItemsTree.isInfix_of_mem (items : ItemsTree) :
    ∀ tree ∈ items.trees, tree.yield <:+: items.yield := by
  cases items with
  | nil => exact List.forall_mem_nil _
  | cons item comma rest => exact ValueTree.isInfix_cons rest.isInfix_of_mem (commaYield comma)

theorem FieldsTree.isInfix_of_mem (fields : FieldsTree) :
    ∀ tree ∈ fields.trees, tree.yield <:+: fields.yield := by
  cases fields with
  | nil => exact List.forall_mem_nil _
  | cons key colon value comma rest =>
      intro tree htree
      apply List.IsInfix.trans _ ((List.suffix_cons _ _).trans (List.suffix_cons _ _)).isInfix
      exact ValueTree.isInfix_cons rest.isInfix_of_mem (commaYield comma) tree htree

namespace ValueTree

theorem subperm_children (tree : ValueTree) :
    List.Subperm tree.value.children (tree.children.map value) := by
  cases tree with
  | text span content => exact .refl _
  | number span literal value => exact .refl _
  | word span name =>
      rw [value, Value.children_ofWord]
      exact .refl _
  | list opened items closed =>
      rw [value, Value.children, items.values_eq_map]
      exact .refl _
  | object opened fields closed =>
      rw [value, Value.children, children, ← fields.map_snd_entries]
      exact Fields.subperm_merged fields.entries

theorem exists_inner {tree child : ValueTree} (h : child ∈ tree.children) :
    ∃ first inner last, tree.yield = first :: (inner ++ [last]) ∧ child.yield <:+: inner := by
  cases tree with
  | list opened items closed => exact ⟨_, items.yield, _, rfl, items.isInfix_of_mem child h⟩
  | object opened fields closed => exact ⟨_, fields.yield, _, rfl, fields.isInfix_of_mem child h⟩
  | _ => cases h

theorem exists_of_reaches {whole node : Value} (h : whole.Reaches node) {tree : ValueTree}
    (htree : tree.value = whole) :
    ∃ part : ValueTree, part.yield <:+: tree.yield ∧ part.value = node := by
  induction h generalizing tree with
  | refl whole => exact ⟨tree, List.infix_rfl, htree⟩
  | child hchild _ ih =>
      rw [← htree] at hchild
      rcases List.mem_map.mp (tree.subperm_children.subset hchild) with ⟨inside, hinside, hvalue⟩
      rcases ih hvalue with ⟨part, hpart, hnode⟩
      rcases exists_inner hinside with ⟨first, inner, last, hyield, hinner⟩
      refine ⟨part, ?_, hnode⟩
      rw [hyield]
      exact (hpart.trans hinner).trans (isInfix_bracketed first inner last)

end ValueTree

/-!
## Places of the values inside

The tokens of a value stand together, from the first to the last one that its span covers. The
values inside have their tokens between the brackets, one value behind the other.
-/

namespace Ordered

theorem le_of_append (front : List Token) {back : List Token} (h : Ordered (front ++ back))
    {a b : Token} (ha : a ∈ front) (hb : b ∈ back) : a.span.stop ≤ b.span.offset :=
  (List.pairwise_append.mp h.apart).2.2 a ha b hb

theorem cover {first last : Token} {inner : List Token}
    (h : Ordered (first :: (inner ++ [last]))) :
    (first.span.cover last.span).offset = first.span.offset ∧
      (first.span.cover last.span).stop = last.span.stop := by
  have hfirst := h.solid first (by simp)
  have hlast := h.solid last (by simp)
  have hapart : first.span.stop ≤ last.span.offset :=
    le_of_append (first :: inner) h (by simp) (by simp)
  rw [Span.offset_cover, Span.stop_cover]
  omega

end Ordered

namespace ValueTree

theorem exists_bounds (tree : ValueTree) (h : Ordered tree.yield) :
    ∃ first last, tree.yield.head? = some first ∧ tree.yield.getLast? = some last ∧
      tree.value.span.offset = first.span.offset ∧ tree.value.span.stop = last.span.stop := by
  cases tree with
  | text span content => exact ⟨_, _, rfl, rfl, rfl, rfl⟩
  | number span literal value => exact ⟨_, _, rfl, rfl, rfl, rfl⟩
  | word span name =>
      refine ⟨_, _, rfl, rfl, ?_⟩
      rw [value, Value.span_ofWord]
      exact ⟨rfl, rfl⟩
  | list opened items closed =>
      refine ⟨_, Mark.closeBracket.token closed, rfl, ?_, h.cover⟩
      rw [yield, ← List.cons_append, List.getLast?_concat]
  | object opened fields closed =>
      refine ⟨_, Mark.closeBrace.token closed, rfl, ?_, h.cover⟩
      rw [yield, ← List.cons_append, List.getLast?_concat]

def Precedes (a b : ValueTree) : Prop :=
  a.value.span.stop ≤ b.value.span.offset

theorem precedes_of_append {a b : ValueTree} {front back : List Token} (h : Ordered (front ++ back))
    (ha : a.yield <:+: front) (hb : b.yield <:+: back) : a.Precedes b := by
  have hfront := (h.narrow (List.prefix_append _ _).isInfix).narrow ha
  have hback := (h.narrow (List.suffix_append _ _).isInfix).narrow hb
  rcases a.exists_bounds hfront with ⟨_, last, _, hlast, _, hstop⟩
  rcases b.exists_bounds hback with ⟨first, _, hfirst, _, hoffset, _⟩
  rw [Precedes, hstop, hoffset]
  exact h.le_of_append front (ha.subset (List.mem_of_getLast? hlast))
    (hb.subset (List.mem_of_mem_head? hfirst))

theorem pairwise_cons {tree : ValueTree} {trees : List ValueTree} {middle rest : List Token}
    (h : Ordered (tree.yield ++ (middle ++ rest))) (hparts : ∀ part ∈ trees, part.yield <:+: rest)
    (htrees : Ordered rest → trees.Pairwise Precedes) : (tree :: trees).Pairwise Precedes := by
  have hrest : rest <:+ middle ++ rest := List.suffix_append _ _
  constructor
  · intro part hpart
    exact precedes_of_append h List.infix_rfl ((hparts part hpart).trans hrest.isInfix)
  · exact htrees (h.narrow (hrest.trans (List.suffix_append _ _)).isInfix)

end ValueTree

theorem ItemsTree.pairwise_trees (items : ItemsTree) (h : Ordered items.yield) :
    items.trees.Pairwise ValueTree.Precedes := by
  cases items with
  | nil => exact .nil
  | cons item comma rest =>
      exact ValueTree.pairwise_cons h rest.isInfix_of_mem rest.pairwise_trees

theorem FieldsTree.pairwise_trees (fields : FieldsTree) (h : Ordered fields.yield) :
    fields.trees.Pairwise ValueTree.Precedes := by
  cases fields with
  | nil => exact .nil
  | cons key colon value comma rest =>
      have hvalues := h.narrow ((List.suffix_cons _ _).trans (List.suffix_cons _ _)).isInfix
      exact ValueTree.pairwise_cons hvalues rest.isInfix_of_mem rest.pairwise_trees

namespace ValueTree

theorem pairwise_children (tree : ValueTree) (h : Ordered tree.yield) :
    tree.children.Pairwise Precedes := by
  cases tree with
  | list opened items closed => exact items.pairwise_trees (h.narrow (isInfix_bracketed _ _ _))
  | object opened fields closed => exact fields.pairwise_trees (h.narrow (isInfix_bracketed _ _ _))
  | _ => exact .nil

theorem inside_of_mem {tree child : ValueTree} (h : Ordered tree.yield)
    (hchild : child ∈ tree.children) :
    tree.value.span.offset < child.value.span.offset ∧
      child.value.span.stop < tree.value.span.stop := by
  rcases exists_inner hchild with ⟨opened, inner, closed, hyield, hinner⟩
  rcases tree.exists_bounds h with ⟨first, last, hfirst, hlast, hoffset, hstop⟩
  rw [hyield] at h hfirst hlast
  rw [← List.cons_append, List.getLast?_concat] at hlast
  cases hfirst
  cases hlast
  have hchildOrdered : Ordered child.yield :=
    (h.narrow (isInfix_bracketed opened inner closed)).narrow hinner
  rcases child.exists_bounds hchildOrdered with ⟨first, last, hfirst, hlast, hoffset', hstop'⟩
  have hopened := h.solid opened (by simp)
  have hclosed := h.solid closed (by simp)
  have hbefore : opened.span.stop ≤ first.span.offset :=
    Ordered.le_of_append [opened] h (by simp)
      (List.mem_append_left _ (hinner.subset (List.mem_of_mem_head? hfirst)))
  have hbehind : last.span.stop ≤ closed.span.offset :=
    Ordered.le_of_append (opened :: inner) h
      (List.mem_cons_of_mem _ (hinner.subset (List.mem_of_getLast? hlast))) (by simp)
  omega

end ValueTree

/-!
## Slices

The characters of some tokens in a row can be taken out of a text and are scanned as the same
tokens, moved to the front. So the value that they derive is the same, moved to the front.
-/

theorem ValueTree.readAlone {piece : List Char} (tree : ValueTree)
    (h : Scans 0 piece tree.yield) : Value.ReadAlone (.ofList piece) tree.value := by
  have htokens : (Cursor.ofText (.ofList piece)).tokens =
      (tree.yield, .ok ⟨0 + byteLength piece, 0⟩) := by
    rw [Cursor.ofText, String.toList_ofList]
    exact h.tokens_eq
  constructor
  · exact ⟨_, congrArg Prod.snd htokens⟩
  · exact ⟨tree, congrArg Prod.fst htokens, rfl⟩
  · intro resource place hole outer hawaits
    have hrun := @State.run?_value resource tree place hole outer hawaits []
    rw [List.append_nil] at hrun
    rw [htokens]
    exact hrun

/-- The span of a value that is derived from some tokens of a text cuts out the characters of these
tokens. -/
theorem ValueTree.exists_slice {text : String} (tree : ValueTree) {before behind : List Token}
    (h : (Cursor.ofText text).tokens.1 = before ++ (tree.yield ++ behind)) :
    ∃ front gap piece back, text.toList = front ++ (gap ++ (piece ++ back)) ∧
      (∀ c ∈ gap, Text.isBlank c = true) ∧ Leads 0 front before (gap ++ (piece ++ back)) ∧
      Leads (byteLength (front ++ gap)) piece tree.yield back ∧
      (Cursor.mk (byteLength (front ++ (gap ++ piece))) back).tokens =
        (behind, (Cursor.ofText text).tokens.2) ∧
      tree.value.span = ⟨byteLength (front ++ gap), byteLength piece⟩ := by
  rcases Cursor.exists_leads h with ⟨_, _, _, _, hrest⟩
  rcases Cursor.exists_leads (congrArg Prod.fst hrest) with ⟨_, _, _, hyield, _⟩
  rcases tree.exists_bounds hyield.scans.ordered with ⟨first, last, hfirst, hlast, hoffset, hstop⟩
  rcases Cursor.exists_slice h hfirst hlast with
    ⟨front, gap, piece, back, htext, hgap, hfront, hpiece, hback, hstart, hend⟩
  have hzero : (Cursor.ofText text).offset = 0 := rfl
  rw [hzero] at hfront
  simp only [hzero, Nat.zero_add] at hpiece hback hstart hend
  refine ⟨front, gap, piece, back, htext, hgap, hfront, hpiece, hback, ?_⟩
  generalize tree.value.span = span at hoffset hstop
  obtain ⟨offset, length⟩ := span
  simp only [Span.stop, Span.mk.injEq, byteLength_append] at hoffset hstop hstart hend ⊢
  omega

theorem ValueTree.delimited {text : String} (tree : ValueTree) {before behind : List Token}
    (h : (Cursor.ofText text).tokens.1 = before ++ (tree.yield ++ behind)) :
    tree.value.Delimited text := by
  rcases tree.exists_slice h with ⟨start, gap, piece, back, htext, _, _, hpiece, _, hspan⟩
  rw [← List.append_assoc] at htext
  generalize start ++ gap = front at htext hpiece hspan
  have hscans := hpiece.scans
  have hordered := hscans.ordered
  -- The slice is scanned from zero on, so the tokens and their derivation are moved back there.
  rw [← Nat.add_zero (byteLength front)] at hscans
  rcases hscans.exists_unmoved with ⟨unmoved, hunmoved, hmoved⟩
  rw [← List.append_nil tree.yield] at hmoved
  rcases tree.exists_of_map (Span.keepsCover_moved _) hmoved with
    ⟨alone, more, rfl, hvalue, hmore⟩
  rw [List.map_eq_nil_iff.mp hmore, List.append_nil] at hunmoved
  constructor
  · rw [hspan]
    exact Span.liesIn_piece htext
  · exact ⟨front, piece, back, alone.value, htext, hspan, alone.readAlone hunmoved, hvalue⟩
  · intro child hchild
    rcases List.mem_map.mp (tree.subperm_children.subset hchild) with ⟨inner, hinner, rfl⟩
    exact inside_of_mem hordered hinner
  -- A name that is repeated puts values in another order than their tokens have. Two spans are apart
  -- in either order.
  · rcases tree.subperm_children with ⟨chosen, hperm, hsublist⟩
    have hapart : (tree.children.map value).Pairwise fun a b => a.span.Apart b.span :=
      List.pairwise_map.mpr ((tree.pairwise_children hordered).imp Or.inl)
    exact (hapart.sublist hsublist).perm hperm Or.symm

/-!
## Values of a query

The operands of a query are inside arguments of its document, and everything inside an argument has
a derivation inside that of the document.
-/

namespace DocumentTree

theorem exists_fields {tree : DocumentTree} {entry : Key × Value}
    (h : entry ∈ tree.document.arguments) :
    ∃ fields : FieldsTree, fields.yield <:+: tree.yield ∧ entry ∈ Fields.merged fields.entries := by
  unfold document at h
  cases harguments : tree.arguments with
  | none =>
      rw [harguments] at h
      cases h
  | some arguments =>
      simp only [harguments, Option.map_some, Option.getD_some] at h
      have hfields : arguments.fields.yield <:+: arguments.yield := isInfix_bracketed _ _ _
      have hwhole : arguments.yield <:+: tree.yield := by
        rw [yield, harguments, Option.map_some, Option.getD_some]
        exact (List.prefix_append _ _).isInfix.trans
          ((List.suffix_cons _ _).trans ((List.suffix_cons _ _).trans (List.suffix_append _ _))).isInfix
      exact ⟨arguments.fields, hfields.trans hwhole, h⟩

theorem exists_part {tree : DocumentTree} {entry : Key × Value}
    (h : entry ∈ tree.document.arguments) {node : Value} (hnode : entry.2.Reaches node) :
    ∃ part : ValueTree, part.yield <:+: tree.yield ∧ part.value = node := by
  rcases exists_fields h with ⟨fields, hfields, hmerged⟩
  have hentry := (Fields.subperm_merged _).subset (List.mem_map_of_mem hmerged)
  rw [fields.map_snd_entries] at hentry
  rcases List.mem_map.mp hentry with ⟨argument, hargument, hvalue⟩
  rcases ValueTree.exists_of_reaches hnode hvalue with ⟨part, hpart, hfound⟩
  exact ⟨part, (hpart.trans (fields.isInfix_of_mem argument hargument)).trans hfields, hfound⟩

end DocumentTree

theorem Derives.delimited {text : String} {tree : DocumentTree} (h : Derives text tree)
    {part : ValueTree} (hpart : part.yield <:+: tree.yield) : part.value.Delimited text := by
  rcases hpart with ⟨before, behind, htokens⟩
  apply part.delimited
  rw [h.1, ← htokens, List.append_assoc]

namespace Query

theorem exists_argument_of_mem {document : Document} {query : Query}
    (h : ofDocument document = .ok query) {filter : Filter} (hfilter : filter ∈ query.filters) :
    ∃ entry ∈ document.arguments, entry.2.Reaches filter.value :=
  ((blames_ofDocument document).of_eq_ok h).filters filter hfilter

/-- The span of every value that a query compares with, and of every value inside it, delimits the
value's own text. -/
theorem delimited_of_reaches {text : String} {query : Query} (h : ofText text = .ok query)
    {filter : Filter} (hfilter : filter ∈ query.filters) {node : Value}
    (hnode : filter.value.Reaches node) : node.Delimited text := by
  rcases bind_eq_ok.mp (mapError_eq_ok.mp h) with ⟨document, hdocument, hquery⟩
  rcases Document.ofText_eq_ok_iff.mp hdocument with ⟨tree, hderives, rfl⟩
  rcases exists_argument_of_mem hquery hfilter with ⟨entry, hentry, hreaches⟩
  rcases DocumentTree.exists_part hentry hreaches with ⟨operand, hoperand, hfound⟩
  rcases ValueTree.exists_of_reaches hnode hfound with ⟨part, hpart, rfl⟩
  exact hderives.delimited (hpart.trans hoperand)

def repeatedText : String :=
  "\x7bp(where:\x7ba:\x7beq:\x7bx:1,y:[\"é\"],x:2\x7d\x7d\x7d)\x7b\x7d\x7d"

def repeatedOperand : ValueTree :=
  .object ⟨16, 1⟩
    (.cons ⟨"x", ⟨17, 1⟩⟩ ⟨18, 1⟩ (.number ⟨19, 1⟩ "1" (.ofUInt64 1)) (some ⟨20, 1⟩)
      (.cons ⟨"y", ⟨21, 1⟩⟩ ⟨22, 1⟩
        (.list ⟨23, 1⟩ (.cons (.text ⟨24, 4⟩ "é") none .nil) ⟨28, 1⟩) (some ⟨29, 1⟩)
        (.cons ⟨"x", ⟨30, 1⟩⟩ ⟨31, 1⟩ (.number ⟨32, 1⟩ "2" (.ofUInt64 2)) none .nil)))
    ⟨33, 1⟩

def repeatedTree : DocumentTree where
  keyword := none
  opened := ⟨0, 1⟩
  resource := ⟨"p", ⟨1, 1⟩⟩
  arguments := some
    { opened := ⟨2, 1⟩
      fields := .cons ⟨"where", ⟨3, 5⟩⟩ ⟨8, 1⟩
        (.object ⟨9, 1⟩
          (.cons ⟨"a", ⟨10, 1⟩⟩ ⟨11, 1⟩
            (.object ⟨12, 1⟩ (.cons ⟨"eq", ⟨13, 2⟩⟩ ⟨15, 1⟩ repeatedOperand none .nil) ⟨34, 1⟩)
            none .nil)
          ⟨35, 1⟩)
        none .nil
      closed := ⟨36, 1⟩ }
  selecting := ⟨37, 1⟩
  selections := []
  selected := ⟨38, 1⟩
  closed := ⟨39, 1⟩

def repeatedQuery : Query where
  resource := ⟨"p", ⟨1, 1⟩⟩
  selections := []
  filters := [⟨"a", .eq, repeatedOperand.value⟩]

/-- The value of the repeated name stands behind the list, although its field is the first one. -/
theorem delimited_of_reaches_repeated :
    ofText repeatedText = .ok repeatedQuery ∧ repeatedOperand.value.span = ⟨16, 18⟩ ∧
      repeatedOperand.value.children.map Value.span = [⟨32, 1⟩, ⟨23, 6⟩] ∧
      repeatedOperand.value.Delimited repeatedText ∧
      (Value.string ⟨24, 4⟩ "é").Delimited repeatedText := by
  have hderives : Derives repeatedText repeatedTree :=
    Derives.of_toOption (by decide +kernel)
      (show (Cursor.ofText repeatedText).tokens.2.toOption = some ⟨40, 0⟩ by decide +kernel)
  have hdocument : repeatedTree.document =
      ⟨⟨"p", ⟨1, 1⟩⟩, [(⟨"where", ⟨3, 5⟩⟩, .object ⟨9, 27⟩ [(⟨"a", ⟨10, 1⟩⟩,
        .object ⟨12, 23⟩ [(⟨"eq", ⟨13, 2⟩⟩, repeatedOperand.value)])])], []⟩ := rfl
  have hentry : Filter.ofEntry "a" (⟨"eq", ⟨13, 2⟩⟩, repeatedOperand.value) =
      .ok ⟨"a", .eq, repeatedOperand.value⟩ := by
    have hoperator : FilterOperator.ofKey? "eq" = some .eq := by decide +kernel
    simp only [Filter.ofEntry, hoperator]
  have hmeaning : ofDocument repeatedTree.document = .ok repeatedQuery := by
    simp [hdocument, ofDocument, argument, Filter.ofValue, Filter.ofField, Value.asObject, hentry,
      ok_bind, repeatedQuery]
  have hquery : ofText repeatedText = .ok repeatedQuery := by
    rw [ofText_of_derives hderives, hmeaning]
    rfl
  have hdelimited := @delimited_of_reaches _ _ hquery _ (List.mem_singleton_self _)
  refine ⟨hquery, rfl, rfl, hdelimited (.refl _), hdelimited ?_⟩
  exact .child (.tail _ (.head _)) (.child (.head _) (.refl _))

end Query

end Declarative
end TableQuery
