import TableQuery.Declarative.Document

/-!
# The grammar of documents

A derivation of a document, of a value and of the entries in brackets is a tree. Its yield are the
tokens it derives, from left to right, and its meaning is put together from the meanings of its parts.
The grammar is unambiguous: derivations with one yield are one derivation.
-/

namespace TableQuery
namespace Declarative

/-!
## Derivations

Each item, each field and each selection may have a comma behind it. The arguments and the word in
front of a document may be left out.
-/

mutual

inductive ValueTree where
  | text (span : Span) (content : String)
  | number (span : Span) (literal : String) (value : Decimal)
  | word (span : Span) (name : String)
  | list (opened : Span) (items : ItemsTree) (closed : Span)
  | object (opened : Span) (fields : FieldsTree) (closed : Span)

inductive ItemsTree where
  | nil
  | cons (item : ValueTree) (comma : Option Span) (rest : ItemsTree)

inductive FieldsTree where
  | nil
  | cons (key : Key) (colon : Span) (value : ValueTree) (comma : Option Span) (rest : FieldsTree)

end

@[ext] structure ArgumentsTree where
  opened : Span
  fields : FieldsTree
  closed : Span

@[ext] structure DocumentTree where
  keyword : Option Span
  opened : Span
  resource : Key
  arguments : Option ArgumentsTree
  selecting : Span
  selections : List (Key × Option Span)
  selected : Span
  closed : Span

/-!
## Yields
-/

def Mark.token (mark : Mark) (span : Span) : Token :=
  ⟨.mark mark, span⟩

def Key.token (key : Key) : Token :=
  ⟨.word key.name, key.span⟩

def commaYield (comma : Option Span) : List Token :=
  (comma.map (Mark.token .comma)).toList

mutual

def ValueTree.yield : ValueTree → List Token
  | .text span content => [⟨.text content, span⟩]
  | .number span literal value => [⟨.number literal value, span⟩]
  | .word span name => [⟨.word name, span⟩]
  | .list opened items closed =>
    Mark.openBracket.token opened :: (items.yield ++ [Mark.closeBracket.token closed])
  | .object opened fields closed =>
    Mark.openBrace.token opened :: (fields.yield ++ [Mark.closeBrace.token closed])

def ItemsTree.yield : ItemsTree → List Token
  | .nil => []
  | .cons item comma rest => item.yield ++ (commaYield comma ++ rest.yield)

def FieldsTree.yield : FieldsTree → List Token
  | .nil => []
  | .cons key colon value comma rest =>
    key.token :: Mark.colon.token colon :: (value.yield ++ (commaYield comma ++ rest.yield))

end

def ArgumentsTree.yield (arguments : ArgumentsTree) : List Token :=
  Mark.openParen.token arguments.opened ::
    (arguments.fields.yield ++ [Mark.closeParen.token arguments.closed])

def selectionsYield : List (Key × Option Span) → List Token
  | [] => []
  | (key, comma) :: rest => key.token :: (commaYield comma ++ selectionsYield rest)

def queryKeyword : String := "query"

def keywordYield (keyword : Option Span) : List Token :=
  (keyword.map (Token.mk (.word queryKeyword))).toList

namespace DocumentTree

def bodyYield (tree : DocumentTree) : List Token :=
  Mark.openBrace.token tree.selecting :: (selectionsYield tree.selections ++
    [Mark.closeBrace.token tree.selected, Mark.closeBrace.token tree.closed])

def yield (tree : DocumentTree) : List Token :=
  keywordYield tree.keyword ++ Mark.openBrace.token tree.opened :: tree.resource.token ::
    ((tree.arguments.map ArgumentsTree.yield).getD [] ++ tree.bodyYield)

end DocumentTree

/-!
## Meanings

The entries of an object are derived as often as they are written, and then merged.
-/

/-- Fields that may repeat a name, each name once: its first appearance gives the place and the span,
its last appearance gives the value. -/
def Fields.merged : List (Key × Value) → Fields
  | [] => []
  | (key, value) :: rest =>
    (key, ((merged rest).get? key.name).getD value) ::
      (merged rest).filter fun entry => entry.1.name ≠ key.name

mutual

def ValueTree.value : ValueTree → Value
  | .text span content => .string span content
  | .number span _ value => .number span value
  | .word span name => .ofWord span name
  | .list opened items closed => .list (opened.cover closed) items.values
  | .object opened fields closed => .object (opened.cover closed) (Fields.merged fields.entries)

def ItemsTree.values : ItemsTree → List Value
  | .nil => []
  | .cons item _ rest => item.value :: rest.values

def FieldsTree.entries : FieldsTree → List (Key × Value)
  | .nil => []
  | .cons key _ value _ rest => (key, value.value) :: rest.entries

end

def DocumentTree.document (tree : DocumentTree) : Document where
  resource := tree.resource
  arguments := Fields.merged ((tree.arguments.map fun arguments => arguments.fields.entries).getD [])
  selections := tree.selections.map fun selection => selection.1.name

/-!
## Unambiguity

The first token of a value tells it from a comma and from a closing mark, so it is known where each
list of entries ends and whether a comma stands behind an entry.
-/

namespace Lexeme

def startsValue : Lexeme → Bool
  | text _ | number _ _ | word _ | mark .openBrace | mark .openBracket => true
  | mark _ => false

def closes : Lexeme → Bool
  | mark .closeBrace | mark .closeBracket | mark .closeParen => true
  | _ => false

end Lexeme

theorem ValueTree.yield_eq_cons (tree : ValueTree) :
    ∃ token tail, tree.yield = token :: tail ∧ token.lexeme.startsValue = true := by
  cases tree with
  | text span content => exact ⟨_, _, rfl, rfl⟩
  | number span literal value => exact ⟨_, _, rfl, rfl⟩
  | word span name => exact ⟨_, _, rfl, rfl⟩
  | list opened items closed => exact ⟨_, _, rfl, rfl⟩
  | object opened fields closed => exact ⟨_, _, rfl, rfl⟩

theorem ValueTree.length_lt_yield_append (tree : ValueTree) (behind rest : List Token) :
    rest.length < (tree.yield ++ (behind ++ rest)).length := by
  rcases tree.yield_eq_cons with ⟨first, tail, hyield, _⟩
  rw [hyield]
  simp only [List.cons_append, List.length_cons, List.length_append]
  omega

def NoComma (tokens : List Token) : Prop :=
  ∀ token ∈ tokens.head?, token.lexeme ≠ .mark .comma

theorem noComma_closer {closer : Token} (h : closer.lexeme.closes = true) (rest : List Token) :
    NoComma (closer :: rest) := by
  intro token htoken hcomma
  cases htoken
  rw [hcomma] at h
  cases h

theorem ItemsTree.noComma (items : ItemsTree) {closer : Token}
    (h : closer.lexeme.closes = true) (rest : List Token) :
    NoComma (items.yield ++ closer :: rest) := by
  cases items with
  | nil => exact noComma_closer h rest
  | cons item comma more =>
      rcases item.yield_eq_cons with ⟨first, tail, hyield, hstarts⟩
      rw [ItemsTree.yield, hyield]
      intro token htoken hcomma
      cases htoken
      rw [hcomma] at hstarts
      cases hstarts

theorem FieldsTree.noComma (fields : FieldsTree) {closer : Token}
    (h : closer.lexeme.closes = true) (rest : List Token) :
    NoComma (fields.yield ++ closer :: rest) := by
  cases fields with
  | nil => exact noComma_closer h rest
  | cons key colon value comma more =>
      intro token htoken hcomma
      cases htoken
      cases hcomma

theorem noComma_selections (selections : List (Key × Option Span)) {closer : Token}
    (h : closer.lexeme.closes = true) (rest : List Token) :
    NoComma (selectionsYield selections ++ closer :: rest) := by
  cases selections with
  | nil => exact noComma_closer h rest
  | cons selection more =>
      intro token htoken hcomma
      cases htoken
      cases hcomma

theorem commaYield_append_inj {comma comma' : Option Span} {rest rest' : List Token}
    (hrest : NoComma rest) (hrest' : NoComma rest')
    (h : commaYield comma ++ rest = commaYield comma' ++ rest') :
    comma = comma' ∧ rest = rest' := by
  cases comma with
  | none =>
      cases comma' with
      | none => exact ⟨rfl, h⟩
      | some span' =>
          change rest = Mark.comma.token span' :: rest' at h
          rw [h] at hrest
          exact absurd rfl (hrest _ rfl)
  | some span =>
      cases comma' with
      | none =>
          change Mark.comma.token span :: rest = rest' at h
          rw [← h] at hrest'
          exact absurd rfl (hrest' _ rfl)
      | some span' =>
          cases h
          exact ⟨rfl, rfl⟩

theorem Mark.token_inj {mark : Mark} {span span' : Span} (h : mark.token span = mark.token span') :
    span = span' := by
  cases h
  rfl

theorem Key.token_inj {key key' : Key} (h : key.token = key'.token) : key = key' := by
  cases key
  cases key'
  cases h
  rfl

theorem ValueTree.yield_ne_closer (item : ValueTree) {closer : Token}
    (h : closer.lexeme.closes = true) (behind rest : List Token) :
    item.yield ++ behind ≠ closer :: rest := by
  rcases item.yield_eq_cons with ⟨first, tail, hyield, hstarts⟩
  rw [hyield]
  intro heq
  cases heq
  cases hlexeme : closer.lexeme with
  | mark mark => cases mark <;> simp_all [Lexeme.startsValue, Lexeme.closes]
  | _ => simp_all [Lexeme.closes]

mutual

/-- No value is the beginning of another one. -/
theorem ValueTree.yield_append_inj (tree tree' : ValueTree) {rest rest' : List Token}
    (h : tree.yield ++ rest = tree'.yield ++ rest') : tree = tree' ∧ rest = rest' := by
  cases tree with
  | text span content =>
      cases tree' <;> cases h
      exact ⟨rfl, rfl⟩
  | number span literal value =>
      cases tree' <;> cases h
      exact ⟨rfl, rfl⟩
  | word span name =>
      cases tree' <;> cases h
      exact ⟨rfl, rfl⟩
  | list opened items closed =>
      cases tree' with
      | list opened' items' closed' =>
          simp only [ValueTree.yield, List.cons_append, List.append_assoc, List.nil_append,
            List.cons.injEq] at h
          rcases items.yield_closer_inj items' rfl rfl h.2 with ⟨hitems, hclosed, hrest⟩
          cases h.1
          cases hclosed
          rw [hitems, hrest]
          exact ⟨rfl, rfl⟩
      | _ => cases h
  | object opened fields closed =>
      cases tree' with
      | object opened' fields' closed' =>
          simp only [ValueTree.yield, List.cons_append, List.append_assoc, List.nil_append,
            List.cons.injEq] at h
          rcases fields.yield_closer_inj fields' rfl rfl h.2 with ⟨hfields, hclosed, hrest⟩
          cases h.1
          cases hclosed
          rw [hfields, hrest]
          exact ⟨rfl, rfl⟩
      | _ => cases h

theorem ItemsTree.yield_closer_inj (items items' : ItemsTree) {closer closer' : Token}
    {rest rest' : List Token} (hcloser : closer.lexeme.closes = true)
    (hcloser' : closer'.lexeme.closes = true)
    (h : items.yield ++ closer :: rest = items'.yield ++ closer' :: rest') :
    items = items' ∧ closer = closer' ∧ rest = rest' := by
  cases items with
  | nil =>
      cases items' with
      | nil =>
          cases h
          exact ⟨rfl, rfl, rfl⟩
      | cons item' comma' more' =>
          rw [ItemsTree.yield, ItemsTree.yield, List.append_assoc] at h
          exact absurd h.symm (item'.yield_ne_closer hcloser _ _)
  | cons item comma more =>
      cases items' with
      | nil =>
          rw [ItemsTree.yield, ItemsTree.yield, List.append_assoc] at h
          exact absurd h (item.yield_ne_closer hcloser' _ _)
      | cons item' comma' more' =>
          simp only [ItemsTree.yield, List.append_assoc] at h
          rcases item.yield_append_inj item' h with ⟨hitem, htail⟩
          rcases commaYield_append_inj (more.noComma hcloser rest) (more'.noComma hcloser' rest')
            htail with ⟨hcomma, hmore⟩
          rcases more.yield_closer_inj more' hcloser hcloser' hmore with ⟨hmore, hrest⟩
          rw [hitem, hcomma, hmore]
          exact ⟨rfl, hrest⟩

theorem FieldsTree.yield_closer_inj (fields fields' : FieldsTree) {closer closer' : Token}
    {rest rest' : List Token} (hcloser : closer.lexeme.closes = true)
    (hcloser' : closer'.lexeme.closes = true)
    (h : fields.yield ++ closer :: rest = fields'.yield ++ closer' :: rest') :
    fields = fields' ∧ closer = closer' ∧ rest = rest' := by
  cases fields with
  | nil =>
      cases fields' with
      | nil =>
          cases h
          exact ⟨rfl, rfl, rfl⟩
      | cons key' colon' value' comma' more' =>
          cases h
          cases hcloser
  | cons key colon value comma more =>
      cases fields' with
      | nil =>
          cases h
          cases hcloser'
      | cons key' colon' value' comma' more' =>
          simp only [FieldsTree.yield, List.cons_append, List.append_assoc, List.cons.injEq] at h
          rcases h with ⟨hkey, hcolon, hvalue⟩
          rcases value.yield_append_inj value' hvalue with ⟨hvalue, htail⟩
          rcases commaYield_append_inj (more.noComma hcloser rest) (more'.noComma hcloser' rest')
            htail with ⟨hcomma, hmore⟩
          rcases more.yield_closer_inj more' hcloser hcloser' hmore with ⟨hmore, hrest⟩
          cases hcolon
          rw [Key.token_inj hkey, hvalue, hcomma, hmore]
          exact ⟨rfl, hrest⟩

end

theorem selectionsYield_closer_inj (selections selections' : List (Key × Option Span))
    {closer closer' : Token} {rest rest' : List Token} (hcloser : closer.lexeme.closes = true)
    (hcloser' : closer'.lexeme.closes = true)
    (h : selectionsYield selections ++ closer :: rest =
      selectionsYield selections' ++ closer' :: rest') :
    selections = selections' ∧ closer = closer' ∧ rest = rest' := by
  induction selections generalizing selections' with
  | nil =>
      cases selections' with
      | nil =>
          cases h
          exact ⟨rfl, rfl, rfl⟩
      | cons selection' more' =>
          cases h
          cases hcloser
  | cons selection more ih =>
      cases selections' with
      | nil =>
          cases h
          cases hcloser'
      | cons selection' more' =>
          simp only [selectionsYield, List.cons_append, List.append_assoc, List.cons.injEq] at h
          rcases commaYield_append_inj (noComma_selections more hcloser rest)
            (noComma_selections more' hcloser' rest') h.2 with ⟨hcomma, hmore⟩
          rcases ih more' hmore with ⟨hmore, hrest⟩
          rw [Prod.ext (Key.token_inj h.1) hcomma, hmore]
          exact ⟨rfl, hrest⟩

namespace DocumentTree

theorem bodyYield_inj {tree tree' : DocumentTree} (h : tree.bodyYield = tree'.bodyYield) :
    tree.selecting = tree'.selecting ∧ tree.selections = tree'.selections ∧
      tree.selected = tree'.selected ∧ tree.closed = tree'.closed := by
  simp only [bodyYield, List.cons.injEq] at h
  rcases h with ⟨hselecting, hrest⟩
  rcases selectionsYield_closer_inj _ _ rfl rfl hrest with ⟨hselections, hselected, hclosed⟩
  simp only [List.cons.injEq, and_true] at hclosed
  exact ⟨Mark.token_inj hselecting, hselections, Mark.token_inj hselected, Mark.token_inj hclosed⟩

theorem argumentsYield_inj {tree tree' : DocumentTree}
    (h : (tree.arguments.map ArgumentsTree.yield).getD [] ++ tree.bodyYield =
      (tree'.arguments.map ArgumentsTree.yield).getD [] ++ tree'.bodyYield) :
    tree.arguments = tree'.arguments ∧ tree.bodyYield = tree'.bodyYield := by
  cases harguments : tree.arguments with
  | none =>
      cases harguments' : tree'.arguments with
      | none =>
          rw [harguments, harguments'] at h
          exact ⟨rfl, h⟩
      | some arguments' =>
          rw [harguments, harguments'] at h
          cases h
  | some arguments =>
      cases harguments' : tree'.arguments with
      | none =>
          rw [harguments, harguments'] at h
          cases h
      | some arguments' =>
          rw [harguments, harguments'] at h
          simp only [Option.map_some, Option.getD_some, ArgumentsTree.yield, List.cons_append,
            List.append_assoc, List.nil_append, List.cons.injEq] at h
          rcases h with ⟨hopened, hrest⟩
          rcases arguments.fields.yield_closer_inj arguments'.fields rfl rfl hrest with
            ⟨hfields, hclosed, hbody⟩
          rw [ArgumentsTree.ext (Mark.token_inj hopened) hfields (Mark.token_inj hclosed)]
          exact ⟨rfl, hbody⟩

theorem keywordYield_inj {keyword keyword' : Option Span} {opened opened' : Span}
    {rest rest' : List Token}
    (h : keywordYield keyword ++ Mark.openBrace.token opened :: rest =
      keywordYield keyword' ++ Mark.openBrace.token opened' :: rest') :
    keyword = keyword' ∧ opened = opened' ∧ rest = rest' := by
  cases keyword <;> cases keyword' <;> cases h <;> exact ⟨rfl, rfl, rfl⟩

theorem yield_inj {tree tree' : DocumentTree} (h : tree.yield = tree'.yield) : tree = tree' := by
  rcases keywordYield_inj h with ⟨hkeyword, hopened, hrest⟩
  simp only [List.cons.injEq] at hrest
  rcases hrest with ⟨hresource, hrest⟩
  rcases argumentsYield_inj hrest with ⟨harguments, hbody⟩
  rcases bodyYield_inj hbody with ⟨hselecting, hselections, hselected, hclosed⟩
  exact DocumentTree.ext hkeyword hopened (Key.token_inj hresource) harguments hselecting hselections
    hselected hclosed

end DocumentTree

end Declarative
end TableQuery
