import TableQuery.Proofs.Declarative.ViablePrefix
import TableQuery.Proofs.Pipeline.Compilation
import TableQuery.Proofs.Plan.FrontEnds

/-!
# Layout

How the tokens of a text are laid out says nothing. Two texts with the same items, whatever stands
between the items and wherever they stand, are read as queries that differ in places only and are
compiled to one statement, or both are refused for causes of one kind.

If the kinds of the faults in the texts agree, then so do the kinds of the faults of reading and
compiling.
-/

namespace TableQuery

open Outcome

namespace Declarative

variable {κ : Type} {kind : Cause → κ}

/-!
## Items that agree

The kind and the content of a token say all about it, because a number is known by its literal.
-/

/-- Two items agree, wherever they stand: tokens of one kind with one content, faults of one kind, or
the ends of both texts. -/
def Item.Agrees (kind : Cause → κ) : Item → Item → Prop
  | .token found, .token found' =>
    found.lexeme.kind = found'.lexeme.kind ∧ found.lexeme.content = found'.lexeme.content
  | .fault found, .fault found' => kind found.cause = kind found'.cause
  | .finish _, .finish _ => True
  | _, _ => False

instance [DecidableEq κ] (item item' : Item) : Decidable (item.Agrees kind item') :=
  match item, item' with
  | .token found, .token found' => inferInstanceAs (Decidable
      (found.lexeme.kind = found'.lexeme.kind ∧ found.lexeme.content = found'.lexeme.content))
  | .fault found, .fault found' =>
    inferInstanceAs (Decidable (kind found.cause = kind found'.cause))
  | .finish _, .finish _ => inferInstanceAs (Decidable True)
  | .token _, .fault _ | .token _, .finish _ | .fault _, .token _ | .fault _, .finish _
  | .finish _, .token _ | .finish _, .fault _ => inferInstanceAs (Decidable False)

def Lexeme.IsRead : Lexeme → Prop
  | .number literal value => Decimal.ofChars? literal.toList = some value
  | _ => True

theorem Says.isRead {lexeme : Lexeme} {taken behind : List Char}
    (h : Says (.ok lexeme) taken behind) : lexeme.IsRead := by
  cases h with
  | number _ hvalue _ => exact hvalue
  | _ => trivial

theorem Mark.eq_of_name_eq {mark mark' : Mark} (h : mark.name = mark'.name) : mark = mark' := by
  have hchars := congrArg String.toList h
  simp only [Mark.name, String.toList_ofList, List.cons.injEq, and_true, true_and] at hchars
  have hmark := ofChar?_char mark
  rw [hchars, ofChar?_char] at hmark
  exact (Option.some.inj hmark).symm

def Lexeme.initial : Lexeme → Char
  | .word _ => 'i'
  | .text _ => 's'
  | .number _ _ => 'n'
  | .mark _ => '\''

theorem Lexeme.head?_kind (lexeme : Lexeme) : lexeme.kind.toList.head? = some lexeme.initial := by
  cases lexeme with
  | word name =>
      show "identifier".toList.head? = some 'i'
      decide
  | text content =>
      show "string".toList.head? = some 's'
      decide
  | number literal value =>
      show "number".toList.head? = some 'n'
      decide
  | mark mark => simp [kind, Mark.name, initial]

theorem Lexeme.eq_of_kind_eq {lexeme lexeme' : Lexeme} (hread : lexeme.IsRead)
    (hread' : lexeme'.IsRead) (hkind : lexeme.kind = lexeme'.kind)
    (hcontent : lexeme.content = lexeme'.content) : lexeme = lexeme' := by
  have hinitial := congrArg (fun text => text.toList.head?) hkind
  simp only [head?_kind, Option.some.injEq] at hinitial
  cases lexeme <;> cases lexeme'
  case word.word => exact congrArg Lexeme.word hcontent
  case text.text => exact congrArg Lexeme.text hcontent
  case number.number literal value literal' value' =>
    have hliteral : literal = literal' := hcontent
    subst hliteral
    have hvalue : some value = some value' := hread.symm.trans hread'
    cases hvalue
    rfl
  case mark.mark => exact congrArg Lexeme.mark (Mark.eq_of_name_eq hkind)
  all_goals simp [initial] at hinitial

/-!
## Reading

Texts whose items agree have the same tokens in front of ends of one kind.
-/

namespace Cursor

theorem isRead_of_next {cursor after : Cursor} {token : Token}
    (h : cursor.next = (.token token, after)) : token.lexeme.IsRead := by
  rcases cursor.next_cases with ⟨_, hnext⟩ | ⟨_, _, _, _, outcome, _, _, _, hsays, hnext⟩
  · rw [hnext] at h
    cases h
  · rw [hnext] at h
    cases outcome with
    | error cause => cases h
    | ok lexeme =>
        cases h
        exact hsays.isRead

theorem tokens_agree (cursor cursor' : Cursor)
    (h : ∀ n, (cursor.item n).Agrees kind (cursor'.item n)) :
    ScannedAlike kind cursor.tokens cursor'.tokens := by
  have hfirst := h 0
  rw [cursor.tokens_eq, cursor'.tokens_eq]
  rcases hnext : cursor.next with ⟨item, after⟩
  rcases hnext' : cursor'.next with ⟨item', after'⟩
  rw [item_zero, item_zero, hnext, hnext'] at hfirst
  cases item with
  | finish span =>
      cases item' with
      | finish span' => exact ⟨rfl, .ok trivial⟩
      | _ => cases hfirst
  | fault found =>
      cases item' with
      | fault found' => exact ⟨rfl, .error hfirst⟩
      | _ => cases hfirst
  | token token =>
      cases item' with
      | token token' =>
          have hlexeme : token.lexeme = token'.lexeme :=
            Lexeme.eq_of_kind_eq (isRead_of_next hnext) (isRead_of_next hnext') hfirst.1 hfirst.2
          have hshorter := length_rest_next hnext (by simp)
          have hrest : ∀ n, (after.item n).Agrees kind (after'.item n) := by
            intro n
            have hn := h (n + 1)
            rwa [item_succ, item_succ, hnext, hnext'] at hn
          rcases after.tokens_agree after' hrest with ⟨htokens, hending⟩
          refine ⟨?_, hending⟩
          simp only [List.map_cons, htokens, Token.bare, hlexeme]
      | _ => cases hfirst
termination_by cursor.rest.length

theorem agrees_of_ended {text text' : String} (count : Nat)
    (hended : ((ofText text).after count).Ended) (hended' : ((ofText text').after count).Ended)
    (h : ∀ n < count, ((ofText text).item n).Agrees kind ((ofText text').item n)) (n : Nat) :
    ((ofText text).item n).Agrees kind ((ofText text').item n) := by
  by_cases hn : n < count
  · exact h n hn
  · have hle := Nat.le_of_not_lt hn
    rw [(hended.after hle).item, (hended'.after hle).item]
    trivial

end Cursor

theorem Query.agree_ofText {text text' : String}
    (h : ∀ n, ((Cursor.ofText text).item n).Agrees kind ((Cursor.ofText text').item n)) :
    Agree (SameKind kind) (fun query query' => query.bare = query'.bare)
      (Query.ofText text) (Query.ofText text') :=
  agree_ofText_of_document (Cursor.tokens_agree _ _ h).agree_read

end Declarative

/-!
## Planning and rendering

Planning looks at the place of the name of an entity only for its faults, and rendering knows of no
places.
-/

open Declarative (SameKind)

variable {κ : Type} {kind : Cause → κ}

theorem Catalog.agree_entity (catalog : Catalog) (name : String) (span span' : Option Span) :
    Agree (SameKind kind) Eq (catalog.entity name span) (catalog.entity name span') := by
  unfold Catalog.entity
  cases Entity.ofName? name with
  | none => exact .error rfl
  | some entity =>
      cases catalog.table? .planning name with
      | none => exact .error rfl
      | some table => exact .ok rfl

theorem Catalog.agree_planDeclarative (catalog : Catalog) {query query' : Declarative.Query}
    (h : query.bare = query'.bare) :
    Agree (SameKind kind) Eq (catalog.planDeclarative query) (catalog.planDeclarative query') := by
  have hname : query.resource.name = query'.resource.name :=
    congrArg (fun query => query.resource.name) h
  unfold Catalog.planDeclarative
  rw [hname]
  apply Agree.bind (catalog.agree_entity query'.resource.name _ _)
  intro entity entity' hentity
  subst hentity
  have hplan := query.alike_plan entity
  rw [h] at hplan
  exact Declarative.agree_of_alike hplan (query'.alike_plan entity)

namespace Pipeline

theorem agree_attachTo {α : Type} {related : α → α → Prop} {x x' : Except Fault α}
    (h : Agree (SameKind kind) related x x') (input input' : Input) :
    Agree (SameKind kind) related (x.mapError input.attachTo) (x'.mapError input'.attachTo) := by
  apply h.mapError
  intro fault fault' hfault
  unfold SameKind
  rw [cause_attachTo, cause_attachTo]
  exact hfault

/-- The layout of a text says nothing. Two texts whose items agree are read as queries that differ in
places only, or both are refused for causes of one kind. With every catalog they are compiled to one
statement, or both are refused for causes of one kind. -/
theorem layout_independence {text text' : String}
    (h : ∀ n, ((Declarative.Cursor.ofText text).item n).Agrees kind
      ((Declarative.Cursor.ofText text').item n)) :
    Agree (SameKind kind) (fun query query' => query.bare = query'.bare)
        (Declarative.Query.ofText text) (Declarative.Query.ofText text') ∧
      ∀ catalog : Catalog, Agree (SameKind kind) Eq
        (compile ⟨.standard, catalog⟩ (.declarative text))
        (compile ⟨.standard, catalog⟩ (.declarative text')) := by
  have hquery := Declarative.Query.agree_ofText h
  refine ⟨hquery, ?_⟩
  intro catalog
  unfold compile
  rw [read_declarative, read_declarative]
  generalize Declarative.Query.ofText text = outcome at hquery
  generalize Declarative.Query.ofText text' = outcome' at hquery
  cases hquery with
  | error hfault => exact .error hfault
  | ok hbare =>
      apply Agree.bind (agree_attachTo (catalog.agree_planDeclarative hbare) _ _)
      intro plan plan' hplan
      subst hplan
      apply Agree.bind (agree_attachTo (Agree.refl SameKind.refl _) _ _)
      intro rendered rendered' hrendered
      subst hrendered
      exact .ok rfl

def compactText : String :=
  "\x7bt(where:\x7bq:\x7bgt:1.5\x7d\x7d)\x7bid\x7d\x7d"

def spreadText : String :=
  "\n\x7b t ( where : \x7b\n\tq : \x7b gt : 1.5 \x7d \x7d )\r\n\x7b id \x7d \x7d "

/-- One query in two layouts, and two texts that break off at different characters. -/
theorem layout_independence_spread :
    (∀ n, ((Declarative.Cursor.ofText compactText).item n).Agrees id
        ((Declarative.Cursor.ofText spreadText).item n)) ∧
      (∀ catalog : Catalog, Agree (SameKind id) Eq
        (compile ⟨.standard, catalog⟩ (.declarative compactText))
        (compile ⟨.standard, catalog⟩ (.declarative spreadText))) ∧
      (∀ n, ((Declarative.Cursor.ofText "\x7bt#").item n).Agrees Cause.faultClass
        ((Declarative.Cursor.ofText " \x7b t\n?").item n)) ∧
      ∀ catalog : Catalog, Agree (SameKind Cause.faultClass) Eq
        (compile ⟨.standard, catalog⟩ (.declarative "\x7bt#"))
        (compile ⟨.standard, catalog⟩ (.declarative " \x7b t\n?")) := by
  have hspread : ∀ n, ((Declarative.Cursor.ofText compactText).item n).Agrees id
      ((Declarative.Cursor.ofText spreadText).item n) :=
    Declarative.Cursor.agrees_of_ended 19 (by decide +kernel) (by decide +kernel)
      (by decide +kernel)
  have hbroken : ∀ n, ((Declarative.Cursor.ofText "\x7bt#").item n).Agrees Cause.faultClass
      ((Declarative.Cursor.ofText " \x7b t\n?").item n) :=
    Declarative.Cursor.agrees_of_ended 3 (by decide +kernel) (by decide +kernel)
      (by decide +kernel)
  exact ⟨hspread, (layout_independence hspread).2, hbroken, (layout_independence hbroken).2⟩

end Pipeline

end TableQuery
