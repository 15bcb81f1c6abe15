import TableQuery.Proofs.Declarative.ViablePrefix

/-!
# Spans of a text

All spans that are read from a text start and stop between two of its characters: the spans of its
tokens, those of the values, documents and queries made of them, and those of the faults on the way.
-/

namespace TableQuery

open Outcome

/-!
## Spans that lie in a text

A span lies in a text if it starts and stops between characters. Spans that cover two such spans lie
in the text too.
-/

theorem isValid_byteLength {text : String} {before behind : List Char}
    (h : text.toList = before ++ behind) :
    (⟨byteLength before⟩ : String.Pos.Raw).IsValid text := by
  have htext : text = String.ofList before ++ String.ofList behind := by
    rw [← String.ofList_append, ← h, String.ofList_toList]
  have hend : (⟨byteLength before⟩ : String.Pos.Raw) = (String.ofList before).rawEndPos := by
    rw [← utf8ByteSize_ofList]
    rfl
  rw [htext, hend]
  exact String.Pos.Raw.isValid_rawEndPos.append_right _

namespace Span

/-- A span starts and stops between characters of a text. -/
structure LiesIn (text : String) (span : Span) : Prop where
  offset : (⟨span.offset⟩ : String.Pos.Raw).IsValid text
  stop : (⟨span.stop⟩ : String.Pos.Raw).IsValid text

theorem liesIn_piece {text : String} {before piece behind : List Char}
    (h : text.toList = before ++ (piece ++ behind)) :
    LiesIn text ⟨byteLength before, byteLength piece⟩ := by
  constructor
  · exact isValid_byteLength h
  · show (⟨byteLength before + byteLength piece⟩ : String.Pos.Raw).IsValid text
    rw [← List.append_assoc] at h
    rw [← byteLength_append]
    exact isValid_byteLength h

theorem offset_le_stop (span : Span) : span.offset ≤ span.stop :=
  Nat.le_add_right _ _

theorem offset_cover (a b : Span) : (a.cover b).offset = min a.offset b.offset :=
  rfl

theorem stop_cover (a b : Span) : (a.cover b).stop = max a.stop b.stop := by
  have ha := a.offset_le_stop
  show min a.offset b.offset + (max a.stop b.stop - min a.offset b.offset) = max a.stop b.stop
  omega

theorem LiesIn.cover {text : String} {a b : Span} (ha : a.LiesIn text) (hb : b.LiesIn text) :
    (a.cover b).LiesIn text := by
  constructor
  · rw [offset_cover, Nat.min_def]
    split
    · exact ha.offset
    · exact hb.offset
  · rw [stop_cover, Nat.max_def]
    split
    · exact hb.stop
    · exact ha.stop

end Span

inductive Fault.Points (p : Span → Prop) : Fault → Prop where
  | located (cause : Cause) {span : Span} (h : p span) : Points p (.located cause span)

theorem Fault.Points.imp {p q : Span → Prop} (h : ∀ span, p span → q span) {fault : Fault}
    (hfault : fault.Points p) : fault.Points q := by
  cases hfault with
  | located cause hspan => exact .located cause (h _ hspan)

namespace Declarative

open Fault (Points)

/-!
## Tokens
-/

namespace Cursor

theorem liesIn_item (text : String) (n : Nat) : ((ofText text).item n).span.LiesIn text := by
  by_cases hended : ((ofText text).after n).Ended
  · have htext : text.toList = text.toList ++ ([] ++ []) := (List.append_nil _).symm
    rw [hended.item, ← byteLength_toList]
    exact Span.liesIn_piece htext
  · rcases exists_piece hended with ⟨before, c, more, behind, outcome, htext, _, _, hitem⟩
    rw [hitem, Item.span_ofOutcome]
    exact Span.liesIn_piece htext

theorem liesIn_of_mem_tokens {text : String} {token : Token}
    (h : token ∈ (ofText text).tokens.1) : token.span.LiesIn text := by
  rcases List.mem_iff_getElem?.mp h with ⟨n, hn⟩
  have hlies := liesIn_item text n
  rw [item_of_getElem?_tokens hn] at hlies
  exact hlies

theorem ends_tokens (text : String) :
    Ends (Points (Span.LiesIn text)) (Span.LiesIn text) (ofText text).tokens.2 := by
  have hitem := (ofText text).item_length_tokens
  have hlies := liesIn_item text (ofText text).tokens.1.length
  cases hending : (ofText text).tokens.2 with
  | ok span =>
      rw [hitem, hending] at hlies
      exact .ok hlies
  | error found =>
      rw [hending] at hitem
      rcases exists_located_of_item_eq_fault hitem with ⟨cause, hfound⟩
      rw [hfound]
      exact .error (.located cause hlies)

end Cursor

/-!
## Values and documents

What is read keeps the spans of its tokens and those that cover two of them. So a property of spans
that covering keeps is one of all spans of a document if the tokens have it.
-/

inductive Value.Within (p : Span → Prop) : Value → Prop where
  | string {span : Span} (h : p span) (content : String) : Within p (.string span content)
  | number {span : Span} (h : p span) (value : Decimal) : Within p (.number span value)
  | boolean {span : Span} (h : p span) (value : Bool) : Within p (.boolean span value)
  | identifier {span : Span} (h : p span) (name : String) : Within p (.identifier span name)
  | list {span : Span} {items : List Value} (h : p span) (hitems : ∀ item ∈ items, Within p item) :
    Within p (.list span items)
  | object {span : Span} {fields : List (Key × Value)} (h : p span)
    (hkeys : ∀ field ∈ fields, p field.1.span) (hvalues : ∀ field ∈ fields, Within p field.2) :
    Within p (.object span fields)

variable {p : Span → Prop}

theorem Value.Within.span {value : Value} (h : value.Within p) : p value.span := by
  cases h <;> assumption

theorem Value.within_ofWord {span : Span} (h : p span) (name : String) :
    (Value.ofWord span name).Within p := by
  unfold ofWord
  split
  · exact .boolean h true
  · split
    · exact .boolean h false
    · exact .identifier h name

def Fields.Within (p : Span → Prop) (fields : Fields) : Prop :=
  ∀ field ∈ fields, p field.1.span ∧ field.2.Within p

namespace Fields

theorem within_nil : Within p [] := by
  intro field hfield
  cases hfield

theorem within_cons {field : Key × Value} {fields : Fields} :
    Within p (field :: fields) ↔ (p field.1.span ∧ field.2.Within p) ∧ Within p fields :=
  List.forall_mem_cons

theorem Within.insert {fields : Fields} (h : fields.Within p) {key : Key} (hkey : p key.span)
    {value : Value} (hvalue : value.Within p) : (fields.insert key value).Within p := by
  induction fields with
  | nil => exact within_cons.mpr ⟨⟨hkey, hvalue⟩, within_nil⟩
  | cons field fields ih =>
      obtain ⟨key', value'⟩ := field
      rcases within_cons.mp h with ⟨⟨hkey', hvalue'⟩, hrest⟩
      unfold Fields.insert
      split
      · exact within_cons.mpr ⟨⟨hkey', hvalue⟩, hrest⟩
      · exact within_cons.mpr ⟨⟨hkey', hvalue'⟩, ih hrest⟩

end Fields

structure Document.Within (p : Span → Prop) (document : Document) : Prop where
  resource : p document.resource.span
  arguments : document.arguments.Within p

def Focus.Within (p : Span → Prop) : Focus → Prop
  | .fields entries _ => entries.Within p
  | .colon entries key => entries.Within p ∧ p key.span
  | .operand entries key => entries.Within p ∧ p key.span
  | .items entries _ => ∀ item ∈ entries, item.Within p

def Hole.Within (p : Span → Prop) : Hole → Prop
  | .field opened entries key => p opened ∧ entries.Within p ∧ p key.span
  | .item opened entries => p opened ∧ ∀ item ∈ entries, item.Within p

structure Place.Within (p : Span → Prop) (place : Place) : Prop where
  opened : p place.opened
  focus : place.focus.Within p
  outer : ∀ hole ∈ place.outer, hole.Within p

def State.Within (p : Span → Prop) : State → Prop
  | .start | .keyword | .body => True
  | .named resource => p resource.span
  | .arguments resource place => p resource.span ∧ place.Within p
  | .argued resource entries => p resource.span ∧ entries.Within p
  | .selecting resource entries _ _ => p resource.span ∧ entries.Within p
  | .selected document | .complete document => document.Within p

namespace Place

theorem within_leave {value : Value} (hvalue : value.Within p) {hole : Hole}
    (hhole : hole.Within p) {outer : List Hole} (houter : ∀ hole ∈ outer, hole.Within p) :
    (leave value hole outer).Within p := by
  cases hole with
  | field opened entries key =>
      rcases hhole with ⟨hopened, hentries, hkey⟩
      exact ⟨hopened, hentries.insert hkey hvalue, houter⟩
  | item opened entries =>
      rcases hhole with ⟨hopened, hentries⟩
      refine ⟨hopened, ?_, houter⟩
      intro item hitem
      rcases List.mem_append.mp hitem with hitem | hitem
      · exact hentries item hitem
      · rw [List.mem_singleton.mp hitem]
        exact hvalue

theorem within_value? {hole : Hole} (hhole : hole.Within p) {outer : List Hole}
    (houter : ∀ hole ∈ outer, hole.Within p) {token : Token} (htoken : p token.span)
    {place : Place} (hplace : value? hole outer token = some place) : place.Within p := by
  have hopen : ∀ inner ∈ hole :: outer, inner.Within p :=
    List.forall_mem_cons.mpr ⟨hhole, houter⟩
  unfold value? at hplace
  split at hplace
  · cases hplace
    exact within_leave (.string htoken _) hhole houter
  · cases hplace
    exact within_leave (.number htoken _) hhole houter
  · cases hplace
    exact within_leave (Value.within_ofWord htoken _) hhole houter
  · cases hplace
    exact ⟨htoken, Fields.within_nil, hopen⟩
  · cases hplace
    refine ⟨htoken, ?_, hopen⟩
    intro item hitem
    cases hitem
  · cases hplace

end Place

namespace State

section

variable (hcover : ∀ a b, p a → p b → p (a.cover b))

include hcover

theorem within_argument? {resource : Key} (hresource : p resource.span) {place : Place}
    (h : place.Within p) {token : Token} (htoken : p token.span) {next : State}
    (hstep : argument? resource place token = some next) : next.Within p := by
  obtain ⟨opened, focus, outer⟩ := place
  rcases h with ⟨hopened, hfocus, houter⟩
  have hbracket : p (opened.cover token.span) := hcover _ _ hopened htoken
  cases focus with
  | fields entries comma =>
      simp only [argument?] at hstep
      split at hstep
      · cases hstep
        exact ⟨hresource, hopened, ⟨hfocus, htoken⟩, houter⟩
      · split at hstep
        · cases hstep
          exact ⟨hresource, hopened, hfocus, houter⟩
        · cases hstep
      · cases hstep
        exact ⟨hresource, hfocus⟩
      · cases hstep
        rcases List.forall_mem_cons.mp houter with ⟨hhole, houter⟩
        have hvalue : (Value.object (opened.cover token.span) entries).Within p :=
          .object hbracket (fun field hfield => (hfocus field hfield).1)
            fun field hfield => (hfocus field hfield).2
        exact ⟨hresource, Place.within_leave hvalue hhole houter⟩
      · cases hstep
  | colon entries key =>
      simp only [argument?] at hstep
      split at hstep
      · cases hstep
        exact ⟨hresource, hopened, hfocus, houter⟩
      · cases hstep
  | operand entries key =>
      have hhole : (Hole.field opened entries key).Within p := ⟨hopened, hfocus⟩
      rcases Option.map_eq_some_iff.mp hstep with ⟨found, hfound, rfl⟩
      exact ⟨hresource, Place.within_value? hhole houter htoken hfound⟩
  | items entries comma =>
      simp only [argument?] at hstep
      split at hstep
      · split at hstep
        · cases hstep
          exact ⟨hresource, hopened, hfocus, houter⟩
        · cases hstep
      · cases hstep
        rcases List.forall_mem_cons.mp houter with ⟨hhole, houter⟩
        exact ⟨hresource, Place.within_leave (.list hbracket hfocus) hhole houter⟩
      · have hhole : (Hole.item opened entries).Within p := ⟨hopened, hfocus⟩
        rcases Option.map_eq_some_iff.mp hstep with ⟨found, hfound, rfl⟩
        exact ⟨hresource, Place.within_value? hhole houter htoken hfound⟩

theorem within_step? {state next : State} (h : state.Within p) {token : Token}
    (htoken : p token.span) (hstep : state.step? token = some next) : next.Within p := by
  unfold step? at hstep
  split at hstep
  case h_7 resource place => exact within_argument? hcover h.1 h.2 htoken hstep
  all_goals cases hstep
  case h_1 => trivial
  case h_2 => trivial
  case h_3 => trivial
  case h_4 => exact htoken
  case h_5 => exact ⟨h, htoken, Fields.within_nil, List.forall_mem_nil _⟩
  case h_6 => exact ⟨h, Fields.within_nil⟩
  case h_8 => exact h
  case h_9 => exact h
  case h_10 => exact h
  case h_11 => exact ⟨h.1, h.2⟩
  case h_12 => exact h

theorem ends_read {ending : Except Fault Span} (hending : Ends (Points p) p ending)
    {tokens : List Token} (htokens : ∀ token ∈ tokens, p token.span) {state : State}
    (h : state.Within p) : Ends (Points p) (Document.Within p) (state.read ending tokens) := by
  induction tokens generalizing state with
  | nil =>
      unfold read
      split
      · cases hending with
        | error hfault => exact .error hfault
      · exact .ok h
      · cases hending with
        | ok hspan => exact .error (.located _ hspan)
  | cons token tokens ih =>
      rcases List.forall_mem_cons.mp htokens with ⟨htoken, hrest⟩
      unfold read
      split
      · rename_i next hnext
        exact ih hrest (within_step? hcover h htoken hnext)
      · exact .error (.located _ htoken)

end

end State

theorem Document.ends_ofText (text : String) :
    Ends (Points (Span.LiesIn text)) (Document.Within (Span.LiesIn text)) (Document.ofText text) :=
  State.ends_read (fun _ _ => Span.LiesIn.cover) (Cursor.ends_tokens text)
    (fun _ => Cursor.liesIn_of_mem_tokens) trivial

/-!
## Meaning

The meaning of a document keeps the spans of its resource and of the operands of its filters. What
makes no sense is a value, an operator or an argument of the document.
-/

structure Query.Within (p : Span → Prop) (query : Query) : Prop where
  resource : p query.resource.span
  filters : ∀ filter ∈ query.filters, filter.value.Within p

theorem Value.Within.reaches {value node : Value} (h : value.Within p)
    (hreaches : value.Reaches node) : node.Within p := by
  induction hreaches with
  | refl value => exact h
  | child hchild _ ih =>
      cases h with
      | list _ hitems => exact ih (hitems _ hchild)
      | object _ _ hvalues =>
          rcases List.mem_map.mp hchild with ⟨field, hfield, rfl⟩
          exact ih (hvalues field hfield)
      | _ => cases hchild

theorem Value.Blames.points {value : Value} (hvalue : value.Within p) {fault : Fault}
    (h : value.Blames fault) : Points p fault := by
  cases h with
  | shape field h hshape => exact .located _ (hvalue.reaches h).span
  | integer field h hnone => exact .located _ (hvalue.reaches h).span
  | direction field h hword hnone => exact .located _ (hvalue.reaches h).span
  | missing field h hnone => exact .located _ (hvalue.reaches h).span
  | operator field h hentry hnone =>
      cases hvalue.reaches h with
      | object _ hkeys _ => exact .located _ (hkeys _ hentry)

namespace Query

theorem ends_ofDocument {document : Document} (h : document.Within p) :
    Ends (Points p) (Query.Within p) (ofDocument document) := by
  have hpoints : ∀ fault, document.Blames fault → Points p fault := by
    intro fault hfault
    cases hfault with
    | argument hentry => exact .located _ (h.arguments _ hentry).1
    | value hentry hfault => exact hfault.points (h.arguments _ hentry).2
  apply ((blames_ofDocument document).imp hpoints).implies
  intro query hquery
  constructor
  · rw [hquery.resource]
    exact h.resource
  · intro filter hfilter
    rcases hquery.filters filter hfilter with ⟨entry, hentry, hreaches⟩
    exact (h.arguments entry hentry).2.reaches hreaches

end Query

end Declarative
end TableQuery
