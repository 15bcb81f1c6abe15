import TableQuery.Declarative.Query
import TableQuery.Proofs.Outcome
import TableQuery.Proofs.Declarative.Parsing

/-!
# What is read does not depend on where it is read

Values, documents and queries know the bytes they were read from. Without these places the same
tokens give the same document, and the same document gives the same query: reading goes on in the same
way, and if it fails then for the same cause.
-/

namespace TableQuery
namespace Declarative

open Outcome

/-!
## Values without places

The places of a value and of its parts are all set to one place of no text.
-/

def nowhere : Span :=
  ⟨0, 0⟩

def Key.bare (key : Key) : Key :=
  ⟨key.name, nowhere⟩

mutual

def Value.bare : Value → Value
  | .string _ content => .string nowhere content
  | .number _ value => .number nowhere value
  | .boolean _ value => .boolean nowhere value
  | .identifier _ name => .identifier nowhere name
  | .list _ items => .list nowhere (Value.bareItems items)
  | .object _ fields => .object nowhere (Value.bareFields fields)

def Value.bareItems : List Value → List Value
  | [] => []
  | item :: items => item.bare :: Value.bareItems items

def Value.bareField : Key × Value → Key × Value
  | (key, value) => (key.bare, value.bare)

def Value.bareFields : List (Key × Value) → List (Key × Value)
  | [] => []
  | field :: fields => Value.bareField field :: Value.bareFields fields

end

namespace Value

theorem bareItems_eq_map (items : List Value) : bareItems items = items.map bare := by
  induction items with
  | nil => rfl
  | cons item items ih => rw [bareItems, ih, List.map_cons]

theorem bareFields_eq_map (fields : Fields) : bareFields fields = fields.map bareField := by
  induction fields with
  | nil => rfl
  | cons field fields ih => rw [bareFields, ih, List.map_cons]

theorem bareField_eq (field : Key × Value) : bareField field = (field.1.bare, field.2.bare) := by
  cases field
  rfl

theorem bareItems_concat (items : List Value) (item : Value) :
    bareItems (items ++ [item]) = bareItems items ++ [item.bare] := by
  rw [bareItems_eq_map, bareItems_eq_map, List.map_append]
  rfl

mutual

theorem bare_bare (value : Value) : value.bare.bare = value.bare := by
  cases value with
  | list span items => rw [bare, bare, bareItems_bareItems]
  | object span fields => rw [bare, bare, bareFields_bareFields]
  | _ => rfl

theorem bareItems_bareItems (items : List Value) : bareItems (bareItems items) = bareItems items := by
  cases items with
  | nil => rfl
  | cons item items => rw [bareItems, bareItems, bare_bare, bareItems_bareItems]

theorem bareField_bareField (field : Key × Value) :
    bareField (bareField field) = bareField field := by
  cases field with
  | mk key value =>
      rw [bareField, bareField, bare_bare]
      rfl

theorem bareFields_bareFields (fields : List (Key × Value)) :
    bareFields (bareFields fields) = bareFields fields := by
  cases fields with
  | nil => rfl
  | cons field fields => rw [bareFields, bareFields, bareField_bareField, bareFields_bareFields]

end

theorem bare_ofWord (span : Span) (name : String) :
    (ofWord span name).bare = ofWord nowhere name := by
  unfold ofWord
  split
  · rfl
  · split <;> rfl

theorem bareFields_insert (key : Key) (value : Value) (fields : Fields) :
    bareFields (fields.insert key value) =
      Fields.insert key.bare value.bare (bareFields fields) := by
  induction fields with
  | nil => rfl
  | cons field fields ih =>
      obtain ⟨key', value'⟩ := field
      by_cases h : key'.name = key.name
      · simp [Fields.insert, bareFields, bareField, Key.bare, h]
      · simpa [Fields.insert, bareFields, bareField, Key.bare, h] using ih

theorem get?_bareFields (fields : Fields) (name : String) :
    Fields.get? (bareFields fields) name = (fields.get? name).map bare := by
  induction fields with
  | nil => rfl
  | cons field fields ih =>
      obtain ⟨key, value⟩ := field
      rw [bareFields, bareField, Fields.get?_cons, Fields.get?_cons, ih]
      by_cases h : key.name = name
      · simp [Key.bare, h]
      · simp [Key.bare, h]

end Value

/-!
## Reading tokens

Taking the places away goes along with every step of reading tokens.
-/

def Token.bare (token : Token) : Token :=
  ⟨token.lexeme, nowhere⟩

def Document.bare (document : Document) : Document where
  resource := document.resource.bare
  arguments := Value.bareFields document.arguments
  selections := document.selections

theorem Document.bare_bare (document : Document) : document.bare.bare = document.bare := by
  simp only [bare, Value.bareFields_bareFields]
  rfl

def Focus.bare : Focus → Focus
  | .fields entries comma => .fields (Value.bareFields entries) comma
  | .colon entries key => .colon (Value.bareFields entries) key.bare
  | .operand entries key => .operand (Value.bareFields entries) key.bare
  | .items entries comma => .items (Value.bareItems entries) comma

def Hole.bare : Hole → Hole
  | .field _ entries key => .field nowhere (Value.bareFields entries) key.bare
  | .item _ entries => .item nowhere (Value.bareItems entries)

def Place.bare (place : Place) : Place :=
  ⟨nowhere, place.focus.bare, place.outer.map Hole.bare⟩

def State.bare : State → State
  | .start => .start
  | .keyword => .keyword
  | .body => .body
  | .named resource => .named resource.bare
  | .arguments resource place => .arguments resource.bare place.bare
  | .argued resource entries => .argued resource.bare (Value.bareFields entries)
  | .selecting resource entries selections comma =>
    .selecting resource.bare (Value.bareFields entries) selections comma
  | .selected document => .selected document.bare
  | .complete document => .complete document.bare

theorem Place.bare_leave (value : Value) (hole : Hole) (outer : List Hole) :
    (Place.leave value hole outer).bare =
      .leave value.bare hole.bare (outer.map Hole.bare) := by
  cases hole with
  | field opened entries key =>
      simp only [Place.leave, Place.bare, Hole.fill, Focus.bare, Value.bareFields_insert]
      rfl
  | item opened entries =>
      simp only [Place.leave, Place.bare, Hole.fill, Focus.bare, Value.bareItems_concat]
      rfl

theorem Place.value?_bare (hole : Hole) (outer : List Hole) (token : Token) :
    Place.value? hole.bare (outer.map Hole.bare) token.bare =
      (Place.value? hole outer token).map Place.bare := by
  obtain ⟨lexeme, span⟩ := token
  cases lexeme with
  | text content => simp only [Place.value?, Token.bare, Option.map_some, bare_leave, Value.bare]
  | number literal value =>
      simp only [Place.value?, Token.bare, Option.map_some, bare_leave, Value.bare]
  | word name =>
      simp only [Place.value?, Token.bare, Option.map_some, bare_leave, Value.bare_ofWord]
  | mark mark => cases mark <;> rfl

namespace State

theorem expected_bare (state : State) : state.bare.expected = state.expected := by
  cases state with
  | arguments resource place =>
      obtain ⟨opened, focus, outer⟩ := place
      cases focus <;> rfl
  | _ => rfl

theorem map_value?_bare (resource : Key) (hole : Hole) (outer : List Hole) (token : Token) :
    (Place.value? hole.bare (outer.map Hole.bare) token.bare).map (arguments resource.bare) =
      ((Place.value? hole outer token).map (arguments resource)).map bare := by
  rw [Place.value?_bare, Option.map_map, Option.map_map]
  rfl

theorem argument?_fields_bare (resource : Key) (opened : Span) (entries : Fields) (comma : Bool)
    (outer : List Hole) (token : Token) :
    argument? resource.bare (Place.mk opened (.fields entries comma) outer).bare token.bare =
      (argument? resource ⟨opened, .fields entries comma, outer⟩ token).map bare := by
  obtain ⟨lexeme, span⟩ := token
  cases lexeme with
  | mark mark =>
      cases mark with
      | comma => cases comma <;> rfl
      | closeParen => cases outer <;> rfl
      | closeBrace =>
          cases outer with
          | nil => rfl
          | cons hole outer =>
              have hleave := Place.bare_leave (.object (opened.cover span) entries) hole outer
              simp only [argument?, Token.bare, Option.map_some, bare, hleave]
              rfl
      | _ => rfl
  | _ => rfl

theorem argument?_items_bare (resource : Key) (opened : Span) (entries : List Value) (comma : Bool)
    (outer : List Hole) (token : Token) :
    argument? resource.bare (Place.mk opened (.items entries comma) outer).bare token.bare =
      (argument? resource ⟨opened, .items entries comma, outer⟩ token).map bare := by
  have hvalue := map_value?_bare resource (.item opened entries) outer token
  obtain ⟨lexeme, span⟩ := token
  cases lexeme with
  | mark mark =>
      cases mark with
      | comma => cases comma <;> rfl
      | closeBracket =>
          cases outer with
          | nil => rfl
          | cons hole outer =>
              have hleave := Place.bare_leave (.list (opened.cover span) entries) hole outer
              simp only [argument?, Token.bare, Option.map_some, bare, hleave]
              rfl
      | _ => exact hvalue
  | _ => exact hvalue

theorem argument?_bare (resource : Key) (place : Place) (token : Token) :
    argument? resource.bare place.bare token.bare =
      (argument? resource place token).map bare := by
  obtain ⟨opened, focus, outer⟩ := place
  cases focus with
  | fields entries comma => exact argument?_fields_bare resource opened entries comma outer token
  | colon entries key =>
      by_cases h : token.lexeme = .mark .colon
      · simp only [argument?, Place.bare, Focus.bare, Token.bare, h, if_true]
        rfl
      · simp only [argument?, Place.bare, Focus.bare, Token.bare, h, if_false]
        rfl
  | operand entries key => exact map_value?_bare resource (.field opened entries key) outer token
  | items entries comma => exact argument?_items_bare resource opened entries comma outer token

theorem step?_bare (state : State) (token : Token) :
    state.bare.step? token.bare = (state.step? token).map bare := by
  obtain ⟨lexeme, span⟩ := token
  cases state with
  | start =>
      cases lexeme with
      | word name =>
          by_cases h : name = "query"
          · subst h
            rfl
          · simp [step?, bare, Token.bare, h]
      | mark mark => cases mark <;> rfl
      | _ => rfl
  | arguments resource place => exact argument?_bare resource place ⟨lexeme, span⟩
  | selecting resource entries selections comma =>
      cases lexeme with
      | mark mark => cases mark <;> cases comma <;> rfl
      | _ => cases comma <;> rfl
  | _ =>
      cases lexeme with
      | mark mark => cases mark <;> rfl
      | _ => rfl

end State

def SameCause (fault fault' : Fault) : Prop :=
  fault.cause = fault'.cause

/-- The same tokens are read in the same way wherever they stand. -/
theorem State.alike_read {ending ending' : Except Fault Span}
    (hending : Alike SameCause (fun _ => nowhere) ending ending') (state : State)
    (tokens : List Token) :
    Alike SameCause Document.bare (state.read ending tokens)
      (state.bare.read ending' (tokens.map Token.bare)) := by
  induction tokens generalizing state with
  | nil =>
      cases hending with
      | error h => exact Alike.error h
      | ok span =>
          cases state with
          | complete document => exact Alike.ok document
          | arguments resource place =>
              exact Alike.error (congrArg (Cause.unexpectedToken · none)
                (expected_bare (arguments resource place)).symm)
          | _ => exact Alike.error rfl
  | cons token tokens ih =>
      rw [List.map_cons, read, read, step?_bare]
      cases state.step? token with
      | some next => exact ih next
      | none =>
          exact Alike.error (congrArg (Cause.unexpectedToken · (some token.lexeme))
            state.expected_bare.symm)

/-!
## Understanding documents

Taking the places away goes along with understanding each kind of argument.
-/

def Filter.bare (filter : Filter) : Filter :=
  { filter with value := filter.value.bare }

/-- A query without the places of its parts. -/
def Query.bare (query : Query) : Query :=
  { query with resource := query.resource.bare, filters := query.filters.map Filter.bare }

namespace Value

theorem alike_asObject (field : String) (value : Value) :
    Alike SameCause bareFields (value.asObject field) (value.bare.asObject field) := by
  cases value with
  | object span fields => exact Alike.ok fields
  | _ => exact Alike.error rfl

theorem alike_asList (field : String) (value : Value) :
    Alike SameCause (List.map bare) (value.asList field) (value.bare.asList field) := by
  cases value with
  | list span items =>
      rw [bare, bareItems_eq_map]
      exact Alike.ok items
  | _ => exact Alike.error rfl

theorem alike_asBoolean (field : String) (value : Value) :
    Alike SameCause id (value.asBoolean field) (value.bare.asBoolean field) := by
  cases value with
  | boolean span value => exact Alike.ok value
  | _ => exact Alike.error rfl

theorem alike_asName (field : String) (value : Value) :
    Alike SameCause id (value.asName field) (value.bare.asName field) := by
  cases value with
  | string span content => exact Alike.ok content
  | identifier span name => exact Alike.ok name
  | _ => exact Alike.error rfl

theorem alike_asPageWord (field : String) (value : Value) :
    Alike SameCause id (value.asPageWord field) (value.bare.asPageWord field) := by
  cases value with
  | number span value =>
      simp only [bare, asPageWord]
      split
      · exact Alike.ok _
      · exact Alike.error rfl
  | _ => exact Alike.error rfl

theorem alike_optionalField {α : Type} (fields : Fields) (name : String)
    {understand : Value → Except Fault α}
    (h : ∀ value, Alike SameCause id (understand value) (understand value.bare)) :
    Alike SameCause id (optionalField fields name understand)
      (optionalField (bareFields fields) name understand) := by
  unfold optionalField
  rw [get?_bareFields]
  cases fields.get? name with
  | none => exact Alike.ok none
  | some value => exact Alike.map (h value) fun _ => rfl

theorem alike_toPaging (value : Value) :
    Alike SameCause id value.toPaging value.bare.toPaging :=
  Alike.bind (alike_asObject _ value) fun fields =>
    Alike.bind (alike_optionalField fields "page" (alike_asPageWord _)) fun page =>
      Alike.bind (alike_optionalField fields "pageSize" (alike_asPageWord _)) fun size =>
        Alike.ok (Paging.mk page size)

theorem alike_toNames (field : String) (value : Value) :
    Alike SameCause id (value.toNames field) (value.bare.toNames field) := by
  apply Alike.bind (alike_asList field value)
  intro items
  have hnames := Alike.mapM (alike_asName field) items
  rwa [List.map_id_fun] at hnames

theorem alike_toDirection (value : Value) :
    Alike SameCause id value.toDirection value.bare.toDirection := by
  apply Alike.bind (alike_asName _ value)
  intro word
  simp only [id]
  split
  · exact Alike.ok _
  · exact Alike.error rfl

theorem alike_toSortKey (value : Value) :
    Alike SameCause id value.toSortKey value.bare.toSortKey := by
  apply Alike.bind (alike_asObject _ value)
  intro fields
  apply Alike.bind (alike_optionalField fields "field" (alike_asName _))
  intro field
  cases field with
  | none => exact Alike.error rfl
  | some field =>
      exact Alike.bind (alike_optionalField fields "direction" alike_toDirection) fun _ =>
        Alike.ok _

theorem alike_toSorting (value : Value) :
    Alike SameCause id value.toSorting value.bare.toSorting := by
  apply Alike.bind (alike_asList _ value)
  intro items
  have hkeys := Alike.mapM alike_toSortKey items
  rwa [List.map_id_fun] at hkeys

end Value

namespace Filter

theorem alike_ofEntry (field : String) (entry : Key × Value) :
    Alike SameCause bare (ofEntry field entry) (ofEntry field (Value.bareField entry)) := by
  obtain ⟨key, value⟩ := entry
  simp only [ofEntry, Value.bareField, Key.bare]
  split
  · exact Alike.ok _
  · exact Alike.error rfl

theorem alike_ofField (entry : Key × Value) :
    Alike SameCause (List.map bare) (ofField entry) (ofField (Value.bareField entry)) := by
  obtain ⟨key, value⟩ := entry
  apply Alike.bind (Value.alike_asObject _ value)
  intro operators
  rw [Value.bareFields_eq_map]
  exact Alike.mapM (alike_ofEntry key.name) operators

theorem alike_ofValue (value : Value) :
    Alike SameCause (List.map bare) (ofValue value) (ofValue value.bare) := by
  apply Alike.bind (Value.alike_asObject _ value)
  intro fields
  rw [Value.bareFields_eq_map]
  apply Alike.bind (Alike.mapM alike_ofField fields)
  intro perField
  rw [← List.map_flatten]
  exact Alike.ok perField.flatten

end Filter

namespace Query

theorem alike_argument (query : Query) (entry : Key × Value) :
    Alike SameCause bare (query.argument entry) (query.bare.argument (Value.bareField entry)) := by
  obtain ⟨key, value⟩ := entry
  simp only [argument, Value.bareField, Key.bare]
  split
  · exact Alike.bind value.alike_toPaging fun _ => Alike.ok _
  · exact Alike.bind (value.alike_asBoolean _) fun _ => Alike.ok _
  · exact Alike.bind (value.alike_asBoolean _) fun _ => Alike.ok _
  · exact Alike.bind (value.alike_toNames _) fun _ => Alike.ok _
  · exact Alike.bind (value.alike_toNames _) fun _ => Alike.ok _
  · exact Alike.bind (value.alike_toNames _) fun _ => Alike.ok _
  · exact Alike.bind (value.alike_toNames _) fun _ => Alike.ok _
  · exact Alike.bind value.alike_toSorting fun _ => Alike.ok _
  · exact Alike.bind (Filter.alike_ofValue value) fun _ => Alike.ok _
  · exact Alike.error rfl

theorem alike_ofDocument (document : Document) :
    Alike SameCause bare (ofDocument document) (ofDocument document.bare) := by
  have harguments := Alike.foldlM alike_argument
    { resource := document.resource, selections := document.selections } document.arguments
  rw [← Value.bareFields_eq_map] at harguments
  exact harguments

end Query

/-!
## Two texts

What the kind of a cause is can be chosen: the cause itself, its wording, or less than that. Texts with
the same tokens in front of ends of one kind are read in one way.
-/

section

variable {κ : Type} {kind : Cause → κ}

def SameKind (kind : Cause → κ) (fault fault' : Fault) : Prop :=
  kind fault.cause = kind fault'.cause

theorem SameKind.refl (fault : Fault) : SameKind kind fault fault :=
  rfl

theorem SameKind.of_sameCause (fault fault' seen seen' : Fault) (h : SameCause fault seen)
    (h' : SameCause fault' seen') (hkind : SameKind kind seen seen') :
    SameKind kind fault fault' := by
  unfold SameCause at h h'
  unfold SameKind at hkind ⊢
  rw [h, h', hkind]

theorem agree_of_alike {α β : Type} {view : α → β} {x x' : Except Fault α} {y : Except Fault β}
    (hx : Alike SameCause view x y) (hx' : Alike SameCause view x' y) :
    Agree (SameKind kind) (fun a a' => view a = view a') x x' :=
  Agree.of_alike SameKind.of_sameCause hx hx' (Agree.refl SameKind.refl y)

theorem State.agree_read {ending ending' : Except Fault Span}
    (hending : Agree (SameKind kind) Eq ending ending') (state : State) (tokens : List Token) :
    Agree (SameKind kind) Eq (state.read ending tokens) (state.read ending' tokens) := by
  induction tokens generalizing state with
  | nil =>
      cases hending with
      | error h => exact .error h
      | ok h =>
          subst h
          exact Agree.refl SameKind.refl _
  | cons token tokens ih =>
      simp only [read]
      cases state.step? token with
      | some next => exact ih next
      | none => exact .error rfl

/-- What two texts are scanned as: the same tokens, wherever they stand, in front of ends of one
kind. -/
structure ScannedAlike (kind : Cause → κ) (scanned scanned' : List Token × Except Fault Span) :
    Prop where
  tokens : scanned.1.map Token.bare = scanned'.1.map Token.bare
  ending : Agree (SameKind kind) (fun _ _ => True) scanned.2 scanned'.2

theorem ScannedAlike.trans {scanned middle scanned' : List Token × Except Fault Span}
    (h : ScannedAlike kind scanned middle) (h' : ScannedAlike kind middle scanned') :
    ScannedAlike kind scanned scanned' := by
  rcases h with ⟨htokens, hending⟩
  rcases h' with ⟨htokens', hending'⟩
  refine ⟨htokens.trans htokens', ?_⟩
  generalize scanned.2 = ending at hending
  generalize middle.2 = ending₁ at hending hending'
  generalize scanned'.2 = ending₂ at hending'
  cases hending with
  | ok _ =>
      cases hending' with
      | ok _ => exact .ok trivial
  | error h =>
      cases hending' with
      | error h' => exact .error (Eq.trans h h')

theorem ScannedAlike.append (front : List Token)
    {scanned scanned' : List Token × Except Fault Span} (h : ScannedAlike kind scanned scanned') :
    ScannedAlike kind (front ++ scanned.1, scanned.2) (front ++ scanned'.1, scanned'.2) := by
  refine ⟨?_, h.ending⟩
  rw [List.map_append, List.map_append, h.tokens]

theorem ScannedAlike.agree_read {tokens tokens' : List Token} {ending ending' : Except Fault Span}
    (h : ScannedAlike kind (tokens, ending) (tokens', ending')) :
    Agree (SameKind kind) (fun document document' => document.bare = document'.bare)
      (State.start.read ending tokens) (State.start.read ending' tokens') := by
  rcases h with ⟨htokens, hending⟩
  -- Both texts are compared with the bare tokens in front of a bare end.
  have hbare : ∀ ending : Except Fault Span,
      Alike SameCause (fun _ => nowhere) ending (ending.map fun _ => nowhere) := by
    intro ending
    cases ending with
    | ok span => exact .ok span
    | error fault => exact .error rfl
  have hbareEnding : Agree (SameKind kind) Eq (ending.map fun _ => nowhere)
      (ending'.map fun _ => nowhere) := by
    cases hending with
    | ok _ => exact .ok rfl
    | error h => exact .error h
  apply Agree.of_alike SameKind.of_sameCause (State.alike_read (hbare ending) .start tokens)
    (State.alike_read (hbare ending') .start tokens')
  rw [htokens]
  exact State.agree_read hbareEnding _ _

theorem Query.agree_ofText_of_document {text text' : String}
    (h : Agree (SameKind kind) (fun document document' => document.bare = document'.bare)
      (Document.ofText text) (Document.ofText text')) :
    Agree (SameKind kind) (fun query query' => query.bare = query'.bare)
      (ofText text) (ofText text') := by
  have hread : Agree (SameKind kind) (fun query query' => query.bare = query'.bare)
      (Document.ofText text >>= ofDocument) (Document.ofText text' >>= ofDocument) := by
    apply h.bind
    intro document document' hdocument
    have hmeaning := alike_ofDocument document
    rw [hdocument] at hmeaning
    exact agree_of_alike hmeaning (alike_ofDocument document')
  apply hread.mapError
  intro fault fault' hfault
  exact hfault

end

end Declarative
end TableQuery
