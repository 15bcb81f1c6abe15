import TableQuery.Proofs.Declarative.Parsing
import TableQuery.Proofs.Declarative.Scanning

/-!
# Values at other places

The spans of a value can be mapped, which keeps the value and changes where it stands. If the spans of
tokens are mapped in a way that goes along with covering, the value that is derived from them is mapped
in the same way. So what is derived from tokens that were moved in a text was moved as a whole.
-/

namespace TableQuery

def Span.KeepsCover (f : Span → Span) : Prop :=
  ∀ a b, f (a.cover b) = (f a).cover (f b)

theorem Span.keepsCover_moved (distance : Nat) : KeepsCover (moved distance) := by
  intro a b
  simp only [moved, cover, between, stop, mk.injEq]
  omega

namespace Declarative

/-!
## Mapping spans

Mapping spans keeps names, so names that are repeated are merged in the same way.
-/

def Key.mapSpan (f : Span → Span) (key : Key) : Key :=
  ⟨key.name, f key.span⟩

mutual

def Value.mapSpans (f : Span → Span) : Value → Value
  | .string span content => .string (f span) content
  | .number span value => .number (f span) value
  | .boolean span value => .boolean (f span) value
  | .identifier span name => .identifier (f span) name
  | .list span items => .list (f span) (Value.mapSpansItems f items)
  | .object span fields => .object (f span) (Value.mapSpansFields f fields)

def Value.mapSpansItems (f : Span → Span) : List Value → List Value
  | [] => []
  | item :: items => item.mapSpans f :: Value.mapSpansItems f items

def Value.mapSpansField (f : Span → Span) : Key × Value → Key × Value
  | (key, value) => (key.mapSpan f, value.mapSpans f)

def Value.mapSpansFields (f : Span → Span) : List (Key × Value) → List (Key × Value)
  | [] => []
  | field :: fields => Value.mapSpansField f field :: Value.mapSpansFields f fields

end

namespace Value

variable (f : Span → Span)

theorem mapSpansFields_eq_map (fields : Fields) :
    mapSpansFields f fields = fields.map (mapSpansField f) := by
  induction fields with
  | nil => rfl
  | cons field fields ih => rw [mapSpansFields, ih, List.map_cons]

theorem mapSpans_ofWord (span : Span) (name : String) :
    (ofWord span name).mapSpans f = ofWord (f span) name := by
  unfold ofWord
  split
  · rfl
  · split <;> rfl

theorem mapSpansFields_insert (key : Key) (value : Value) (fields : Fields) :
    mapSpansFields f (fields.insert key value) =
      Fields.insert (key.mapSpan f) (value.mapSpans f) (mapSpansFields f fields) := by
  induction fields with
  | nil => rfl
  | cons field fields ih =>
      obtain ⟨key', value'⟩ := field
      by_cases h : key'.name = key.name
      · simp [Fields.insert, mapSpansFields, mapSpansField, Key.mapSpan, h]
      · simpa [Fields.insert, mapSpansFields, mapSpansField, Key.mapSpan, h] using ih

theorem mapSpansFields_merged (entries : List (Key × Value)) :
    mapSpansFields f (Fields.merged entries) = Fields.merged (mapSpansFields f entries) := by
  -- The induction takes off the last entry, because that is the one that is set last.
  rw [← entries.reverse_reverse]
  induction entries.reverse with
  | nil => rfl
  | cons entry earlier ih =>
      obtain ⟨key, value⟩ := entry
      have hconcat : mapSpansFields f (earlier.reverse ++ [(key, value)]) =
          mapSpansFields f earlier.reverse ++ [(key.mapSpan f, value.mapSpans f)] := by
        rw [mapSpansFields_eq_map, mapSpansFields_eq_map, List.map_append]
        rfl
      rw [List.reverse_cons, Fields.merged_concat, mapSpansFields_insert, ih, hconcat,
        Fields.merged_concat]

end Value

/-!
## Derivations from mapped tokens

The span of a list or an object covers its two brackets. So it is mapped like any other span only if
the mapping goes along with covering.
-/

section

variable {f : Span → Span}

theorem Token.exists_of_map_eq_cons {tokens : List Token} {lexeme : Lexeme} {span : Span}
    {rest : List Token} (h : tokens.map (Token.mapSpan f) = ⟨lexeme, span⟩ :: rest) :
    ∃ place more, tokens = ⟨lexeme, place⟩ :: more ∧ f place = span ∧
      more.map (Token.mapSpan f) = rest := by
  rcases List.map_eq_cons_iff.mp h with ⟨token, more, htokens, htoken, hmore⟩
  obtain ⟨lexeme', place⟩ := token
  cases htoken
  exact ⟨place, more, htokens, rfl, hmore⟩

theorem exists_comma_of_map {tokens : List Token} {comma : Option Span} {rest : List Token}
    (h : tokens.map (Token.mapSpan f) = commaYield comma ++ rest) :
    ∃ comma' more, tokens = commaYield comma' ++ more ∧ more.map (Token.mapSpan f) = rest := by
  cases comma with
  | none => exact ⟨none, tokens, rfl, h⟩
  | some span =>
      rcases Token.exists_of_map_eq_cons h with ⟨place, more, htokens, _, hmore⟩
      exact ⟨some place, more, htokens, hmore⟩

mutual

/-- What is derived from mapped tokens is mapped from what is derived from the tokens. -/
theorem ValueTree.exists_of_map (tree : ValueTree) (hcover : Span.KeepsCover f)
    {tokens rest : List Token} (h : tokens.map (Token.mapSpan f) = tree.yield ++ rest) :
    ∃ (origin : ValueTree) (more : List Token), tokens = origin.yield ++ more ∧
      origin.value.mapSpans f = tree.value ∧ more.map (Token.mapSpan f) = rest := by
  cases tree with
  | text span content =>
      rcases Token.exists_of_map_eq_cons h with ⟨place, more, rfl, rfl, hmore⟩
      exact ⟨.text place content, more, rfl, rfl, hmore⟩
  | number span literal value =>
      rcases Token.exists_of_map_eq_cons h with ⟨place, more, rfl, rfl, hmore⟩
      exact ⟨.number place literal value, more, rfl, rfl, hmore⟩
  | word span name =>
      rcases Token.exists_of_map_eq_cons h with ⟨place, more, rfl, rfl, hmore⟩
      exact ⟨.word place name, more, rfl, Value.mapSpans_ofWord f place name, hmore⟩
  | list opened items closed =>
      rw [ValueTree.yield, List.cons_append, List.append_assoc] at h
      rcases Token.exists_of_map_eq_cons h with ⟨place, behind, rfl, rfl, hbehind⟩
      rcases items.exists_of_map hcover hbehind with ⟨origin, tail, rfl, hvalues, htail⟩
      rcases Token.exists_of_map_eq_cons htail with ⟨place', more, rfl, rfl, hmore⟩
      refine ⟨.list place origin place', more, ?_, ?_, hmore⟩
      · rw [ValueTree.yield, List.cons_append, List.append_assoc]
        rfl
      · rw [ValueTree.value, Value.mapSpans, hvalues, hcover, ValueTree.value]
  | object opened fields closed =>
      rw [ValueTree.yield, List.cons_append, List.append_assoc] at h
      rcases Token.exists_of_map_eq_cons h with ⟨place, behind, rfl, rfl, hbehind⟩
      rcases fields.exists_of_map hcover hbehind with ⟨origin, tail, rfl, hentries, htail⟩
      rcases Token.exists_of_map_eq_cons htail with ⟨place', more, rfl, rfl, hmore⟩
      refine ⟨.object place origin place', more, ?_, ?_, hmore⟩
      · rw [ValueTree.yield, List.cons_append, List.append_assoc]
        rfl
      · rw [ValueTree.value, Value.mapSpans, Value.mapSpansFields_merged, hentries, hcover,
          ValueTree.value]

theorem ItemsTree.exists_of_map (items : ItemsTree) (hcover : Span.KeepsCover f)
    {tokens rest : List Token} (h : tokens.map (Token.mapSpan f) = items.yield ++ rest) :
    ∃ (origin : ItemsTree) (more : List Token), tokens = origin.yield ++ more ∧
      Value.mapSpansItems f origin.values = items.values ∧ more.map (Token.mapSpan f) = rest := by
  cases items with
  | nil => exact ⟨.nil, tokens, rfl, rfl, h⟩
  | cons item comma later =>
      rw [ItemsTree.yield, List.append_assoc, List.append_assoc] at h
      rcases item.exists_of_map hcover h with ⟨origin, behind, rfl, hvalue, hbehind⟩
      rcases exists_comma_of_map hbehind with ⟨comma', tail, rfl, htail⟩
      rcases later.exists_of_map hcover htail with ⟨origins, more, rfl, hvalues, hmore⟩
      refine ⟨.cons origin comma' origins, more, ?_, ?_, hmore⟩
      · rw [ItemsTree.yield, List.append_assoc, List.append_assoc]
      · rw [ItemsTree.values, Value.mapSpansItems, hvalue, hvalues, ItemsTree.values]

theorem FieldsTree.exists_of_map (fields : FieldsTree) (hcover : Span.KeepsCover f)
    {tokens rest : List Token} (h : tokens.map (Token.mapSpan f) = fields.yield ++ rest) :
    ∃ (origin : FieldsTree) (more : List Token), tokens = origin.yield ++ more ∧
      Value.mapSpansFields f origin.entries = fields.entries ∧
      more.map (Token.mapSpan f) = rest := by
  cases fields with
  | nil => exact ⟨.nil, tokens, rfl, rfl, h⟩
  | cons key colon value comma later =>
      rw [FieldsTree.yield, List.cons_append, List.cons_append, List.append_assoc,
        List.append_assoc] at h
      rcases Token.exists_of_map_eq_cons h with ⟨place, named, rfl, hkey, hnamed⟩
      rcases Token.exists_of_map_eq_cons hnamed with ⟨place', operand, rfl, _, hoperand⟩
      rcases value.exists_of_map hcover hoperand with ⟨origin, behind, rfl, hvalue, hbehind⟩
      rcases exists_comma_of_map hbehind with ⟨comma', tail, rfl, htail⟩
      rcases later.exists_of_map hcover htail with ⟨origins, more, rfl, hentries, hmore⟩
      refine ⟨.cons ⟨key.name, place⟩ place' origin comma' origins, more, ?_, ?_, hmore⟩
      · rw [FieldsTree.yield, List.cons_append, List.cons_append, List.append_assoc,
          List.append_assoc]
        rfl
      · rw [FieldsTree.entries, Value.mapSpansFields, Value.mapSpansField, hvalue, hentries,
          FieldsTree.entries, Key.mapSpan, hkey]

end

end

end Declarative
end TableQuery
