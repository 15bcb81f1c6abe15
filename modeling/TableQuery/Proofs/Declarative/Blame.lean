import TableQuery.Declarative.Query
import TableQuery.Proofs.Outcome

/-!
# What is blamed

A document that makes no sense is refused because of one of its parts: an argument that is not known,
or a value inside an argument. The fault says what is wrong with the part, and it is right about that.
Everything else about these faults follows: their kind, the spans they point at, and the characters
that stand there.
-/

namespace TableQuery

open Outcome

def Requirement.admits : Requirement → Declarative.Shape → Bool
  | object, .object => true
  | list, .list => true
  | boolean, .boolean => true
  | name, .string | name, .identifier => true
  | number, .number => true
  | _, _ => false

namespace Declarative

/-!
## Values inside a value

A value reaches its items or the values of its fields, and all that these reach. What is blamed is
reached, and a fault about a value inside another one is a fault about that one too.
-/

namespace Value

def children : Value → List Value
  | list _ items => items
  | object _ fields => fields.map Prod.snd
  | _ => []

/-- A value is another one, or it is inside that one at some depth. -/
inductive Reaches : Value → Value → Prop where
  | refl (value : Value) : Reaches value value
  | child {value child node : Value} (hchild : child ∈ value.children) (h : Reaches child node) :
    Reaches value node

inductive Gives (name : String) : Value → Prop where
  | string (span : Span) : Gives name (.string span name)
  | identifier (span : Span) : Gives name (.identifier span name)

def pageNumber? (decimal : Decimal) : Option UInt32 :=
  decimal.whole?.bind Int.toNat? |>.bind pageWord?

/-- A fault is that of a value inside a value, and what it says about that value is so. -/
inductive Blames (value : Value) : Fault → Prop where
  | shape {node : Value} {required : Requirement} (field : String) (h : value.Reaches node)
    (hshape : required.admits node.shape = false) : Blames value (node.wrongShape field required)
  | integer {span : Span} {decimal : Decimal} (field : String)
    (h : value.Reaches (.number span decimal)) (hnone : pageNumber? decimal = none) :
    Blames value (.located (.invalidInteger field decimal) span)
  | direction {node : Value} {word : String} (field : String) (h : value.Reaches node)
    (hword : node.Gives word) (hnone : Direction.ofText? word = none) :
    Blames value (.located (.invalidDirection field word) node.span)
  | missing {span : Span} {fields : Fields} (field : String) (h : value.Reaches (.object span fields))
    (hnone : fields.get? "field" = none) : Blames value (.located (.missingField field) span)
  | operator {span : Span} {fields : Fields} {entry : Key × Value} (field : String)
    (h : value.Reaches (.object span fields)) (hentry : entry ∈ fields)
    (hnone : FilterOperator.ofKey? entry.1.name = none) :
    Blames value (.located (.unsupportedOperator field entry.1.name) entry.1.span)

theorem Blames.of_child {value child : Value} {fault : Fault} (hchild : child ∈ value.children)
    (h : child.Blames fault) : value.Blames fault := by
  cases h with
  | shape field h hshape => exact .shape field (.child hchild h) hshape
  | integer field h hnone => exact .integer field (.child hchild h) hnone
  | direction field h hword hnone => exact .direction field (.child hchild h) hword hnone
  | missing field h hnone => exact .missing field (.child hchild h) hnone
  | operator field h hentry hnone => exact .operator field (.child hchild h) hentry hnone

theorem mem_children_object (span : Span) {fields : Fields} {entry : Key × Value}
    (h : entry ∈ fields) : entry.2 ∈ (object span fields).children :=
  List.mem_map_of_mem h

/-!
## Values of a required kind

A value that is not of the required kind is blamed for just that.
-/

theorem blames_asObject (value : Value) (field : String) :
    Ends value.Blames (fun fields => ∃ span, value = .object span fields) (value.asObject field) := by
  cases value with
  | object span fields => exact .ok ⟨span, rfl⟩
  | _ => exact .error (.shape field (.refl _) rfl)

theorem blames_asList (value : Value) (field : String) :
    Ends value.Blames (fun items => ∃ span, value = .list span items) (value.asList field) := by
  cases value with
  | list span items => exact .ok ⟨span, rfl⟩
  | _ => exact .error (.shape field (.refl _) rfl)

theorem blames_asBoolean (value : Value) (field : String) :
    Ends value.Blames (fun _ => True) (value.asBoolean field) := by
  cases value with
  | boolean span value => exact .ok trivial
  | _ => exact .error (.shape field (.refl _) rfl)

theorem blames_asName (value : Value) (field : String) :
    Ends value.Blames (fun name => value.Gives name) (value.asName field) := by
  cases value with
  | string span content => exact .ok (.string span)
  | identifier span name => exact .ok (.identifier span)
  | _ => exact .error (.shape field (.refl _) rfl)

theorem blames_asPageWord (value : Value) (field : String) :
    Ends value.Blames (fun _ => True) (value.asPageWord field) := by
  cases value with
  | number span decimal =>
      simp only [asPageWord]
      split
      · exact .ok trivial
      · rename_i hnone
        exact .error (.integer field (.refl _) hnone)
  | _ => exact .error (.shape field (.refl _) rfl)

end Value

theorem Fields.exists_of_get? {fields : Fields} {name : String} {value : Value}
    (h : fields.get? name = some value) : ∃ entry ∈ fields, entry.2 = value := by
  rcases Option.map_eq_some_iff.mp h with ⟨entry, hentry, rfl⟩
  exact ⟨entry, List.mem_of_find?_eq_some hentry, rfl⟩

theorem blames_optionalField {α : Type} {q : Value → α → Prop} {span : Span} (fields : Fields)
    (name : String) {understand : Value → Except Fault α}
    (h : ∀ value, Ends value.Blames (q value) (understand value)) :
    Ends (Value.object span fields).Blames (fun found => found = none → fields.get? name = none)
      (optionalField fields name understand) := by
  unfold optionalField
  cases hget : fields.get? name with
  | none => exact .ok fun _ => rfl
  | some value =>
      rcases Fields.exists_of_get? hget with ⟨entry, hentry, rfl⟩
      have hchild := Value.mem_children_object span hentry
      apply ((h entry.2).imp fun _ => Value.Blames.of_child hchild).map
      intro found _ hnone
      cases hnone

/-!
## Arguments

What is wrong with an item or with the value of a field is wrong inside the list or the object, so
it is found inside the argument.
-/

namespace Value

theorem blames_toPaging (value : Value) : Ends value.Blames (fun _ => True) value.toPaging := by
  apply (value.blames_asObject _).bind
  rintro fields ⟨span, rfl⟩
  apply (blames_optionalField fields "page" fun value => value.blames_asPageWord _).bind
  intro page _
  apply (blames_optionalField fields "pageSize" fun value => value.blames_asPageWord _).bind
  intro size _
  exact .ok trivial

theorem blames_items {α : Type} {q : Value → α → Prop} {span : Span} (items : List Value)
    {understand : Value → Except Fault α}
    (h : ∀ item, Ends item.Blames (q item) (understand item)) :
    Ends (list span items).Blames (fun _ => True) (items.mapM understand) := by
  have hitems : ∀ item ∈ items, Ends (list span items).Blames (fun _ => True) (understand item) := by
    intro item hitem
    have hchild : item ∈ (list span items).children := hitem
    exact ((h item).imp fun _ => Blames.of_child hchild).weaken
  exact (Ends.mapM hitems).weaken

theorem blames_toNames (value : Value) (field : String) :
    Ends value.Blames (fun _ => True) (value.toNames field) := by
  apply (value.blames_asList field).bind
  rintro items ⟨span, rfl⟩
  exact blames_items items fun item => item.blames_asName field

theorem blames_toDirection (value : Value) : Ends value.Blames (fun _ => True) value.toDirection := by
  apply (value.blames_asName _).bind
  intro word hword
  split
  · exact .ok trivial
  · rename_i hnone
    exact .error (.direction _ (.refl _) hword hnone)

theorem blames_toSortKey (value : Value) : Ends value.Blames (fun _ => True) value.toSortKey := by
  apply (value.blames_asObject _).bind
  rintro fields ⟨span, rfl⟩
  apply (blames_optionalField fields "field" fun value => value.blames_asName _).bind
  intro field hfield
  cases field with
  | none => exact .error (.missing _ (.refl _) (hfield rfl))
  | some field =>
      apply (blames_optionalField fields "direction" blames_toDirection).bind
      intro direction _
      exact .ok trivial

theorem blames_toSorting (value : Value) : Ends value.Blames (fun _ => True) value.toSorting := by
  apply (value.blames_asList _).bind
  rintro items ⟨span, rfl⟩
  exact blames_items items blames_toSortKey

end Value

namespace Filter

theorem blames_ofField (entry : Key × Value) :
    Ends entry.2.Blames (fun filters => ∀ filter ∈ filters, filter.value ∈ entry.2.children)
      (ofField entry) := by
  obtain ⟨key, value⟩ := entry
  apply (value.blames_asObject _).bind
  rintro operators ⟨span, rfl⟩
  apply Ends.mapM
  intro operator hoperator
  unfold ofEntry
  split
  · exact .ok (Value.mem_children_object span hoperator)
  · rename_i hnone
    exact .error (.operator _ (.refl _) hoperator hnone)

theorem blames_ofValue (value : Value) :
    Ends value.Blames (fun filters => ∀ filter ∈ filters, value.Reaches filter.value)
      (ofValue value) := by
  apply (value.blames_asObject _).bind
  rintro fields ⟨span, rfl⟩
  have hfield : ∀ field ∈ fields, Ends (Value.object span fields).Blames
      (fun filters => ∀ filter ∈ filters, (Value.object span fields).Reaches filter.value)
      (ofField field) := by
    intro field hfield
    have hchild := Value.mem_children_object span hfield
    apply ((blames_ofField field).imp fun _ => Value.Blames.of_child hchild).implies
    intro filters hfilters filter hfilter
    exact .child hchild (.child (hfilters filter hfilter) (.refl _))
  apply (Ends.mapM hfield).bind
  intro perField hperField
  apply Ends.ok
  intro filter hfilter
  rcases List.mem_flatten.mp hfilter with ⟨filters, hfilters, hmem⟩
  exact hperField filters hfilters filter hmem

end Filter

/-!
## Documents

A fault of a document is that of an argument that is not known, or of a value inside an argument.
The operands of the filters are inside arguments as well.
-/

inductive Document.Blames (document : Document) : Fault → Prop where
  | argument {entry : Key × Value} (h : entry ∈ document.arguments) :
    Blames document (.located (.unsupportedArgument entry.1.name) entry.1.span)
  | value {entry : Key × Value} {fault : Fault} (h : entry ∈ document.arguments)
    (hfault : entry.2.Blames fault) : Blames document fault

structure Query.IsOf (document : Document) (query : Query) : Prop where
  resource : query.resource = document.resource
  filters : ∀ filter ∈ query.filters,
    ∃ entry ∈ document.arguments, entry.2.Reaches filter.value

namespace Query

theorem blames_argument {document : Document} {query : Query} (h : query.IsOf document)
    {entry : Key × Value} (hentry : entry ∈ document.arguments) :
    Ends document.Blames (IsOf document) (query.argument entry) := by
  have hfault : ∀ {α : Type} {q : α → Prop} {x : Except Fault α},
      Ends entry.2.Blames q x → Ends document.Blames q x :=
    fun hx => hx.imp fun _ => .value hentry
  obtain ⟨key, value⟩ := entry
  obtain ⟨hresource, hfilters⟩ := h
  unfold argument
  simp only
  split
  · exact (hfault value.blames_toPaging).bind fun _ _ => .ok ⟨hresource, hfilters⟩
  · exact (hfault (value.blames_asBoolean _)).bind fun _ _ => .ok ⟨hresource, hfilters⟩
  · exact (hfault (value.blames_asBoolean _)).bind fun _ _ => .ok ⟨hresource, hfilters⟩
  · exact (hfault (value.blames_toNames _)).bind fun _ _ => .ok ⟨hresource, hfilters⟩
  · exact (hfault (value.blames_toNames _)).bind fun _ _ => .ok ⟨hresource, hfilters⟩
  · exact (hfault (value.blames_toNames _)).bind fun _ _ => .ok ⟨hresource, hfilters⟩
  · exact (hfault (value.blames_toNames _)).bind fun _ _ => .ok ⟨hresource, hfilters⟩
  · exact (hfault value.blames_toSorting).bind fun _ _ => .ok ⟨hresource, hfilters⟩
  · apply (hfault (Filter.blames_ofValue value)).bind
    intro filters hreaches
    exact .ok ⟨hresource, fun filter hfilter => ⟨_, hentry, hreaches filter hfilter⟩⟩
  · exact .error (.argument hentry)

/-- A document that makes no sense is refused because of one of its parts, and what a query compares
with is part of its document. -/
theorem blames_ofDocument (document : Document) :
    Ends document.Blames (IsOf document) (ofDocument document) := by
  apply Ends.foldlM
  · intro query hquery entry hentry
    exact blames_argument hquery hentry
  · exact ⟨rfl, List.forall_mem_nil _⟩

end Query

end Declarative
end TableQuery
