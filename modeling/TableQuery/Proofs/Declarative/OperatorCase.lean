import TableQuery.Proofs.Declarative.OperatorKeys

/-!
# Operators in letters of any case

A document with keys of operators in other letters is understood like the document itself, up to the
comparisons of each field. Which comparisons these are depends on the keys that are written alike.
-/

namespace TableQuery

/-!
## Runs over related lists

Runs over two lists agree if the lists are related item by item and the steps keep the relation of
what has been gathered.
-/

namespace Outcome.Agree

variable {ε α β : Type} {same : ε → ε → Prop} {R : α → α → Prop} {related : β → β → Prop}

theorem exists_ok {x x' : Except ε β} (h : Agree same related x x') {b : β} (hx : x = .ok b) :
    ∃ b', x' = .ok b' ∧ related b b' := by
  cases h with
  | ok h =>
      cases hx
      exact ⟨_, rfl, h⟩
  | error h => cases hx

theorem mapM {f : α → Except ε β} (hf : ∀ x x', R x x' → Agree same related (f x) (f x'))
    {xs xs' : List α} (h : List.Forall₂ R xs xs') :
    Agree same (List.Forall₂ related) (xs.mapM f) (xs'.mapM f) := by
  induction h with
  | nil => exact .ok .nil
  | cons hx _ ih =>
      rw [List.mapM_cons, List.mapM_cons]
      exact (hf _ _ hx).bind fun _ _ hy => ih.bind fun _ _ hys => .ok (.cons hy hys)

theorem foldlM {f : β → α → Except ε β}
    (hf : ∀ b b' x x', related b b' → R x x' → Agree same related (f b x) (f b' x'))
    {xs xs' : List α} (h : List.Forall₂ R xs xs') {b b' : β} (hb : related b b') :
    Agree same related (xs.foldlM f b) (xs'.foldlM f b') := by
  induction h generalizing b b' with
  | nil => exact .ok hb
  | cons hx _ ih =>
      rw [List.foldlM_cons, List.foldlM_cons]
      exact (hf _ _ _ _ hb hx).bind fun _ _ hnext => ih hnext

end Outcome.Agree

namespace Declarative

open Outcome

/-!
## Values with other fields

Only objects that hold operators may differ, and they stand two levels below the arguments: under
the fields that are compared, which stand under the argument for conditions. All other values are
the same.
-/

inductive Value.Varies (related : Fields → Fields → Prop) : Value → Value → Prop where
  | same (value : Value) : Varies related value value
  | object {span : Span} {fields fields' : Fields} (h : related fields fields') :
    Varies related (.object span fields) (.object span fields')

namespace Fields

structure VariesAt (related : String → Value → Value → Prop) (entry entry' : Key × Value) :
    Prop where
  key : entry'.1 = entry.1
  value : related entry.1.name entry.2 entry'.2

abbrev Vary (related : String → Value → Value → Prop) : Fields → Fields → Prop :=
  List.Forall₂ (VariesAt related)

variable {related : String → Value → Value → Prop} {fields fields' : Fields}

theorem Vary.get? (h : Vary related fields fields') (name : String) {value value' : Value}
    (hvalue : related name value value') :
    related name ((fields.get? name).getD value) ((fields'.get? name).getD value') := by
  induction h with
  | nil => exact hvalue
  | @cons entry entry' fields fields' hentry _ ih =>
      rw [get?_cons, get?_cons, hentry.key]
      split
      · next hname =>
          rw [← hname]
          exact hentry.value
      · exact ih

theorem Vary.filter (h : Vary related fields fields') (name : String) :
    Vary related (fields.filter fun entry => entry.1.name ≠ name)
      (fields'.filter fun entry => entry.1.name ≠ name) := by
  apply List.rel_filter _ h
  intro entry entry' hentry
  simp [hentry.key]

theorem Vary.merged (h : Vary related fields fields') :
    Vary related (merged fields) (merged fields') := by
  induction h with
  | nil => exact .nil
  | @cons entry entry' fields fields' hentry _ ih =>
      obtain ⟨key, value⟩ := entry
      obtain ⟨key', value'⟩ := entry'
      obtain ⟨rfl, hvalue⟩ := hentry
      exact .cons ⟨rfl, ih.get? key'.name hvalue⟩ (ih.filter key'.name)

end Fields

def Value.VariesUnder (applies : String → Bool) (related : Fields → Fields → Prop) (name : String)
    (value value' : Value) : Prop :=
  if applies name then value.Varies related value' else value' = value

section

variable {related : Fields → Fields → Prop} {change : FieldsTree → FieldsTree}

theorem ValueTree.varies_mapObject {value : ValueTree}
    (h : ∀ object ∈ value.objects,
      related (Fields.merged object.entries) (Fields.merged (change object).entries)) :
    value.value.Varies related (value.mapObject change).value := by
  cases value with
  | object opened fields closed => exact .object (h fields (List.mem_singleton_self fields))
  | text span content => exact .same _
  | number span literal value => exact .same _
  | word span name => exact .same _
  | list opened items closed => exact .same _

theorem FieldsTree.vary_mapObjects (applies : String → Bool) {fields : FieldsTree}
    (h : ∀ object ∈ fields.objects applies,
      related (Fields.merged object.entries) (Fields.merged (change object).entries)) :
    Fields.Vary (Value.VariesUnder applies related) fields.entries
      (fields.mapObjects applies change).entries := by
  cases fields with
  | nil => exact .nil
  | cons key colon value comma rest =>
      rw [objects] at h
      refine .cons ⟨rfl, ?_⟩ (rest.vary_mapObjects applies fun object hobject =>
        h object (List.mem_append_right _ hobject))
      unfold Value.VariesUnder
      split
      · next happlies =>
          refine ValueTree.varies_mapObject fun object hobject => h object ?_
          rw [if_pos happlies]
          exact List.mem_append_left _ hobject
      · rfl

end

abbrev ConditionsVary (related : Fields → Fields → Prop) : Fields → Fields → Prop :=
  Fields.Vary (Value.VariesUnder (fun _ => true) related)

theorem DocumentTree.vary_recased {related : Fields → Fields → Prop} {chosen : List Nat}
    {tree : DocumentTree}
    (h : ∀ object ∈ tree.fieldObjects,
      related (Fields.merged object.entries)
        (Fields.merged (object.recasedKeys chosen).entries)) :
    Fields.Vary (Value.VariesUnder isWhere (ConditionsVary related)) tree.document.arguments
      (tree.recased chosen).document.arguments := by
  rw [fieldObjects] at h
  rw [document, document, recased]
  cases harguments : tree.arguments with
  | none => exact .nil
  | some arguments =>
      rw [harguments] at h
      refine (FieldsTree.vary_mapObjects isWhere fun conditions hconditions => ?_).merged
      refine (FieldsTree.vary_mapObjects _ fun object hobject => ?_).merged
      exact h object (List.mem_flatMap.mpr ⟨conditions, hconditions, hobject⟩)

/-!
## Meanings

All that is not a comparison is understood in the same way. The comparisons are gathered field by
field.
-/

/-- Lists of comparisons are compared field by field, and related operators on a field give related
comparisons or fail. -/
structure Gathers (related : Fields → Fields → Prop)
    (alike : List Filter → List Filter → Prop) : Prop where
  refl : ∀ filters, alike filters filters
  append : ∀ {front front' back back'}, alike front front' → alike back back' →
    alike (front ++ back) (front' ++ back')
  entries : ∀ (field : String) {fields fields' : Fields}, related fields fields' →
    Agree (fun _ _ => True) alike (fields.mapM (Filter.ofEntry field))
      (fields'.mapM (Filter.ofEntry field))

def Query.DiffersIn (alike : List Filter → List Filter → Prop) (query query' : Query) : Prop :=
  query' = { query with filters := query'.filters } ∧ alike query.filters query'.filters

namespace Gathers

variable {related : Fields → Fields → Prop} {alike : List Filter → List Filter → Prop}

theorem self (h : Gathers related alike) (x : Except Fault (List Filter)) :
    Agree (fun _ _ => True) alike x x := by
  cases x with
  | ok filters => exact .ok (h.refl filters)
  | error fault => exact .error trivial

theorem flatten (h : Gathers related alike) {perField perField' : List (List Filter)}
    (hall : List.Forall₂ alike perField perField') : alike perField.flatten perField'.flatten := by
  induction hall with
  | nil => exact h.refl []
  | cons hfirst _ ih => exact h.append hfirst ih

theorem ofField (h : Gathers related alike) {entry entry' : Key × Value}
    (hentry : Fields.VariesAt (Value.VariesUnder (fun _ => true) related) entry entry') :
    Agree (fun _ _ => True) alike (Filter.ofField entry) (Filter.ofField entry') := by
  obtain ⟨key, value⟩ := entry
  obtain ⟨key', value'⟩ := entry'
  obtain ⟨rfl, hvalue⟩ := hentry
  cases hvalue with
  | same => exact h.self _
  | object hfields => exact h.entries _ hfields

theorem ofValue (h : Gathers related alike) {value value' : Value}
    (hvalue : value.Varies (ConditionsVary related) value') :
    Agree (fun _ _ => True) alike (Filter.ofValue value) (Filter.ofValue value') := by
  cases hvalue with
  | same => exact h.self _
  | object hfields =>
      exact (Agree.mapM (fun _ _ hentry => h.ofField hentry) hfields).bind
        fun _ _ hall => .ok (h.flatten hall)

theorem argument (h : Gathers related alike) {query query' : Query} {entry entry' : Key × Value}
    (hquery : query.DiffersIn alike query')
    (hentry : Fields.VariesAt (Value.VariesUnder isWhere (ConditionsVary related)) entry entry') :
    Agree (fun _ _ => True) (Query.DiffersIn alike) (query.argument entry)
      (query'.argument entry') := by
  obtain ⟨key, value⟩ := entry
  obtain ⟨key', value'⟩ := entry'
  obtain ⟨rfl, hvalue⟩ := hentry
  obtain ⟨hsame, hfilters⟩ := hquery
  generalize query'.filters = filters at hsame hfilters
  subst hsame
  have hrefl : ∀ {α : Type} (x : Except Fault α), Agree (fun _ _ => True) Eq x x :=
    fun x => Agree.refl (fun _ => trivial) x
  simp only [Value.VariesUnder] at hvalue
  split at hvalue
  · next hwhere =>
      obtain ⟨name, span⟩ := key'
      cases of_decide_eq_true hwhere
      exact (h.ofValue hvalue).bind fun _ _ hall => .ok ⟨rfl, hall⟩
  · next hwhere =>
      subst hvalue
      simp only [Query.argument]
      split
      case h_9 hname => exact absurd (decide_eq_true hname) hwhere
      case h_10 => exact .error trivial
      all_goals
        refine (hrefl _).bind fun _ _ heq => ?_
        subst heq
        exact .ok ⟨rfl, hfilters⟩

theorem ofDocument (h : Gathers related alike) {chosen : List Nat} {tree : DocumentTree}
    (hobjects : ∀ object ∈ tree.fieldObjects,
      related (Fields.merged object.entries)
        (Fields.merged (object.recasedKeys chosen).entries)) :
    Agree (fun _ _ => True) (Query.DiffersIn alike) (Query.ofDocument tree.document)
      (Query.ofDocument (tree.recased chosen).document) := by
  refine Agree.foldlM ?_ (DocumentTree.vary_recased hobjects) ?_
  · intro query query' entry entry' hquery hentry
    exact h.argument hquery hentry
  · exact ⟨rfl, h.refl []⟩

end Gathers

/-!
## Operators on one field

Keys that find the same operator say the same about a field. What matters of a comparison is its
field and its operator.
-/

theorem FilterOperator.ofKey?_congr {key key' : String} (h : key.toLower = key'.toLower) :
    ofKey? key = ofKey? key' := by
  unfold ofKey?
  rw [h]

theorem Key.toLower_recased (chosen : List Nat) (key : Key) :
    (key.recased chosen).name.toLower = key.name.toLower :=
  Declarative.toLower_recased chosen key.span.offset key.name

def SaySame (entry entry' : Key × Value) : Prop :=
  entry.1.name.toLower = entry'.1.name.toLower ∧ entry.2 = entry'.2

theorem gathers_saySame : Gathers (List.Forall₂ SaySame) Eq := by
  refine ⟨fun _ => rfl, fun hfront hback => by rw [hfront, hback], fun field _ _ h => ?_⟩
  have hentry : ∀ entry entry', SaySame entry entry' →
      Agree (fun _ _ => True) Eq (Filter.ofEntry field entry) (Filter.ofEntry field entry') := by
    rintro ⟨key, value⟩ ⟨key', value'⟩ ⟨hname, hvalue⟩
    simp only at hname hvalue
    subst hvalue
    simp only [Filter.ofEntry, FilterOperator.ofKey?_congr hname]
    split
    · exact .ok rfl
    · exact .error trivial
  have hentries := Agree.mapM hentry h
  rwa [List.forall₂_eq_eq_eq] at hentries

/-- What a comparison is about. -/
def Filter.target (filter : Filter) : String × FilterOperator :=
  (filter.field, filter.operator)

def Fields.lowerNames (fields : Fields) : List String :=
  fields.map fun entry => entry.1.name.toLower

namespace Filter

variable {field : String} {fields fields' : Fields}

theorem ofEntry_eq_ok {entry : Key × Value} {filter : Filter}
    (h : ofEntry field entry = .ok filter) :
    (filter.field, some filter.operator) = (field, FilterOperator.ofKey? entry.1.name) := by
  unfold ofEntry at h
  split at h
  · next operator hoperator =>
      cases h
      rw [hoperator]
  · cases h

theorem succeeds_ofEntry {entry : Key × Value} :
    Succeeds (ofEntry field entry) ↔ (FilterOperator.ofKey? entry.1.name).isSome = true := by
  unfold ofEntry
  cases FilterOperator.ofKey? entry.1.name with
  | none => exact ⟨fun h => absurd h (not_succeeds_error _), fun h => by cases h⟩
  | some operator => exact ⟨fun _ => rfl, fun _ => succeeds_ok _⟩

theorem mem_targets {filters : List Filter} (h : fields.mapM (ofEntry field) = .ok filters)
    {target : String × FilterOperator} :
    target ∈ filters.map Filter.target ↔
      target.1 = field ∧ ∃ entry ∈ fields, FilterOperator.ofKey? entry.1.name = some target.2 := by
  have hview := map_view_of_mapM (fun _ _ => ofEntry_eq_ok) h
  have hmem : target ∈ filters.map Filter.target ↔ (target.1, some target.2) ∈
      filters.map fun filter => (filter.field, some filter.operator) := by
    simp [Filter.target, Prod.ext_iff]
  rw [hmem, hview, List.mem_map]
  constructor
  · rintro ⟨entry, hentry, heq⟩
    exact ⟨(congrArg Prod.fst heq).symm, entry, hentry, congrArg Prod.snd heq⟩
  · rintro ⟨hfield, entry, hentry, hoperator⟩
    exact ⟨entry, hentry, Prod.ext hfield.symm hoperator⟩

theorem succeeds_of_lowerNames (h : fields'.lowerNames ⊆ fields.lowerNames)
    (hsucceeds : Succeeds (fields.mapM (ofEntry field))) :
    Succeeds (fields'.mapM (ofEntry field)) := by
  rw [succeeds_mapM] at hsucceeds ⊢
  intro entry' hentry'
  rcases List.mem_map.mp (h (List.mem_map_of_mem hentry')) with ⟨entry, hentry, hname⟩
  have hoperator := succeeds_ofEntry.mp (hsucceeds entry hentry)
  rw [FilterOperator.ofKey?_congr hname] at hoperator
  exact succeeds_ofEntry.mpr hoperator

theorem mem_targets_of_lowerNames (h : fields'.lowerNames ⊆ fields.lowerNames)
    {filters filters' : List Filter} (hfilters : fields.mapM (ofEntry field) = .ok filters)
    (hfilters' : fields'.mapM (ofEntry field) = .ok filters') :
    filters'.map Filter.target ⊆ filters.map Filter.target := by
  intro target htarget
  rcases (mem_targets hfilters').mp htarget with ⟨hfield, entry', hentry', hoperator⟩
  rcases List.mem_map.mp (h (List.mem_map_of_mem hentry')) with ⟨entry, hentry, hname⟩
  rw [← FilterOperator.ofKey?_congr hname] at hoperator
  exact (mem_targets hfilters).mpr ⟨hfield, entry, hentry, hoperator⟩

end Filter

theorem gathers_lowerNames :
    Gathers (fun fields fields' =>
        fields.lowerNames ⊆ fields'.lowerNames ∧ fields'.lowerNames ⊆ fields.lowerNames)
      fun filters filters' => ∀ target, target ∈ filters.map Filter.target ↔
        target ∈ filters'.map Filter.target := by
  refine ⟨fun _ _ => Iff.rfl, ?_, ?_⟩
  · intro front front' back back' hfront hback target
    rw [List.map_append, List.map_append, List.mem_append, List.mem_append, hfront, hback]
  · rintro field fields fields' ⟨hforth, hback⟩
    have hsucceeds : Succeeds (fields.mapM (Filter.ofEntry field)) ↔
        Succeeds (fields'.mapM (Filter.ofEntry field)) :=
      ⟨Filter.succeeds_of_lowerNames hback, Filter.succeeds_of_lowerNames hforth⟩
    cases hfilters : fields.mapM (Filter.ofEntry field) with
    | ok filters =>
        rcases hsucceeds.mp ⟨filters, hfilters⟩ with ⟨filters', hfilters'⟩
        rw [hfilters']
        refine .ok fun target => ⟨fun h => ?_, fun h => ?_⟩
        · exact Filter.mem_targets_of_lowerNames hforth hfilters' hfilters h
        · exact Filter.mem_targets_of_lowerNames hback hfilters hfilters' h
    | error fault =>
        cases hfilters' : fields'.mapM (Filter.ofEntry field) with
        | ok filters' =>
            rcases hsucceeds.mpr ⟨filters', hfilters'⟩ with ⟨filters, hok⟩
            rw [hfilters] at hok
            cases hok
        | error fault' => exact .error trivial

/-!
## Merging

Keys are merged by how they are written. Other keys are merged in the same way if the same ones of
them are alike.
-/

namespace Fields

theorem mem_lowerNames_merged {entries : List (Key × Value)} {lower : String} :
    lower ∈ lowerNames (merged entries) ↔ lower ∈ lowerNames entries := by
  induction entries with
  | nil => exact Iff.rfl
  | cons entry entries ih =>
      obtain ⟨key, value⟩ := entry
      rw [merged, lowerNames, lowerNames, List.map_cons, List.map_cons, List.mem_cons,
        List.mem_cons]
      constructor
      · rintro (hfirst | hrest)
        · exact Or.inl hfirst
        · rcases List.mem_map.mp hrest with ⟨found, hfound, hlower⟩
          exact Or.inr (ih.mp (List.mem_map.mpr ⟨found, List.mem_of_mem_filter hfound, hlower⟩))
      · rintro (hfirst | hrest)
        · exact Or.inl hfirst
        · rcases List.mem_map.mp (ih.mpr hrest) with ⟨found, hfound, hlower⟩
          by_cases hname : found.1.name = key.name
          · rw [hname] at hlower
            exact Or.inl hlower.symm
          · refine Or.inr (List.mem_map.mpr ⟨found, List.mem_filter.mpr ⟨hfound, ?_⟩, hlower⟩)
            exact decide_eq_true hname

theorem get?_map_key {f : Key → Key} {fields : Fields} {name name' : String}
    (h : ∀ entry ∈ fields, (f entry.1).name = name' ↔ entry.1.name = name) :
    get? (fields.map fun entry => (f entry.1, entry.2)) name' = fields.get? name := by
  induction fields with
  | nil => rfl
  | cons entry fields ih =>
      rw [List.forall_mem_cons] at h
      rw [List.map_cons, get?_cons, get?_cons, ih h.2]
      simp only [h.1]

theorem merged_map_key {f : Key → Key} {entries : List (Key × Value)}
    (h : ∀ key ∈ entries.map Prod.fst, ∀ key' ∈ entries.map Prod.fst,
      (f key).name = (f key').name ↔ key.name = key'.name) :
    merged (entries.map fun entry => (f entry.1, entry.2)) =
      (merged entries).map fun entry => (f entry.1, entry.2) := by
  induction entries with
  | nil => rfl
  | cons entry entries ih =>
      obtain ⟨key, value⟩ := entry
      have hrest := ih fun found hfound found' hfound' =>
        h found (List.mem_cons_of_mem key hfound) found' (List.mem_cons_of_mem key hfound')
      have hkey : ∀ entry ∈ merged entries, (f entry.1).name = (f key).name ↔
          entry.1.name = key.name := by
        intro entry hentry
        rcases exists_key_of_mem_merged hentry with ⟨written, hwritten, hsame⟩
        rw [← hsame]
        exact h written.1 (List.mem_cons_of_mem key (List.mem_map_of_mem hwritten)) key
          List.mem_cons_self
      rw [List.map_cons, merged, merged, hrest, List.map_cons, get?_map_key hkey, List.filter_map]
      congr 2
      refine List.filter_congr fun entry hentry => ?_
      simp [hkey entry hentry]

end Fields

namespace FieldsTree

theorem map_fst_entries (fields : FieldsTree) : fields.entries.map Prod.fst = fields.keys := by
  cases fields with
  | nil => rfl
  | cons key colon value comma rest => rw [entries, keys, List.map_cons, rest.map_fst_entries]

theorem entries_recasedKeys (chosen : List Nat) (fields : FieldsTree) :
    (fields.recasedKeys chosen).entries =
      fields.entries.map fun entry => (entry.1.recased chosen, entry.2) := by
  cases fields with
  | nil => rfl
  | cons key colon value comma rest =>
      rw [recasedKeys, entries, entries, List.map_cons, rest.entries_recasedKeys]

end FieldsTree

/-!
## Texts
-/

/-- In each object that holds the operators on a field, the keys that are written alike are still
written alike, and no others are. -/
def DocumentTree.KeepsSpelling (chosen : List Nat) (tree : DocumentTree) : Prop :=
  ∀ object ∈ tree.fieldObjects, ∀ key ∈ object.keys, ∀ key' ∈ object.keys,
    (key.recased chosen).name = (key'.recased chosen).name ↔ key.name = key'.name

instance (chosen : List Nat) (tree : DocumentTree) : Decidable (tree.KeepsSpelling chosen) :=
  inferInstanceAs (Decidable (∀ object ∈ tree.fieldObjects, _))

namespace FieldsTree

variable {chosen : List Nat} {fields : FieldsTree}

theorem saySame_recasedKeys
    (h : ∀ key ∈ fields.keys, ∀ key' ∈ fields.keys,
      (key.recased chosen).name = (key'.recased chosen).name ↔ key.name = key'.name) :
    List.Forall₂ SaySame (Fields.merged fields.entries)
      (Fields.merged (fields.recasedKeys chosen).entries) := by
  rw [← map_fst_entries] at h
  rw [entries_recasedKeys, Fields.merged_map_key h, List.forall₂_map_right_iff, List.forall₂_same]
  intro entry _
  exact ⟨(entry.1.toLower_recased chosen).symm, rfl⟩

theorem mem_lowerNames_recasedKeys (chosen : List Nat) (fields : FieldsTree) (lower : String) :
    lower ∈ Fields.lowerNames (Fields.merged (fields.recasedKeys chosen).entries) ↔
      lower ∈ Fields.lowerNames (Fields.merged fields.entries) := by
  rw [Fields.mem_lowerNames_merged, Fields.mem_lowerNames_merged, entries_recasedKeys,
    Fields.lowerNames, List.map_map, Fields.lowerNames]
  simp only [Function.comp_def, Key.toLower_recased]

end FieldsTree

namespace Query

/-- If keys of operators are written in other letters, the text is still accepted, the query differs
in its comparisons only, and the same fields are compared by the same operators. It is the same
query if the keys that were written alike are the keys that are. -/
theorem ofText_recased {text : String} {query : Query} (h : ofText text = .ok query) :
    ∃ tree, Derives text tree ∧ ∀ chosen, InKeys chosen tree.operatorKeys →
      (∃ query', ofText (recased chosen text) = .ok query' ∧
        query' = { query with filters := query'.filters } ∧
        ∀ target, target ∈ query.filters.map Filter.target ↔
          target ∈ query'.filters.map Filter.target) ∧
      (tree.KeepsSpelling chosen → ofText (recased chosen text) = .ok query) := by
  rcases bind_eq_ok.mp (mapError_eq_ok.mp h) with ⟨document, hdocument, hquery⟩
  rcases Document.ofText_eq_ok_iff.mp hdocument with ⟨tree, hderives, rfl⟩
  refine ⟨tree, hderives, fun chosen hchosen => ?_⟩
  rw [ofText_of_derives (hderives.recased hchosen)]
  constructor
  · have hobjects : ∀ object ∈ tree.fieldObjects,
        Fields.lowerNames (Fields.merged object.entries) ⊆
            Fields.lowerNames (Fields.merged (object.recasedKeys chosen).entries) ∧
          Fields.lowerNames (Fields.merged (object.recasedKeys chosen).entries) ⊆
            Fields.lowerNames (Fields.merged object.entries) := by
      intro object _
      exact ⟨fun lower => (object.mem_lowerNames_recasedKeys chosen lower).mpr,
        fun lower => (object.mem_lowerNames_recasedKeys chosen lower).mp⟩
    have hagree := gathers_lowerNames.ofDocument hobjects
    rcases hagree.exists_ok hquery with ⟨query', hquery', hsame, htargets⟩
    exact ⟨query', mapError_eq_ok.mpr hquery', hsame, htargets⟩
  · intro hspelling
    have hagree := gathers_saySame.ofDocument fun object hobject =>
      FieldsTree.saySame_recasedKeys (hspelling object hobject)
    rcases hagree.exists_ok hquery with ⟨query', hquery', hsame, hfilters⟩
    rw [hsame, ← hfilters] at hquery'
    exact mapError_eq_ok.mpr hquery'

/-- A text with an operator that is repeated, and one in letters of both cases. -/
def operatorText : String :=
  "\x7bé(where:\x7ba:\x7bgt:\"x\",eqIgnoreCase:\"b\",gt:\"y\"\x7d\x7d)\x7bc\x7d\x7d"

def operatorTree : DocumentTree where
  keyword := none
  opened := ⟨0, 1⟩
  resource := ⟨"é", ⟨1, 2⟩⟩
  arguments := some
    { opened := ⟨3, 1⟩
      fields :=
        .cons ⟨"where", ⟨4, 5⟩⟩ ⟨9, 1⟩
          (.object ⟨10, 1⟩
            (.cons ⟨"a", ⟨11, 1⟩⟩ ⟨12, 1⟩
              (.object ⟨13, 1⟩
                (.cons ⟨"gt", ⟨14, 2⟩⟩ ⟨16, 1⟩ (.text ⟨17, 3⟩ "x") (some ⟨20, 1⟩)
                  (.cons ⟨"eqIgnoreCase", ⟨21, 12⟩⟩ ⟨33, 1⟩ (.text ⟨34, 3⟩ "b") (some ⟨37, 1⟩)
                    (.cons ⟨"gt", ⟨38, 2⟩⟩ ⟨40, 1⟩ (.text ⟨41, 3⟩ "y") none .nil)))
                ⟨44, 1⟩)
              none .nil)
            ⟨45, 1⟩)
          none .nil
      closed := ⟨46, 1⟩ }
  selecting := ⟨47, 1⟩
  selections := [(⟨"c", ⟨48, 1⟩⟩, none)]
  selected := ⟨49, 1⟩
  closed := ⟨50, 1⟩

theorem derives_operatorText : Derives operatorText operatorTree :=
  Derives.of_toOption (by decide +kernel)
    (show (Cursor.ofText operatorText).tokens.2.toOption = some ⟨51, 0⟩ by decide +kernel)

theorem ofDocument_where {resource field : Key} {place objectPlace fieldPlace : Span}
    {operators : Fields} {selections : List String} {filters : List Filter}
    (h : operators.mapM (Filter.ofEntry field.name) = .ok filters) :
    ofDocument ⟨resource, [(⟨"where", place⟩,
        .object objectPlace [(field, .object fieldPlace operators)])], selections⟩ =
      .ok { resource, selections, filters } := by
  have hfield : Filter.ofField (field, .object fieldPlace operators) = .ok filters := h
  have hfields : [(field, Value.object fieldPlace operators)].mapM Filter.ofField =
      .ok [filters] := by
    rw [List.mapM_cons, hfield]
    rfl
  have hvalue : Filter.ofValue (.object objectPlace [(field, .object fieldPlace operators)]) =
      .ok filters := by
    simp only [Filter.ofValue, Value.asObject, ok_bind, hfields, List.flatten_singleton]
    rfl
  rw [ofDocument, List.foldlM_cons]
  simp only [argument, hvalue, ok_bind]
  rfl

def operatorQuery : Query where
  resource := ⟨"é", ⟨1, 2⟩⟩
  selections := ["c"]
  filters := [⟨"a", .gt, .string ⟨41, 3⟩ "y"⟩, ⟨"a", .eqIgnoreCase, .string ⟨34, 3⟩ "b"⟩]

theorem ofText_operatorText : ofText operatorText = .ok operatorQuery := by
  have hdocument : operatorTree.document = ⟨⟨"é", ⟨1, 2⟩⟩, [(⟨"where", ⟨4, 5⟩⟩,
      .object ⟨10, 36⟩ [(⟨"a", ⟨11, 1⟩⟩, .object ⟨13, 32⟩
        [(⟨"gt", ⟨14, 2⟩⟩, .string ⟨41, 3⟩ "y"),
          (⟨"eqIgnoreCase", ⟨21, 12⟩⟩, .string ⟨34, 3⟩ "b")])])], ["c"]⟩ := rfl
  have hgt : FilterOperator.ofKey? "gt" = some .gt := by decide +kernel
  have hignore : FilterOperator.ofKey? "eqIgnoreCase" = some .eqIgnoreCase := by decide +kernel
  rw [ofText_of_derives derives_operatorText, hdocument]
  refine mapError_eq_ok.mpr (ofDocument_where ?_)
  simp only [List.mapM_cons, List.mapM_nil, Filter.ofEntry, hgt, hignore, ok_bind]
  rfl

theorem ofText_recased_operators :
    recased [14, 38, 23, 24] operatorText =
        "\x7bé(where:\x7ba:\x7bGt:\"x\",eqiGnoreCase:\"b\",Gt:\"y\"\x7d\x7d)\x7bc\x7d\x7d" ∧
      ofText operatorText = .ok operatorQuery ∧
      ofText (recased [14, 38, 23, 24] operatorText) = .ok operatorQuery := by
  refine ⟨by decide +kernel, ofText_operatorText, ?_⟩
  rcases ofText_recased ofText_operatorText with ⟨tree, hderives, hrecased⟩
  cases derives_operatorText.unique hderives
  exact (hrecased [14, 38, 23, 24] (by decide +kernel)).2 (by decide +kernel)

/-- If keys that were written alike are written in two ways, both of them compare. -/
theorem ofText_recased_apart :
    recased [38] operatorText =
        "\x7bé(where:\x7ba:\x7bgt:\"x\",eqIgnoreCase:\"b\",Gt:\"y\"\x7d\x7d)\x7bc\x7d\x7d" ∧
      ofText operatorText = .ok operatorQuery ∧
      ofText (recased [38] operatorText) = .ok { operatorQuery with
        filters := [⟨"a", .gt, .string ⟨17, 3⟩ "x"⟩, ⟨"a", .eqIgnoreCase, .string ⟨34, 3⟩ "b"⟩,
          ⟨"a", .gt, .string ⟨41, 3⟩ "y"⟩] } := by
  have hdocument : (operatorTree.recased [38]).document = ⟨⟨"é", ⟨1, 2⟩⟩, [(⟨"where", ⟨4, 5⟩⟩,
      .object ⟨10, 36⟩ [(⟨"a", ⟨11, 1⟩⟩, .object ⟨13, 32⟩
        [(⟨"gt", ⟨14, 2⟩⟩, .string ⟨17, 3⟩ "x"),
          (⟨"eqIgnoreCase", ⟨21, 12⟩⟩, .string ⟨34, 3⟩ "b"),
          (⟨"Gt", ⟨38, 2⟩⟩, .string ⟨41, 3⟩ "y")])])], ["c"]⟩ := rfl
  have hgt : FilterOperator.ofKey? "gt" = some .gt := by decide +kernel
  have hmixed : FilterOperator.ofKey? "Gt" = some .gt := by decide +kernel
  have hignore : FilterOperator.ofKey? "eqIgnoreCase" = some .eqIgnoreCase := by decide +kernel
  have hchosen : InKeys [38] operatorTree.operatorKeys := by decide +kernel
  refine ⟨by decide +kernel, ofText_operatorText, ?_⟩
  rw [ofText_of_derives (derives_operatorText.recased hchosen), hdocument]
  refine mapError_eq_ok.mpr (ofDocument_where ?_)
  simp only [List.mapM_cons, List.mapM_nil, Filter.ofEntry, hgt, hmixed, hignore, ok_bind]
  rfl

end Query

end Declarative
end TableQuery
