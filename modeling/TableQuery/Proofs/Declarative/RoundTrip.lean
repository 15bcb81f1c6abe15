import TableQuery.Proofs.Declarative.Writing

/-!
# Queries as texts

A query is written as a document in which every argument is named, with the comparisons of one field
in one object. It is read back as the same query, but for the places.
-/

namespace TableQuery
namespace Declarative

open Outcome

/-!
## Arguments as values

A part of a query that says nothing is left out. All others are fields with names of their own.
-/

def entry (name : String) (value : Value) : Key × Value :=
  (⟨name, nowhere⟩, value)

def pageDecimal (word : UInt32) : Decimal :=
  .ofUInt64 word.toUInt64

namespace Value

def pageFields (name : String) (word : Option UInt32) : Fields :=
  (word.map fun word => entry name (.number nowhere (pageDecimal word))).toList

def ofPaging (paging : Paging) : Value :=
  .object nowhere (pageFields "page" paging.page ++ pageFields "pageSize" paging.size)

def ofNames (names : List String) : Value :=
  .list nowhere (names.map (.string nowhere))

def ofSortKey (key : SortKey) : Value :=
  .object nowhere [entry "field" (.string nowhere key.field),
    entry "direction" (.identifier nowhere key.direction.keyword)]

def ofSorting (sorting : List SortKey) : Value :=
  .list nowhere (sorting.map ofSortKey)

theorem asPageWord_pageDecimal (field : String) (word : UInt32) :
    asPageWord field (.number nowhere (pageDecimal word)) = .ok word := by
  have hwhole : (pageDecimal word).whole? = some (word.toNat : Int) := by
    simp [pageDecimal, Decimal.ofUInt64, Decimal.whole?, Decimal.coefficient]
  have hread : ((pageDecimal word).whole?.bind Int.toNat?).bind pageWord? = some word := by
    rw [hwhole]
    exact pageWord?_toNat word
  simp only [asPageWord, hread]

theorem toPaging_ofPaging (paging : Paging) : (ofPaging paging).toPaging = .ok paging := by
  obtain ⟨page, size⟩ := paging
  have hpage : optionalField (pageFields "page" page ++ pageFields "pageSize" size) "page"
      (asPageWord "pagination.page") = .ok page := by
    cases page <;> cases size <;>
      simp [optionalField, Fields.get?, pageFields, entry, asPageWord_pageDecimal, Except.map]
  have hsize : optionalField (pageFields "page" page ++ pageFields "pageSize" size) "pageSize"
      (asPageWord "pagination.pageSize") = .ok size := by
    cases page <;> cases size <;>
      simp [optionalField, Fields.get?, pageFields, entry, asPageWord_pageDecimal, Except.map]
  simp only [toPaging, ofPaging, asObject, ok_bind, hpage, hsize]
  rfl

theorem toNames_ofNames (field : String) (names : List String) :
    (ofNames names).toNames field = .ok names := by
  have hnames : (names.map (Value.string nowhere)).mapM (asName field) = .ok (names.map id) :=
    mapM_map_eq_ok fun _ _ => rfl
  rw [List.map_id] at hnames
  exact hnames

theorem toDirection_keyword (direction : Direction) :
    toDirection (.identifier nowhere direction.keyword) = .ok direction := by
  have hread : Direction.ofText? direction.keyword = some direction := by
    cases direction <;> decide +kernel
  simp only [toDirection, asName, ok_bind, hread]
  rfl

theorem toSortKey_ofSortKey (key : SortKey) : (ofSortKey key).toSortKey = .ok key := by
  have hfield : optionalField [entry "field" (.string nowhere key.field),
      entry "direction" (.identifier nowhere key.direction.keyword)] "field"
      (asName "orderBy.field") = .ok (some key.field) := by
    simp [optionalField, Fields.get?, entry, asName, Except.map]
  have hdirection : optionalField [entry "field" (.string nowhere key.field),
      entry "direction" (.identifier nowhere key.direction.keyword)] "direction"
      toDirection = .ok (some key.direction) := by
    simp [optionalField, Fields.get?, entry, toDirection_keyword, Except.map]
  simp only [toSortKey, ofSortKey, asObject, ok_bind, hfield, hdirection]
  rfl

theorem toSorting_ofSorting (sorting : List SortKey) :
    (ofSorting sorting).toSorting = .ok sorting := by
  have hkeys : (sorting.map ofSortKey).mapM toSortKey = .ok (sorting.map id) :=
    mapM_map_eq_ok fun key _ => toSortKey_ofSortKey key
  rw [List.map_id] at hkeys
  exact hkeys

end Value

/-!
## Comparisons as values

The comparisons of one field stand in one object, so neighbours with one field are put together.
-/

def FilterOperator.key : FilterOperator → String
  | .eq => "eq"
  | .neq => "neq"
  | .gt => "gt"
  | .gte => "gte"
  | .lt => "lt"
  | .lte => "lte"
  | .like => "like"
  | .eqIgnoreCase => "eqIgnoreCase"

theorem FilterOperator.ofKey?_key (operator : FilterOperator) :
    ofKey? operator.key = some operator := by
  cases operator <;> decide +kernel

def Contiguous (names : List String) : Prop :=
  ∀ (before middle behind : List String) (name : String),
    names = before ++ name :: (middle ++ name :: behind) → ∀ other ∈ middle, other = name

theorem Contiguous.tail {name : String} {names : List String} (h : Contiguous (name :: names)) :
    Contiguous names := by
  intro before middle behind name' hnames
  exact h (name :: before) middle behind name' (by rw [hnames]; rfl)

theorem Contiguous.not_mem {name next : String} {names : List String}
    (h : Contiguous (name :: next :: names)) (hne : next ≠ name) : name ∉ next :: names := by
  intro hmem
  rcases List.append_of_mem hmem with ⟨middle, behind, hsplit⟩
  have hmiddle := h [] middle behind name (by rw [hsplit]; rfl)
  cases middle with
  | nil =>
      cases hsplit
      exact hne rfl
  | cons first middle =>
      cases hsplit
      exact hne (hmiddle next (by simp))

theorem Contiguous.nil : Contiguous [] := by
  intro before middle behind name hnames
  simp at hnames

theorem Contiguous.cons {name : String} {names : List String} (h : Contiguous names)
    (hname : name ∈ names → names.head? = some name) : Contiguous (name :: names) := by
  intro before middle behind name' hnames other hother
  cases before with
  | cons first before =>
      cases hnames
      exact h before middle behind name' rfl other hother
  | nil =>
      cases hnames
      have hhead := hname (by simp)
      cases middle with
      | nil => cases hother
      | cons first middle =>
          cases hhead
          rcases List.mem_cons.mp hother with rfl | hmem
          · rfl
          · exact h [] middle behind name rfl other hmem

theorem Contiguous.of_nodup {names : List String} (h : names.Nodup) : Contiguous names := by
  induction names with
  | nil => exact Contiguous.nil
  | cons name names ih =>
      rw [List.nodup_cons] at h
      exact (ih h.2).cons fun hmem => absurd hmem h.1

namespace Filter

def grouped : List Filter → List (String × List Filter)
  | [] => []
  | filter :: rest =>
    match grouped rest with
    | [] => [(filter.field, [filter])]
    | (field, group) :: groups =>
      if field = filter.field then (field, filter :: group) :: groups
      else (filter.field, [filter]) :: (field, group) :: groups

theorem flatten_grouped (filters : List Filter) :
    ((grouped filters).map Prod.snd).flatten = filters := by
  induction filters with
  | nil => rfl
  | cons filter rest ih =>
      unfold grouped
      split
      · rename_i hrest
        rw [hrest] at ih
        rw [← ih]
        rfl
      · rename_i field group groups hrest
        rw [hrest] at ih
        rw [← ih]
        split <;> rfl

theorem field_of_mem_grouped {filters : List Filter} :
    ∀ group ∈ grouped filters, group.2 ≠ [] ∧ ∀ filter ∈ group.2, filter.field = group.1 := by
  induction filters with
  | nil => simp [grouped]
  | cons filter rest ih =>
      unfold grouped
      split
      · simp
      · rename_i field group groups hrest
        rw [hrest] at ih
        split
        · rename_i hfield
          intro group' hgroup
          rcases List.mem_cons.mp hgroup with rfl | hmem
          · refine ⟨by simp, ?_⟩
            intro filter' hfilter
            rcases List.mem_cons.mp hfilter with rfl | hmem
            · exact hfield.symm
            · exact (ih (field, group) (by simp)).2 filter' hmem
          · exact ih group' (by simp [hmem])
        · intro group' hgroup
          rcases List.mem_cons.mp hgroup with rfl | hmem
          · simp
          · exact ih group' hmem

theorem mem_of_mem_grouped {filters : List Filter} {group : String × List Filter}
    (hgroup : group ∈ grouped filters) {filter : Filter} (hfilter : filter ∈ group.2) :
    filter ∈ filters := by
  rw [← flatten_grouped filters]
  exact List.mem_flatten.mpr ⟨group.2, List.mem_map.mpr ⟨group, hgroup, rfl⟩, hfilter⟩

theorem exists_field_of_mem_grouped {filters : List Filter} {group : String × List Filter}
    (hgroup : group ∈ grouped filters) : ∃ filter ∈ filters, filter.field = group.1 := by
  rcases field_of_mem_grouped group hgroup with ⟨hne, hfield⟩
  rcases List.exists_mem_of_ne_nil group.2 hne with ⟨filter, hfilter⟩
  exact ⟨filter, mem_of_mem_grouped hgroup hfilter, hfield filter hfilter⟩

theorem grouped_cons (filter : Filter) (rest : List Filter) :
    ∃ group groups, grouped (filter :: rest) = (filter.field, group) :: groups := by
  unfold grouped
  split
  · exact ⟨_, _, rfl⟩
  · split
    · rename_i hfield
      rw [hfield]
      exact ⟨_, _, rfl⟩
    · exact ⟨_, _, rfl⟩

theorem grouped_of_nodup {filters : List Filter} (h : (filters.map Filter.field).Nodup) :
    grouped filters = filters.map fun filter => (filter.field, [filter]) := by
  induction filters with
  | nil => rfl
  | cons filter rest ih =>
      rw [List.map_cons, List.nodup_cons] at h
      rw [grouped, ih h.2]
      cases rest with
      | nil => rfl
      | cons next rest =>
          have hne : next.field ≠ filter.field := by
            intro heq
            exact h.1 (by simp [heq])
          simp [hne]

theorem nodup_grouped {filters : List Filter} (h : Contiguous (filters.map Filter.field)) :
    ((grouped filters).map Prod.fst).Nodup := by
  induction filters with
  | nil => simp [grouped]
  | cons filter rest ih =>
      have hrest := ih h.tail
      cases rest with
      | nil => simp [grouped]
      | cons next rest =>
          rcases grouped_cons next rest with ⟨group, groups, hgroups⟩
          rw [hgroups] at hrest
          rw [grouped, hgroups]
          by_cases hfield : next.field = filter.field
          · simpa [hfield] using hrest
          · have hnew : filter.field ∉ (grouped (next :: rest)).map Prod.fst := by
              intro hmem
              rcases List.mem_map.mp hmem with ⟨group', hgroup', hname⟩
              rcases exists_field_of_mem_grouped hgroup' with ⟨filter', hfilter', hfield'⟩
              refine Contiguous.not_mem h hfield ?_
              exact List.mem_map.mpr ⟨filter', hfilter', hfield'.trans hname⟩
            rw [hgroups] at hnew
            simp only [hfield, if_false, List.map_cons, List.nodup_cons] at hnew hrest ⊢
            exact ⟨hnew, hrest⟩

end Filter

def Value.ofFilters (filters : List Filter) : Value :=
  .object nowhere ((Filter.grouped filters).map fun group =>
    entry group.1 (.object nowhere
      (group.2.map fun filter => entry filter.operator.key filter.value)))

theorem Filter.ofValue_ofFilters (filters : List Filter) :
    Filter.ofValue (Value.ofFilters filters) = .ok filters := by
  have hgroup : ∀ group ∈ grouped filters, ofField (entry group.1 (.object nowhere
      (group.2.map fun filter => entry filter.operator.key filter.value))) = .ok group.2 := by
    intro group hgroup
    have hfilters : (group.2.map fun filter => entry filter.operator.key filter.value).mapM
        (ofEntry group.1) = .ok (group.2.map id) := by
      apply mapM_map_eq_ok
      intro filter hfilter
      have hfield := (field_of_mem_grouped group hgroup).2 filter hfilter
      simp only [ofEntry, entry, FilterOperator.ofKey?_key, ← hfield]
      rfl
    rw [List.map_id] at hfilters
    exact hfilters
  have hgroups := mapM_map_eq_ok hgroup
  simp only [ofValue, Value.ofFilters, Value.asObject, ok_bind, hgroups]
  rw [flatten_grouped]
  rfl

/-!
## Queries

A query is understood from its document, and its document is read from its text, but for the places
and the signs of zeros.
-/

namespace Query

def arguments (query : Query) : Fields :=
  (query.paging.map fun paging => entry "pagination" (.ofPaging paging)).toList ++
    [entry "distinct" (.boolean nowhere query.distinct),
      entry "count" (.boolean nowhere query.count),
      entry "sum" (.ofNames query.aggregates.sum),
      entry "avg" (.ofNames query.aggregates.avg),
      entry "min" (.ofNames query.aggregates.min),
      entry "max" (.ofNames query.aggregates.max),
      entry "orderBy" (.ofSorting query.sorting),
      entry "where" (.ofFilters query.filters)]

def document (query : Query) : Document where
  resource := query.resource
  arguments := query.arguments
  selections := query.selections

def text (query : Query) : String :=
  query.document.tree.text

theorem ofDocument_document (query : Query) : ofDocument query.document = .ok query := by
  obtain ⟨resource, selections, paging, distinct, count, aggregates, sorting, filters⟩ := query
  cases paging <;>
    simp [ofDocument, document, arguments, argument, entry, Value.toPaging_ofPaging, Value.asBoolean,
      Value.toNames_ofNames, Value.toSorting_ofSorting, Filter.ofValue_ofFilters, ok_bind]

/-- A query that can be written: its names are words, the comparisons of one field stand together and
have distinct operators, and their operands can be written. -/
structure Writable (number : Decimal → Prop) (query : Query) : Prop where
  resource : isWord query.resource.name = true
  selections : ∀ name ∈ query.selections, isWord name = true
  fields : ∀ filter ∈ query.filters, isWord filter.field = true
  contiguous : Contiguous (query.filters.map Filter.field)
  operators : query.filters.Pairwise fun filter filter' =>
    filter.field = filter'.field → filter.operator ≠ filter'.operator
  values : ∀ filter ∈ query.filters, filter.value.Writable number

end Query

namespace Value

variable {number : Decimal → Prop}

theorem writable_pageFields (hnumber : ∀ word, number (.ofUInt64 word)) (name : String)
    (word : Option UInt32) : ∀ field ∈ pageFields name word, field.2.Writable number := by
  intro field hfield
  cases word with
  | none => cases hfield
  | some word =>
      cases List.mem_singleton.mp hfield
      exact .number nowhere _ (hnumber _)

theorem writable_ofPaging (hnumber : ∀ word, number (.ofUInt64 word)) (paging : Paging) :
    (ofPaging paging).Writable number := by
  obtain ⟨page, size⟩ := paging
  have hpage : isWord "page" = true := by decide +kernel
  have hsize : isWord "pageSize" = true := by decide +kernel
  apply Writable.object
  · cases page <;> cases size <;> simp [pageFields, entry, hpage, hsize]
  · cases page <;> cases size <;> simp [pageFields, entry]
  · intro field hfield
    rcases List.mem_append.mp hfield with hmem | hmem
    · exact writable_pageFields hnumber "page" page field hmem
    · exact writable_pageFields hnumber "pageSize" size field hmem

theorem writable_ofNames (names : List String) : (ofNames names).Writable number := by
  apply Writable.list
  intro item hitem
  rcases List.mem_map.mp hitem with ⟨name, _, rfl⟩
  exact .string nowhere name

theorem writable_ofSortKey (key : SortKey) : (ofSortKey key).Writable number := by
  have hfield : isWord "field" = true := by decide +kernel
  have hdirection : isWord "direction" = true := by decide +kernel
  apply Writable.object
  · simp [entry, hfield, hdirection]
  · simp [entry]
  · intro field hmem
    simp only [List.mem_cons, List.not_mem_nil, or_false] at hmem
    rcases hmem with rfl | rfl
    · exact .string nowhere key.field
    · refine .identifier nowhere _ ?_ ?_ ?_
      · cases key.direction <;> decide +kernel
      · cases key.direction <;> decide +kernel
      · cases key.direction <;> decide +kernel

theorem writable_ofSorting (sorting : List SortKey) : (ofSorting sorting).Writable number := by
  apply Writable.list
  intro item hitem
  rcases List.mem_map.mp hitem with ⟨key, _, rfl⟩
  exact writable_ofSortKey key

end Value

theorem FilterOperator.key_inj {operator operator' : FilterOperator}
    (h : operator.key = operator'.key) : operator = operator' := by
  have hread := ofKey?_key operator
  rw [h, ofKey?_key operator'] at hread
  exact (Option.some.inj hread).symm

theorem FilterOperator.isWord_key (operator : FilterOperator) : isWord operator.key = true := by
  cases operator <;> decide +kernel

namespace Query

variable {number : Decimal → Prop} {query : Query}

theorem Writable.nodup_operators (h : query.Writable number) {group : String × List Filter}
    (hgroup : group ∈ Filter.grouped query.filters) :
    (group.2.map fun filter => filter.operator.key).Nodup := by
  have hsublist : group.2.Sublist query.filters := by
    have hmem : group.2 ∈ (Filter.grouped query.filters).map Prod.snd :=
      List.mem_map.mpr ⟨group, hgroup, rfl⟩
    have hflatten := List.sublist_flatten_of_mem hmem
    rwa [Filter.flatten_grouped] at hflatten
  have hfields := (Filter.field_of_mem_grouped group hgroup).2
  rw [List.Nodup, List.pairwise_map]
  apply (h.operators.sublist hsublist).imp_of_mem
  intro filter filter' hfilter hfilter' hoperators hkey
  have hfield : filter.field = filter'.field :=
    (hfields filter hfilter).trans (hfields filter' hfilter').symm
  exact hoperators hfield (FilterOperator.key_inj hkey)

theorem Writable.ofFilters (h : query.Writable number) :
    (Value.ofFilters query.filters).Writable number := by
  apply Value.Writable.object
  · intro field hfield
    rcases List.mem_map.mp hfield with ⟨group, hgroup, rfl⟩
    rcases Filter.exists_field_of_mem_grouped hgroup with ⟨filter, hfilter, hname⟩
    exact hname ▸ h.fields filter hfilter
  · have hnodup := Filter.nodup_grouped h.contiguous
    rwa [List.map_map]
  · intro field hfield
    rcases List.mem_map.mp hfield with ⟨group, hgroup, rfl⟩
    apply Value.Writable.object
    · intro operator hoperator
      rcases List.mem_map.mp hoperator with ⟨filter, _, rfl⟩
      exact filter.operator.isWord_key
    · have hnodup := h.nodup_operators hgroup
      rwa [List.map_map]
    · intro operator hoperator
      rcases List.mem_map.mp hoperator with ⟨filter, hfilter, rfl⟩
      exact h.values filter (Filter.mem_of_mem_grouped hgroup hfilter)

def argumentNames : List String :=
  ["pagination", "distinct", "count", "sum", "avg", "min", "max", "orderBy", "where"]

theorem sublist_argumentNames (query : Query) :
    (query.arguments.map fun field => field.1.name).Sublist argumentNames := by
  unfold arguments
  cases query.paging with
  | none => exact List.Sublist.cons _ (List.Sublist.refl _)
  | some paging => exact List.Sublist.refl _

theorem Writable.values_arguments (hnumber : ∀ word, number (.ofUInt64 word))
    (h : query.Writable number) : ∀ field ∈ query.arguments, field.2.Writable number := by
  intro field hfield
  simp only [arguments, List.mem_append, Option.mem_toList, Option.map_eq_some_iff, List.mem_cons,
    List.not_mem_nil, or_false] at hfield
  rcases hfield with ⟨paging, _, rfl⟩ | rfl | rfl | rfl | rfl | rfl | rfl | rfl | rfl
  · exact Value.writable_ofPaging hnumber paging
  · exact .boolean nowhere query.distinct
  · exact .boolean nowhere query.count
  · exact Value.writable_ofNames query.aggregates.sum
  · exact Value.writable_ofNames query.aggregates.avg
  · exact Value.writable_ofNames query.aggregates.min
  · exact Value.writable_ofNames query.aggregates.max
  · exact Value.writable_ofSorting query.sorting
  · exact h.ofFilters

theorem Writable.document (hnumber : ∀ word, number (.ofUInt64 word)) (h : query.Writable number) :
    query.document.Writable number := by
  have hwords : ∀ name ∈ argumentNames, isWord name = true := by decide +kernel
  have hnodup : argumentNames.Nodup := by decide
  refine ⟨h.resource, h.selections, ?_, hnodup.sublist query.sublist_argumentNames,
    h.values_arguments hnumber⟩
  intro field hfield
  exact hwords _ (query.sublist_argumentNames.mem (List.mem_map.mpr ⟨field, hfield, rfl⟩))

theorem Writable.ofText_document (hnumber : ∀ word, number (.ofUInt64 word))
    (h : query.Writable number) :
    ∃ document, Document.ofText query.text = .ok document ∧
      document.bare = query.document.tree.document.bare :=
  Document.ofText_text (h.document hnumber).spelled

theorem ofDocument_of_bare_eq {document : Document} (h : document.bare = query.document.bare) :
    ∃ found, ofDocument document = .ok found ∧ found.bare = query.bare := by
  have hquery := alike_ofDocument query.document
  rw [ofDocument_document] at hquery
  have hdocument := alike_ofDocument document
  rw [h, hquery.eq_ok] at hdocument
  exact hdocument.exists_ok

theorem ofText_of_bare_eq {text : String} {document : Document}
    (hdocument : Document.ofText text = .ok document) (h : document.bare = query.document.bare) :
    ∃ found, ofText text = .ok found ∧ found.bare = query.bare := by
  rcases ofDocument_of_bare_eq h with ⟨found, hfound, hsame⟩
  refine ⟨found, ?_, hsame⟩
  rw [ofText, hdocument]
  change (ofDocument document).mapError _ = _
  rw [hfound]
  rfl

theorem sign_ofUInt64 (word : UInt64) : (Decimal.ofUInt64 word).negative = true →
    (Decimal.ofUInt64 word).magnitude ≠ 0 := by
  intro hnegative
  cases hnegative

/-- A query is read back from its text, but for the places. -/
theorem bare_ofText_text (h : query.Writable fun value => value.negative = true → value.magnitude ≠ 0) :
    ∃ found, ofText query.text = .ok found ∧ found.bare = query.bare := by
  rcases h.ofText_document sign_ofUInt64 with ⟨document, hdocument, hbare⟩
  rw [(h.document sign_ofUInt64).document_tree fun _ => Decimal.signless_eq_self,
    Document.bare_bare] at hbare
  exact ofText_of_bare_eq hdocument hbare

/-- A query with a nested operand, texts with quotes and backslashes, and two comparisons of one
field. -/
def nestedQuery : Query where
  resource := ⟨"größe", nowhere⟩
  selections := ["id", "query"]
  paging := some ⟨some 4294967295, none⟩
  aggregates := { sum := ["a \"b\" \\"] }
  sorting := [⟨"", .descending⟩]
  filters := [
    ⟨"a", .eq, .object nowhere [entry "k" (.list nowhere [.number nowhere (.ofInt64 (-7)),
      .identifier nowhere "_x", .boolean nowhere true, .string nowhere "\\\""])]⟩,
    ⟨"a", .neq, .object nowhere []⟩,
    ⟨"b", .eq, .string nowhere "\x7d"⟩]

theorem nestedQuery_writable :
    nestedQuery.Writable fun value => value.negative = true → value.magnitude ≠ 0 := by
  constructor
  · decide +kernel
  · decide +kernel
  · intro filter hfilter
    simp only [nestedQuery, List.mem_cons, List.not_mem_nil, or_false] at hfilter
    rcases hfilter with rfl | rfl | rfl <;> decide +kernel
  · exact ((Contiguous.nil.cons (by simp)).cons (by simp)).cons (by simp)
  · simp [nestedQuery]
  · intro filter hfilter
    simp only [nestedQuery, List.mem_cons, List.not_mem_nil, or_false] at hfilter
    rcases hfilter with rfl | rfl | rfl
    · refine .object _ _ (by decide +kernel) (by simp) ?_
      intro field hfield
      cases List.mem_singleton.mp hfield
      refine .list _ _ ?_
      intro item hitem
      simp only [List.mem_cons, List.not_mem_nil, or_false] at hitem
      rcases hitem with rfl | rfl | rfl | rfl
      · exact .number _ _ (by decide)
      · exact .identifier _ _ (by decide +kernel) (by decide +kernel) (by decide +kernel)
      · exact .boolean _ _
      · exact .string _ _
    · exact .object _ _ (by simp) (by simp) (by simp)
    · exact .string _ _

theorem bare_ofText_text_nested :
    nestedQuery.Writable (fun value => value.negative = true → value.magnitude ≠ 0) ∧
      ∃ found, ofText nestedQuery.text = .ok found ∧ found.bare = nestedQuery.bare :=
  ⟨nestedQuery_writable, bare_ofText_text nestedQuery_writable⟩

end Query

end Declarative
end TableQuery
