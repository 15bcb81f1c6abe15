import TableQuery.Registry
import TableQuery.Proofs.OrderedMap
import TableQuery.Proofs.Rest.Writing

/-!
# Order and repetition of parameters

Parameters that are filters are read one by one, in their order. Of all the other parameters only the
last one of each key counts. So parameters can be moved and repeated as long as the filters stay in
their order and the last values stay the same. The map of the parameters, in which a repeated key keeps
its first place and its last value, is read like the parameters themselves if no filter is repeated.
-/

namespace TableQuery

namespace Rest

/-!
## Last values

A map of parameters has the last value of each key.
-/

/-- The last parameter of a key has a value, or it has none, or no parameter has the key. -/
inductive LastIs (parameters : List Parameter) (key : String) : Option String → Prop where
  | parameter {before behind : List Parameter} {value : Option String}
    (h : parameters = before ++ (key, value) :: behind) (hlast : key ∉ behind.map Prod.fst) :
    LastIs parameters key value
  | absent (h : key ∉ parameters.map Prod.fst) : LastIs parameters key none

theorem LastIs.lastValue_eq {parameters : List Parameter} {key : String} {value : Option String}
    (h : LastIs parameters key value) : lastValue parameters key = value := by
  cases h with
  | @parameter before behind _ h hlast =>
      have hlookup : parameters.reverse.lookup key = some value := by
        refine List.lookup_eq_some_iff.mpr ⟨behind.reverse, before.reverse, by simp [h], ?_⟩
        intro parameter hparameter
        have hne : key ≠ parameter.1 := by
          intro heq
          exact hlast (List.mem_map.mpr ⟨parameter, List.mem_reverse.mp hparameter, heq.symm⟩)
        simpa using hne
      rw [lastValue, hlookup]
      rfl
  | absent h => exact lastValue_eq_none h

theorem lastIs_lastValue (parameters : List Parameter) (key : String) :
    LastIs parameters key (lastValue parameters key) := by
  unfold lastValue
  cases hlookup : parameters.reverse.lookup key with
  | none =>
      apply LastIs.absent
      rw [OrderedMap.lookup_eq_none, List.map_reverse, List.mem_reverse] at hlookup
      exact hlookup
  | some value =>
      rcases List.lookup_eq_some_iff.mp hlookup with ⟨behind, before, hreverse, hbehind⟩
      have hsplit : parameters = before.reverse ++ (key, value) :: behind.reverse := by
        rw [← parameters.reverse_reverse, hreverse]
        simp
      apply LastIs.parameter hsplit
      intro hkey
      rcases List.mem_map.mp hkey with ⟨parameter, hparameter, rfl⟩
      have hne := hbehind parameter (List.mem_reverse.mp hparameter)
      simp at hne

theorem lastIs_iff {parameters : List Parameter} {key : String} {value : Option String} :
    LastIs parameters key value ↔ lastValue parameters key = value := by
  constructor
  · exact LastIs.lastValue_eq
  · rintro rfl
    exact lastIs_lastValue parameters key

theorem lastValue_ofList (parameters : List Parameter) (key : String) :
    lastValue (OrderedMap.ofList parameters).entries key = lastValue parameters key := by
  have hget := OrderedMap.get?_ofList parameters key
  have hnodup := (OrderedMap.ofList parameters).nodup
  rw [OrderedMap.get?] at hget
  by_cases hmem : key ∈ (OrderedMap.ofList parameters).entries.map Prod.fst
  · rcases List.mem_map.mp hmem with ⟨entry, hentry, rfl⟩
    rw [lookup_of_mem hnodup hentry] at hget
    rw [lastValue_of_mem hnodup hentry, lastValue, ← hget]
    rfl
  · rw [lastValue_eq_none hmem, lastValue_eq_none]
    intro hkey
    exact hmem (OrderedMap.mem_keys_ofList.mpr hkey)

/-!
## Filters

A map of parameters has the same filters as the parameters if no key of a filter is repeated. A
reserved key that is set in its place changes no filter.
-/

/-- The parameters that are filters: those with a value and a key that is not reserved. -/
def valuedFields (parameters : List Parameter) : List (String × String) :=
  parameters.filterMap fun parameter =>
    if isReserved parameter.1 then none else parameter.2.map fun value => (parameter.1, value)

/-- The keys of all parameters that could be filters, with and without a value. -/
def fieldKeys (parameters : List Parameter) : List String :=
  (parameters.map Prod.fst).filter fun key => !isReserved key

theorem filterMap_filterOf? (parameters : List Parameter) :
    parameters.filterMap filterOf? =
      (valuedFields parameters).map fun field => Filter.read field.1 field.2 := by
  have hfilter : ∀ parameter : Parameter, filterOf? parameter =
      (if isReserved parameter.1 then none
        else parameter.2.map fun value => (parameter.1, value)).map
          fun field => Filter.read field.1 field.2 := by
    intro parameter
    unfold filterOf?
    split
    · rfl
    · rw [Option.map_map]
      rfl
  rw [valuedFields, List.map_filterMap]
  exact congrArg (parameters.filterMap ·) (funext hfilter)

theorem isReserved_of_mem_valuedFields {parameters : List Parameter} {field : String × String}
    (h : field ∈ valuedFields parameters) : isReserved field.1 = false := by
  rcases List.mem_filterMap.mp h with ⟨parameter, _, hfield⟩
  split at hfield
  · cases hfield
  · rename_i hreserved
    rcases Option.map_eq_some_iff.mp hfield with ⟨value, _, rfl⟩
    exact eq_false_of_ne_true hreserved

theorem filterMap_insertEntry_of_isReserved {key : String} (h : isReserved key = true)
    (value : Option String) (entries : List Parameter) :
    (OrderedMap.insertEntry key value entries).filterMap filterOf? =
      entries.filterMap filterOf? := by
  have hnone : ∀ value, filterOf? (key, value) = none := fun value => if_pos h
  induction entries with
  | nil => simp [OrderedMap.insertEntry, hnone]
  | cons entry entries ih =>
      obtain ⟨other, found⟩ := entry
      unfold OrderedMap.insertEntry
      by_cases hkey : other = key
      · subst hkey
        simp [hnone]
      · rw [if_neg hkey, List.filterMap_cons, List.filterMap_cons, ih]

theorem filterMap_ofList {parameters : List Parameter} (h : (fieldKeys parameters).Nodup) :
    (OrderedMap.ofList parameters).entries.filterMap filterOf? =
      parameters.filterMap filterOf? := by
  rw [← parameters.reverse_reverse] at h ⊢
  generalize parameters.reverse = latest at h ⊢
  induction latest with
  | nil => rfl
  | cons parameter earlier ih =>
      obtain ⟨key, value⟩ := parameter
      rw [List.reverse_cons, fieldKeys, List.map_append, List.filter_append,
        List.nodup_append] at h
      rw [List.reverse_cons, OrderedMap.ofList_concat, OrderedMap.entries_insert,
        List.filterMap_append, ← ih h.1]
      cases hreserved : isReserved key with
      | true =>
          rw [filterMap_insertEntry_of_isReserved hreserved]
          simp [filterOf?, hreserved]
      | false =>
          have hnew : key ∉ (OrderedMap.ofList earlier.reverse).entries.map Prod.fst := by
            intro hmem
            have hold : key ∈ (earlier.reverse.map Prod.fst).filter fun key => !isReserved key :=
              List.mem_filter.mpr ⟨OrderedMap.mem_keys_ofList.mp hmem, by simp [hreserved]⟩
            exact h.2.2 key hold key (by simp [hreserved]) rfl
          rw [OrderedMap.insertEntry_of_not_mem hnew, List.filterMap_append]

/-!
## Queries

A query is known by its filters and by what the last values of the reserved keys say.
-/

namespace Query

/-- Everything in a query but its filters is said by the values of the reserved keys. The first name of
the size of a page goes before the second one if it has a value, whether that makes sense or not. -/
structure SetBy (value : String → Option String) (query : Query) : Prop where
  page : query.paging.page = readInteger (value "page")
  size : ∀ text, value "pageSize" = some text → query.paging.size = readInteger (some text)
  otherSize : value "pageSize" = none → query.paging.size = readInteger (value "page_size")
  count : query.count = readBoolean false (value "count")
  distinct : query.distinct = readBoolean false (value "distinct")
  entities : query.entities = readBoolean true (value "entities")
  attributes : query.attributes = readList (value "attributes")
  sum : query.aggregates.sum = readList (value "sum")
  avg : query.aggregates.avg = readList (value "avg")
  min : query.aggregates.min = readList (value "min")
  max : query.aggregates.max = readList (value "max")
  sorting : query.sorting = readList (value "sorting")

theorem setBy_ofParameters {parameters : List Parameter} {value : String → Option String}
    (h : ∀ key ∈ reservedKeys, LastIs parameters key (value key)) :
    (ofParameters parameters).SetBy value := by
  have hlast : ∀ key ∈ reservedKeys, lastValue parameters key = value key :=
    fun key hkey => (h key hkey).lastValue_eq
  simp only [reservedKeys, List.forall_mem_cons] at hlast
  obtain ⟨hpage, hsize, hother, hcount, hdistinct, hentities, hattributes, hsum, havg, hmin, hmax,
    hsorting, _⟩ := hlast
  constructor
  case size =>
    intro text htext
    simp only [ofParameters_eq_lastValue, hsize, htext, Option.some_or]
  case otherSize =>
    intro hnone
    simp only [ofParameters_eq_lastValue, hsize, hnone, hother, Option.none_or]
  all_goals simp only [ofParameters_eq_lastValue, *]

theorem SetBy.eq {value : String → Option String} {query query' : Query} (h : query.SetBy value)
    (h' : query'.SetBy value) (hfilters : query.filters = query'.filters) : query = query' := by
  have hsize : query.paging.size = query'.paging.size := by
    cases hvalue : value "pageSize" with
    | some text => rw [h.size text hvalue, h'.size text hvalue]
    | none => rw [h.otherSize hvalue, h'.otherSize hvalue]
  obtain ⟨⟨page, size⟩, count, distinct, entities, attributes, ⟨sum, avg, min, max⟩, sorting,
    filters⟩ := query
  obtain ⟨⟨page', size'⟩, count', distinct', entities', attributes', ⟨sum', avg', min', max'⟩,
    sorting', filters'⟩ := query'
  have hpage := h.page.trans h'.page.symm
  have hcount := h.count.trans h'.count.symm
  have hdistinct := h.distinct.trans h'.distinct.symm
  have hentities := h.entities.trans h'.entities.symm
  have hattributes := h.attributes.trans h'.attributes.symm
  have hsum := h.sum.trans h'.sum.symm
  have havg := h.avg.trans h'.avg.symm
  have hmin := h.min.trans h'.min.symm
  have hmax := h.max.trans h'.max.symm
  have hsorting := h.sorting.trans h'.sorting.symm
  simp_all

theorem filters_ofParameters (parameters : List Parameter) :
    (ofParameters parameters).filters =
      (valuedFields parameters).map fun field => Filter.read field.1 field.2 :=
  (filters_ofParameters_eq parameters).trans (filterMap_filterOf? parameters)

theorem ofParameters_eq {parameters other : List Parameter}
    (hfilters : (ofParameters other).filters = (ofParameters parameters).filters)
    (hlast : ∀ key ∈ reservedKeys, lastValue other key = lastValue parameters key) :
    ofParameters other = ofParameters parameters := by
  have hset : (ofParameters other).SetBy (lastValue parameters) := by
    apply setBy_ofParameters
    intro key hkey
    rw [← hlast key hkey]
    exact lastIs_lastValue other key
  exact hset.eq (setBy_ofParameters fun key _ => lastIs_lastValue parameters key) hfilters

theorem read_rest_ofParameters {parameters : List Parameter} (h : (fieldKeys parameters).Nodup)
    (entity : String) :
    Reader.rest.read (.ofParameters entity parameters) = .ok (.rest (ofParameters parameters)) := by
  have hfilters := filterMap_ofList h
  rw [← filters_ofParameters_eq, ← filters_ofParameters_eq] at hfilters
  have hquery : ofParameters (OrderedMap.ofList parameters).entries = ofParameters parameters :=
    ofParameters_eq hfilters fun key _ => lastValue_ofList parameters key
  exact congrArg (fun query => Except.ok (Model.rest query)) hquery

/-- Every parameter with a value and a key that is not reserved is a filter, in the order of the
parameters, and there are no other filters. The last values of the reserved keys settle all the rest. So
parameters with the same filters and the same last values are the same query, and if no key of a filter
is repeated, then the map of the parameters is that query as well. -/
theorem ofParameters_rearranged (parameters : List Parameter) :
    (ofParameters parameters).filters =
        (valuedFields parameters).map (fun field => Filter.read field.1 field.2) ∧
      (∀ filter ∈ (ofParameters parameters).filters, filter.field ∉ reservedKeys) ∧
      (∀ value : String → Option String,
        (∀ key ∈ reservedKeys, LastIs parameters key (value key)) →
          (ofParameters parameters).SetBy value) ∧
      (∀ other : List Parameter, valuedFields other = valuedFields parameters →
        (∀ key ∈ reservedKeys, ∀ value, LastIs other key value ↔ LastIs parameters key value) →
          ofParameters other = ofParameters parameters) ∧
      ((fieldKeys parameters).Nodup → ∀ entity : String,
        Reader.rest.read (.ofParameters entity parameters) =
          .ok (.rest (ofParameters parameters))) := by
  refine ⟨filters_ofParameters parameters, ?_, fun _ => setBy_ofParameters, ?_,
    read_rest_ofParameters⟩
  · intro filter hfilter hreserved
    rw [filters_ofParameters] at hfilter
    rcases List.mem_map.mp hfilter with ⟨field, hfield, rfl⟩
    have hfree := isReserved_of_mem_valuedFields hfield
    rw [isReserved, List.contains_eq_mem, decide_eq_false_iff_not] at hfree
    exact hfree hreserved
  · intro other hfields hlast
    apply ofParameters_eq
    · rw [filters_ofParameters, filters_ofParameters, hfields]
    intro key hkey
    exact ((hlast key hkey _).mpr (lastIs_lastValue parameters key)).lastValue_eq

/-- A page that is taken back, two sizes of which the first one is taken back, and filters between
them. -/
def scatteredParameters : List Parameter :=
  [("page", some "7"), ("name", some "^a%"), ("pageSize", some "5"), ("page", none), ("tag", none),
    ("page_size", some "20"), ("qty", some ">=3"), ("pageSize", none), ("sum", some "qty, ,price")]

def sortedParameters : List Parameter :=
  [("sum", some "qty, ,price"), ("page_size", some "20"), ("name", some "^a%"), ("qty", some ">=3")]

theorem ofParameters_rearranged_scattered :
    ofParameters sortedParameters = ofParameters scatteredParameters ∧
      (ofParameters scatteredParameters).paging = ⟨none, some 20⟩ ∧
      (ofParameters scatteredParameters).filters =
        [⟨"name", .like, ["a%"], true⟩, ⟨"qty", .gte, ["3"], false⟩] ∧
      Reader.rest.read (.ofParameters "orders" scatteredParameters) =
        .ok (.rest (ofParameters scatteredParameters)) := by
  rcases ofParameters_rearranged scatteredParameters with ⟨hfilters, _, hset, hsame, hmap⟩
  have hlast : ∀ key ∈ reservedKeys,
      lastValue sortedParameters key = lastValue scatteredParameters key := by
    decide
  have hpaging := hset (lastValue scatteredParameters) fun key _ => lastIs_lastValue _ key
  refine ⟨hsame sortedParameters (by decide) ?_, ?_, ?_, hmap (by decide) "orders"⟩
  · intro key hkey value
    rw [lastIs_iff, lastIs_iff, hlast key hkey]
  · have hpage : (ofParameters scatteredParameters).paging.page = none := hpaging.page
    have hsize : (ofParameters scatteredParameters).paging.size = some 20 := by
      rw [hpaging.otherSize (by decide)]
      decide +kernel
    generalize (ofParameters scatteredParameters).paging = paging at hpage hsize
    obtain ⟨page, size⟩ := paging
    simp_all
  · rw [hfilters]
    decide +kernel

end Query

end Rest
end TableQuery
