import Mathlib.Data.List.Basic
import TableQuery.Proofs.Plan.Coercion
import TableQuery.Proofs.Plan.Request

/-!
# Requests in parameters

A request is read back from its parameters and comes to its plan. No operand is taken for a range or
another comparison, and no two parameters have one key.
-/

namespace TableQuery

open Outcome
open Declarative (FilterOperator isWord isWordStart isWordPart nowhere)

/-!
## Operands in parameters

Plain notation has one point at most, so a number is never taken for a range. A text has to be one
that is not taken for anything else.
-/

theorem Decimal.count_point_chars (d : Decimal) : d.chars.count '.' ≤ 1 := by
  have hwhole : d.wholeDigits.count '.' = 0 := by
    apply List.count_eq_zero_of_not_mem
    intro hmem
    exact absurd (isDigit_of_mem_wholeDigits hmem) (by decide)
  have hfraction : d.fractionChars.count '.' ≤ 1 := by
    have hdigits : d.fractionDigits.count '.' = 0 := by
      apply List.count_eq_zero_of_not_mem
      intro hmem
      exact absurd (isDigit_of_mem_fractionDigits hmem) (by decide)
    unfold fractionChars
    split
    · simp
    · simp [hdigits]
  have hsign : (if d.negative then ['-'] else []).count '.' = 0 := by
    cases d.negative <;> decide
  rw [chars_eq, List.count_append, List.count_append, hwhole, hsign]
  omega

theorem Decimal.not_range_chars (d : Decimal) : ¬ ['.', '.'] <:+: d.chars := by
  intro hpoints
  have hcount := hpoints.sublist.count_le '.'
  have hone := d.count_point_chars
  have htwo : ['.', '.'].count '.' = 2 := by decide
  omega

namespace Operand

variable {operator : FilterOperator} {operand : Operand}

theorem Carried.splitRange? (h : operand.Carried operator) :
    Rest.splitRange? operand.chars = none := by
  cases operand with
  | number value => exact Rest.splitRange?_eq_none value.not_range_chars
  | text content => exact Rest.splitRange?_eq_none h.2.1

theorem Carried.head?_ne_equal (h : operand.Carried operator)
    (hoperator : operator = .gt ∨ operator = .lt) : operand.chars.head? ≠ some '=' := by
  cases operand with
  | number value =>
      intro hhead
      have hmem : '=' ∈ value.chars := List.mem_of_mem_head? hhead
      rcases Decimal.mem_chars hmem with hdigit | hminus | hpoint
      · exact absurd hdigit (by decide)
      · exact absurd hminus (by decide)
      · exact absurd hpoint (by decide)
  | text content => exact h.2.2.1 hoperator

theorem Carried.ofText (h : operand.Carried operator) :
    Scalar.ofText (.ofList operand.chars) = operand.scalar := by
  cases operand with
  | number value => exact Scalar.ofText_text value
  | text content =>
      simp only [Scalar.ofText, Scalar.ofReading, chars, h.1, String.ofList_toList, scalar]

theorem Carried.comparison (h : operand.Carried operator) (field : String) :
    Rest.Filter.ofChars field (operatorMark operator ++ operand.chars) =
      ⟨field, operator.operator, [.ofList operand.chars], operator.ignoresCase⟩ := by
  have hrange := h.splitRange?
  cases operator with
  | eq =>
      exact Rest.Filter.ofChars_of_comparison field (by simp [operatorMark]) (Rest.comparison_equal hrange)
  | eqIgnoreCase =>
      exact Rest.Filter.ofChars_caret field (Rest.comparison_equal hrange)
  | neq =>
      exact Rest.Filter.ofChars_of_comparison field (by simp [operatorMark])
        (Rest.comparison_orEqual hrange).2.2
  | gt =>
      have hne := h.head?_ne_equal (Or.inl rfl)
      exact Rest.Filter.ofChars_of_comparison field (by simp [operatorMark]) (Rest.comparison_less hrange hne).1
  | gte =>
      exact Rest.Filter.ofChars_of_comparison field (by simp [operatorMark]) (Rest.comparison_orEqual hrange).1
  | lt =>
      have hne := h.head?_ne_equal (Or.inr rfl)
      exact Rest.Filter.ofChars_of_comparison field (by simp [operatorMark]) (Rest.comparison_less hrange hne).2
  | lte =>
      exact Rest.Filter.ofChars_of_comparison field (by simp [operatorMark])
        (Rest.comparison_orEqual hrange).2.1
  | like =>
      cases operand with
      | number value => exact absurd rfl h
      | text content =>
          rcases h.2.2.2 rfl with ⟨⟨wildcard, hmem, hwildcard⟩, hstart, hnot⟩
          have hpattern : Rest.hasWildcard content.toList = true :=
            List.any_eq_true.mpr ⟨wildcard, hmem, by simpa using hwildcard⟩
          apply Rest.Filter.ofChars_of_comparison
          · intro hhead
            exact (hstart '^' hhead).1 rfl
          · exact Rest.comparison_pattern hrange hpattern (fun c hc => (hstart c hc).2) hnot

end Operand

/-!
## Names in parameters

Names are words, so they have no commas and no blanks, and none starts with a minus sign.
-/

theorem isWordPart_of_mem {name : String} (h : isWord name = true) {c : Char}
    (hc : c ∈ name.toList) : isWordPart c = true := by
  unfold Declarative.isWord at h
  split at h
  · cases h
  · rename_i first rest hname
    rw [hname] at hc
    rw [Bool.and_eq_true, List.all_eq_true] at h
    rcases List.mem_cons.mp hc with rfl | hmem
    · exact Declarative.isWordPart_of_isWordStart h.1
    · exact h.2 c hmem

theorem isBlank_eq_false_of_mem {name : String} (h : isWord name = true) {c : Char}
    (hc : c ∈ name.toList) : Text.isBlank c = false := by
  cases hblank : Text.isBlank c with
  | false => rfl
  | true =>
      rw [← isWordPart_of_mem h hc]
      exact Declarative.isWordPart_eq_false_of_isBlank hblank

theorem toList_ne_nil_of_isWord {name : String} (h : isWord name = true) : name.toList ≠ [] := by
  intro hnil
  rw [isWord, hnil] at h
  cases h

theorem isListed_of_isWord {name : String} (h : isWord name = true) : Rest.IsListed name := by
  refine ⟨toList_ne_nil_of_isWord h, ?_⟩
  intro c hc
  refine ⟨?_, isBlank_eq_false_of_mem h hc⟩
  rintro rfl
  exact absurd (isWordPart_of_mem h hc) (by decide +kernel)

theorem isListed_token {key : SortKey} (h : isWord key.field = true) : Rest.IsListed key.token := by
  obtain ⟨field, direction⟩ := key
  have hfield := isListed_of_isWord h
  cases direction with
  | ascending => exact hfield
  | descending =>
      have hchars : (SortKey.mk field .descending).token.toList = '-' :: field.toList := by
        simp [SortKey.token]
      rw [Rest.IsListed, hchars]
      refine ⟨by simp, ?_⟩
      intro c hc
      rcases List.mem_cons.mp hc with rfl | hmem
      · decide +kernel
      · exact hfield.2 c hmem

theorem sortKeyOfChars_token {key : SortKey} (h : isWord key.field = true) :
    Rest.sortKeyOfChars key.token.toList = key := by
  obtain ⟨field, direction⟩ := key
  cases direction with
  | descending => simp [SortKey.token, Rest.sortKeyOfChars]
  | ascending =>
      change Rest.sortKeyOfChars field.toList = _
      unfold Rest.sortKeyOfChars
      split
      · rename_i rest hname
        have hmem : '-' ∈ field.toList := by
          rw [hname]
          simp
        exact absurd (isWordPart_of_mem h hmem) (by decide +kernel)
      · rw [String.ofList_toList]

/-!
## Requests in parameters

No two parameters of a request have one key, so the value of each reserved key is the one that was
written for it, and each comparison is a filter of its own.
-/

namespace Request

variable {request : Request}

def usedKeys : List String :=
  ["page", "pageSize", "count", "distinct", "attributes", "sum", "avg", "min", "max", "sorting"]

theorem sublist_usedKeys (request : Request) :
    (request.reservedParameters.map Prod.fst).Sublist usedKeys := by
  have hpage : ∀ (key : String) (word : Option UInt32),
      ((pageParameter key word).map Prod.fst).Sublist [key] := by
    intro key word
    cases word with
    | none => exact List.nil_sublist _
    | some word => exact List.Sublist.refl _
  simp only [reservedParameters, List.map_append]
  exact ((hpage "page" _).append (hpage "pageSize" _)).append (List.Sublist.refl _)

theorem isReserved_of_mem {parameter : Rest.Parameter} (h : parameter ∈ request.reservedParameters) :
    Rest.isReserved parameter.1 = true := by
  have hused : ∀ key ∈ usedKeys, Rest.isReserved key = true := by decide
  exact hused _ (request.sublist_usedKeys.mem (List.mem_map.mpr ⟨parameter, h, rfl⟩))

theorem Sayable.not_mem_fields (h : request.Sayable) {key : String}
    (hkey : Rest.isReserved key = true) : key ∉ request.filters.map Comparison.field := by
  intro hmem
  rcases List.mem_map.mp hmem with ⟨filter, hfilter, rfl⟩
  rw [h.free filter hfilter] at hkey
  cases hkey

theorem map_fst_parameters (request : Request) : request.parameters.map Prod.fst =
    request.reservedParameters.map Prod.fst ++ request.filters.map Comparison.field := by
  simp [parameters, filterParameter, Function.comp_def]

theorem Sayable.nodup_keys (h : request.Sayable) : (request.parameters.map Prod.fst).Nodup := by
  have hused : usedKeys.Nodup := by decide
  rw [map_fst_parameters, List.nodup_append]
  refine ⟨hused.sublist request.sublist_usedKeys, h.distinctFields, ?_⟩
  intro key hkey field hfield heq
  rcases List.mem_map.mp hkey with ⟨parameter, hparameter, rfl⟩
  exact h.not_mem_fields (isReserved_of_mem hparameter) (heq ▸ hfield)

theorem Sayable.lastValue_of_reserved (h : request.Sayable) {key : String} {value : Option String}
    (hmem : (key, value) ∈ request.reservedParameters) :
    Rest.lastValue request.parameters key = value :=
  Rest.lastValue_of_mem h.nodup_keys (List.mem_append_left _ hmem)

theorem Sayable.lastValue_of_absent (h : request.Sayable) {key : String}
    (hkey : Rest.isReserved key = true) (habsent : key ∉ request.reservedParameters.map Prod.fst) :
    Rest.lastValue request.parameters key = none := by
  apply Rest.lastValue_eq_none
  rw [map_fst_parameters, List.mem_append]
  rintro (hmem | hmem)
  · exact habsent hmem
  · exact h.not_mem_fields hkey hmem

theorem Sayable.lastValue_of_unused (h : request.Sayable) {key : String}
    (hkey : Rest.isReserved key = true) (hunused : key ∉ usedKeys) :
    Rest.lastValue request.parameters key = none :=
  h.lastValue_of_absent hkey fun hmem => hunused (request.sublist_usedKeys.mem hmem)

theorem Sayable.readInteger_page (h : request.Sayable) :
    Rest.readInteger (Rest.lastValue request.parameters "page") = request.paging.page := by
  cases hpage : request.paging.page with
  | none =>
      rw [h.lastValue_of_absent (by decide)]
      · rfl
      · cases hsize : request.paging.size <;>
          simp [reservedParameters, pageParameter, listParameter, hpage, hsize]
  | some word =>
      have hmem : ("page", some (Rest.pageText word)) ∈ request.reservedParameters := by
        simp [reservedParameters, pageParameter, hpage]
      rw [h.lastValue_of_reserved hmem, Rest.readInteger_pageText]

theorem Sayable.readInteger_size (h : request.Sayable) :
    Rest.readInteger (Rest.lastValue request.parameters "pageSize") = request.paging.size := by
  cases hsize : request.paging.size with
  | none =>
      rw [h.lastValue_of_absent (by decide)]
      · rfl
      · cases hpage : request.paging.page <;>
          simp [reservedParameters, pageParameter, listParameter, hpage, hsize]
  | some word =>
      have hmem : ("pageSize", some (Rest.pageText word)) ∈ request.reservedParameters := by
        simp [reservedParameters, pageParameter, hsize]
      rw [h.lastValue_of_reserved hmem, Rest.readInteger_pageText]

theorem Sayable.readList_of_mem (h : request.Sayable) {key : String} {names : List String}
    (hmem : listParameter key names ∈ request.reservedParameters)
    (hlisted : ∀ name ∈ names, Rest.IsListed name) :
    Rest.readList (Rest.lastValue request.parameters key) = names := by
  rw [h.lastValue_of_reserved hmem]
  exact Rest.readList_join hlisted

theorem Sayable.readList_of_words (h : request.Sayable) {key : String} {names : List String}
    (hmem : listParameter key names ∈ request.reservedParameters)
    (hwords : ∀ name ∈ names, isWord name = true) :
    Rest.readList (Rest.lastValue request.parameters key) = names :=
  h.readList_of_mem hmem fun name hname => isListed_of_isWord (hwords name hname)

theorem Sayable.filters_parameters (h : request.Sayable) :
    request.parameters.filterMap Rest.filterOf? = request.filters.map fun filter =>
      ⟨filter.field, filter.operator.operator, [.ofList filter.operand.chars],
        filter.operator.ignoresCase⟩ := by
  have hreserved : request.reservedParameters.filterMap Rest.filterOf? = [] := by
    rw [List.filterMap_eq_nil_iff]
    intro parameter hparameter
    rw [Rest.filterOf?, if_pos (isReserved_of_mem hparameter)]
  have hfilter : ∀ filter ∈ request.filters, Rest.filterOf? (filterParameter filter) =
      some ⟨filter.field, filter.operator.operator, [.ofList filter.operand.chars],
        filter.operator.ignoresCase⟩ := by
    intro filter hfilter
    have hfree : ¬ Rest.isReserved filter.field = true := by simp [h.free filter hfilter]
    rw [filterParameter, Rest.filterOf?, if_neg hfree]
    simp only [Option.map_some, Rest.Filter.read, String.toList_ofList,
      (h.carried filter hfilter).comparison]
  rw [parameters, List.filterMap_append, hreserved, List.nil_append, List.filterMap_map]
  exact List.filterMap_eq_map_iff_forall_eq_some.mpr hfilter

def restQuery (request : Request) : Rest.Query where
  paging := request.paging
  count := request.count
  distinct := request.distinct
  entities := true
  attributes := request.projection
  aggregates := request.aggregates
  sorting := request.sorting.map SortKey.token
  filters := request.filters.map fun filter =>
    ⟨filter.field, filter.operator.operator, [.ofList filter.operand.chars],
      filter.operator.ignoresCase⟩

theorem Sayable.ofParameters_parameters (h : request.Sayable) :
    Rest.Query.ofParameters request.parameters = request.restQuery := by
  have hpageSize : Rest.lastValue request.parameters "page_size" = none :=
    h.lastValue_of_unused (by decide) (by decide)
  have hentities : Rest.lastValue request.parameters "entities" = none :=
    h.lastValue_of_unused (by decide) (by decide)
  have hcount : Rest.lastValue request.parameters "count" = some (booleanText request.count) :=
    h.lastValue_of_reserved (by simp [reservedParameters])
  have hdistinct :
      Rest.lastValue request.parameters "distinct" = some (booleanText request.distinct) :=
    h.lastValue_of_reserved (by simp [reservedParameters])
  have hattributes : Rest.readList (Rest.lastValue request.parameters "attributes") =
      request.projection :=
    h.readList_of_words (by simp [reservedParameters]) h.projection
  have hsum : Rest.readList (Rest.lastValue request.parameters "sum") = request.aggregates.sum :=
    h.readList_of_words (by simp [reservedParameters]) fun name hname =>
      h.aggregates (.sum, name) (by simp [Aggregates.pairs, hname])
  have havg : Rest.readList (Rest.lastValue request.parameters "avg") = request.aggregates.avg :=
    h.readList_of_words (by simp [reservedParameters]) fun name hname =>
      h.aggregates (.avg, name) (by simp [Aggregates.pairs, hname])
  have hmin : Rest.readList (Rest.lastValue request.parameters "min") = request.aggregates.min :=
    h.readList_of_words (by simp [reservedParameters]) fun name hname =>
      h.aggregates (.min, name) (by simp [Aggregates.pairs, hname])
  have hmax : Rest.readList (Rest.lastValue request.parameters "max") = request.aggregates.max :=
    h.readList_of_words (by simp [reservedParameters]) fun name hname =>
      h.aggregates (.max, name) (by simp [Aggregates.pairs, hname])
  have hsorting : Rest.readList (Rest.lastValue request.parameters "sorting") =
      request.sorting.map SortKey.token := by
    apply h.readList_of_mem (by simp [reservedParameters])
    intro token htoken
    rcases List.mem_map.mp htoken with ⟨key, hkey, rfl⟩
    exact isListed_token (h.sorting key hkey)
  simp only [Rest.Query.ofParameters_eq_lastValue, restQuery, h.readInteger_page, hpageSize, Option.or_none,
    h.readInteger_size, hcount, hdistinct, Rest.readBoolean_booleanText, hentities, hattributes, hsum,
    havg, hmin, hmax, hsorting, h.filters_parameters]
  rfl

theorem Sayable.plan_restQuery (h : request.Sayable) (entity : Entity) :
    request.restQuery.plan entity = .ok (request.plan entity) := by
  have hfilters : request.restQuery.filters.mapM (fun filter => filter.criterion.checked) =
      .ok (request.filters.map criterion) := by
    apply mapM_map_eq_ok
    intro filter hfilter
    have hscalar := (h.carried filter hfilter).ofText
    have hcriterion : Rest.Filter.criterion ⟨filter.field, filter.operator.operator,
        [.ofList filter.operand.chars], filter.operator.ignoresCase⟩ = criterion filter := by
      simp only [Rest.Filter.criterion, Rest.Filter.criterionOf, criterion, List.map_cons, List.map_nil, hscalar]
    rw [hcriterion, checked_criterion]
  have hsorting : (request.sorting.map SortKey.token).map
      (fun token => Rest.sortKeyOfChars token.toList) = request.sorting := by
    rw [List.map_map]
    have hkeys := List.map_congr_left (g := id) fun key hkey => sortKeyOfChars_token (h.sorting key hkey)
    exact hkeys.trans (List.map_id request.sorting)
  rw [Rest.Query.plan, hfilters, ok_bind]
  simp only [restQuery, Rest.Query.planOf, hsorting]
  rfl

end Request

end TableQuery
