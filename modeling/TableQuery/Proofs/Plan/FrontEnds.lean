import TableQuery.Proofs.Plan.Parameters

/-!
# The front ends agree

A request that is written as a declarative query and as parameters comes to one plan, or is refused in
both forms because its entity is unknown.
-/

namespace TableQuery

open Outcome
open Declarative (FilterOperator isWord nowhere SameCause)

/-!
## Planning without places
-/

namespace Declarative

theorem alike_ofValue_scalar (field : String) (value : Value) :
    Alike SameCause id (Scalar.ofValue field value) (Scalar.ofValue field value.bare) := by
  cases value with
  | list span items => exact Alike.error rfl
  | object span fields => exact Alike.error rfl
  | string span content => exact Alike.ok (Scalar.string content)
  | identifier span name => exact Alike.ok (Scalar.string name)
  | number span value => exact Alike.ok (Scalar.number value)
  | boolean span value => exact Alike.ok (Scalar.boolean value)

theorem Filter.alike_criterion (filter : Filter) :
    Alike SameCause id filter.criterion filter.bare.criterion := by
  apply Alike.bind (alike_ofValue_scalar filter.field filter.value)
  intro value
  apply Alike.refl
  intro fault
  rfl

theorem Query.alike_plan (query : Query) (entity : Entity) :
    Alike SameCause id (query.plan entity) (query.bare.plan entity) := by
  apply Alike.bind (Alike.mapM Filter.alike_criterion query.filters)
  intro filters
  rw [List.map_id]
  exact Alike.ok _

theorem Query.plan_of_bare_eq {query query' : Query} (h : query.bare = query'.bare) {entity : Entity}
    {plan : Plan} (hplan : query'.plan entity = .ok plan) : query.plan entity = .ok plan := by
  have hbare := query'.alike_plan entity
  rw [hplan] at hbare
  have halike := query.alike_plan entity
  rw [h, hbare.eq_ok] at halike
  rcases halike.exists_ok with ⟨found, hfound, rfl⟩
  exact hfound

end Declarative

/-!
## Requests as declarative queries

The text of a request has a sign in front of each negative zero, and the sign is lost when the text is
read.
-/

theorem Decimal.sign_signless (d : Decimal) :
    d.signless.negative = true → d.signless.magnitude ≠ 0 := by
  intro hnegative
  simp only [signless, Bool.and_eq_true, bne_iff_ne] at hnegative
  exact hnegative.2

theorem Decimal.signless_signless (d : Decimal) : d.signless.signless = d.signless :=
  signless_eq_self d.sign_signless

def Operand.settled : Operand → Operand
  | number value => number value.signless
  | text content => text content

theorem Operand.value_tree_settled (operand : Operand) :
    operand.settled.value.tree.value = operand.value.tree.value := by
  cases operand with
  | text content => rfl
  | number value =>
      simp only [settled, Operand.value, Declarative.Value.tree, Declarative.ValueTree.value,
        value.signless_signless]

theorem Operand.ofValue_settled (field : String) (operand : Operand) :
    Scalar.ofValue field operand.settled.value = .ok operand.scalar := by
  cases operand <;> rfl

namespace Request

def settled (request : Request) : Request :=
  { request with
    filters := request.filters.map fun filter =>
      { filter with operand := filter.operand.settled } }

variable {request : Request}

theorem map_field_settled (request : Request) :
    request.settled.filters.map Comparison.field = request.filters.map Comparison.field := by
  simp [settled, Function.comp_def]

theorem map_field_query (request : Request) :
    request.query.filters.map Declarative.Filter.field = request.filters.map Comparison.field := by
  simp [query, Function.comp_def]

theorem writable_query {number : Decimal → Prop} (hentity : isWord request.entity = true)
    (hprojection : ∀ name ∈ request.projection, isWord name = true)
    (hfields : ∀ filter ∈ request.filters, isWord filter.field = true)
    (hdistinct : (request.filters.map Comparison.field).Nodup)
    (hvalues : ∀ filter ∈ request.filters, filter.operand.value.Writable number) :
    request.query.Writable number := by
  have hnodup : (request.query.filters.map Declarative.Filter.field).Nodup := by
    rw [map_field_query]
    exact hdistinct
  refine ⟨hentity, hprojection, ?_, .of_nodup hnodup, ?_, ?_⟩
  · intro filter hfilter
    rcases List.mem_map.mp hfilter with ⟨comparison, hcomparison, rfl⟩
    exact hfields comparison hcomparison
  · rw [List.Nodup, List.pairwise_map] at hnodup
    exact hnodup.imp fun hne heq => absurd heq hne
  · intro filter hfilter
    rcases List.mem_map.mp hfilter with ⟨comparison, hcomparison, rfl⟩
    exact hvalues comparison hcomparison

theorem Sayable.writable_query (h : request.Sayable) : request.query.Writable fun _ => True := by
  apply Request.writable_query h.entity h.projection h.fields h.distinctFields
  intro filter _
  cases filter.operand with
  | number value => exact .number nowhere value trivial
  | text content => exact .string nowhere content

theorem Sayable.writable_settled (h : request.Sayable) : request.settled.query.Writable
    fun value => value.negative = true → value.magnitude ≠ 0 := by
  apply @Request.writable_query request.settled _ h.entity h.projection
  · intro filter hfilter
    rcases List.mem_map.mp hfilter with ⟨comparison, hcomparison, rfl⟩
    exact h.fields comparison hcomparison
  · rw [map_field_settled]
    exact h.distinctFields
  · intro filter hfilter
    rcases List.mem_map.mp hfilter with ⟨comparison, _, rfl⟩
    cases comparison.operand with
    | number value => exact .number nowhere _ value.sign_signless
    | text content => exact .string nowhere content

theorem Sayable.value_tree_ofFilters (h : request.Sayable) :
    (Declarative.Value.ofFilters request.settled.query.filters).tree.value =
      (Declarative.Value.ofFilters request.query.filters).tree.value := by
  have hnodup : (request.query.filters.map Declarative.Filter.field).Nodup := by
    rw [map_field_query]
    exact h.distinctFields
  have hsettled : (request.settled.query.filters.map Declarative.Filter.field).Nodup := by
    rw [map_field_query, map_field_settled]
    exact h.distinctFields
  have hentry : ∀ filter : Comparison,
      (Declarative.Value.object nowhere
        [Declarative.entry filter.operator.key filter.operand.settled.value]).tree.value =
      (Declarative.Value.object nowhere
        [Declarative.entry filter.operator.key filter.operand.value]).tree.value := by
    intro filter
    simp only [Declarative.Value.tree, Declarative.ValueTree.value,
      Declarative.Value.entries_fieldsTree, Declarative.entry, List.map_cons, List.map_nil,
      filter.operand.value_tree_settled]
  rw [Declarative.Value.ofFilters, Declarative.Value.ofFilters,
    Declarative.Filter.grouped_of_nodup hnodup, Declarative.Filter.grouped_of_nodup hsettled]
  rw [Declarative.Value.tree, Declarative.Value.tree, Declarative.ValueTree.value,
    Declarative.ValueTree.value, Declarative.Value.entries_fieldsTree,
    Declarative.Value.entries_fieldsTree]
  simp only [query, settled, List.map_map, Function.comp_def, List.map_cons, List.map_nil]
  simp only [Declarative.entry] at hentry ⊢
  simp only [hentry]

theorem Sayable.document_tree_settled (h : request.Sayable) :
    request.settled.query.document.tree.document = request.query.document.tree.document := by
  have harguments : ∀ query : Declarative.Query, query.document.tree.document.arguments =
      Declarative.Fields.merged
        (query.arguments.map fun field => (field.1.bare, field.2.tree.value)) := by
    intro query
    have hne : query.arguments.isEmpty = false := by simp [Declarative.Query.arguments]
    simp only [Declarative.Document.tree, Declarative.DocumentTree.document,
      Declarative.Query.document, hne, Bool.false_eq_true, if_false, Option.map_some,
      Option.getD_some, Declarative.Value.entries_fieldsTree]
  have hsame : request.settled.query.document.tree.document.arguments =
      request.query.document.tree.document.arguments := by
    rw [harguments, harguments]
    have hvalue := h.value_tree_ofFilters
    simp only [Declarative.Query.arguments, Declarative.entry, List.map_append, List.map_cons,
      List.map_nil, hvalue]
    rfl
  exact congrArg (fun fields => Declarative.Document.mk request.query.document.resource.bare fields
    request.query.document.tree.document.selections) hsame

theorem Sayable.ofText_text (h : request.Sayable) :
    ∃ found, Declarative.Query.ofText request.text = .ok found ∧
      found.bare = request.settled.query.bare := by
  rcases h.writable_query.ofText_document (fun _ => trivial) with ⟨document, hdocument, hbare⟩
  have htree := (h.writable_settled.document Declarative.Query.sign_ofUInt64).document_tree
    fun _ => Decimal.signless_eq_self
  rw [← h.document_tree_settled, htree, Declarative.Document.bare_bare] at hbare
  exact Declarative.Query.ofText_of_bare_eq hdocument hbare

theorem plan_settled (request : Request) (entity : Entity) :
    request.settled.query.plan entity = .ok (request.plan entity) := by
  have hfilters : request.settled.query.filters.mapM Declarative.Filter.criterion =
      .ok (request.filters.map criterion) := by
    rw [query, settled, List.map_map]
    apply mapM_map_eq_ok
    intro filter _
    simp only [Function.comp_apply, Declarative.Filter.criterion, Operand.ofValue_settled, ok_bind]
    exact checked_criterion filter
  rw [Declarative.Query.plan, hfilters, ok_bind]
  rfl

/-!
## Agreement
-/

theorem Sayable.ofName?_entity (h : request.Sayable) :
    ∃ entity : Entity, entity.name = request.entity ∧
      Entity.ofName? request.entity = some entity := by
  have hblank : (Text.trim request.entity.toList).isEmpty = false := by
    rw [Text.trim_eq_self fun c hc => isBlank_eq_false_of_mem h.entity hc]
    simpa using toList_ne_nil_of_isWord h.entity
  exact ⟨⟨request.entity, hblank⟩, rfl, dif_pos hblank⟩

/-- Both forms of a request come to its plan if the catalog knows its entity, and are refused for the
unknown entity if it does not. -/
theorem planDeclarative_eq_planRest (h : request.Sayable) :
    ∃ query, Declarative.Query.ofText request.text = .ok query ∧ ∀ catalog : Catalog,
      (∀ table, catalog.table? .planning request.entity = some table →
        ∃ entity : Entity, entity.name = request.entity ∧
          catalog.planDeclarative query = .ok (request.plan entity) ∧
          catalog.planRest (.ofParameters request.parameters) request.entity =
            .ok (request.plan entity)) ∧
      (catalog.table? .planning request.entity = none →
        catalog.planDeclarative query = .error
          { cause := .unknownEntity request.entity, span := some query.resource.span } ∧
        catalog.planRest (.ofParameters request.parameters) request.entity =
          .error { cause := .unknownEntity request.entity }) := by
  rcases h.ofText_text with ⟨query, hread, hbare⟩
  rcases h.ofName?_entity with ⟨entity, hname, hentity⟩
  have hresource : query.resource.name = request.entity :=
    congrArg (fun query => query.resource.name) hbare
  refine ⟨query, hread, fun catalog => ⟨?_, ?_⟩⟩
  · intro table htable
    refine ⟨entity, hname, ?_, ?_⟩
    · have hplan := Declarative.Query.plan_of_bare_eq hbare (request.plan_settled entity)
      simp only [Catalog.planDeclarative, Catalog.entity, hresource, hentity, htable, ok_bind, hplan]
    · simp only [Catalog.planRest, Catalog.entity, hentity, htable, ok_bind,
        h.ofParameters_parameters, h.plan_restQuery]
  · intro htable
    constructor
    · simp only [Catalog.planDeclarative, Catalog.entity, hresource, hentity, htable]
      rfl
    · simp only [Catalog.planRest, Catalog.entity, hentity, htable]
      rfl

/-- A request with quotes and marks in texts, a negative zero and a pattern. -/
def markedRequest : Request where
  entity := "orders"
  projection := ["id", "größe"]
  aggregates := { sum := ["total"], max := ["_x1", "total"] }
  count := true
  paging := ⟨some 0, some 4294967295⟩
  sorting := [⟨"name", .descending⟩, ⟨"id", .ascending⟩]
  filters := [
    ⟨"name", .eqIgnoreCase, .text "^O\"Brien\\ \x7b"⟩,
    ⟨"total", .gt, .number ⟨true, 0, 2, by decide, by decide⟩⟩,
    ⟨"code", .like, .text "!10%"⟩,
    ⟨"id", .lte, .text "=.5.5"⟩,
    ⟨"note", .neq, .text ""⟩]

theorem markedRequest_sayable : markedRequest.Sayable := by
  constructor
  · decide +kernel
  · decide +kernel
  · decide +kernel
  · decide +kernel
  · intro filter hfilter
    simp only [markedRequest, List.mem_cons, List.not_mem_nil, or_false] at hfilter
    rcases hfilter with rfl | rfl | rfl | rfl | rfl <;> decide +kernel
  · intro filter hfilter
    simp only [markedRequest, List.mem_cons, List.not_mem_nil, or_false] at hfilter
    rcases hfilter with rfl | rfl | rfl | rfl | rfl <;> decide
  · decide
  · intro filter hfilter
    simp only [markedRequest, List.mem_cons, List.not_mem_nil, or_false] at hfilter
    rcases hfilter with rfl | rfl | rfl | rfl | rfl
    · exact ⟨by decide +kernel, by decide +kernel, by simp, by simp⟩
    · exact FilterOperator.noConfusion
    · exact ⟨by decide +kernel, by decide +kernel, by simp,
        fun _ => ⟨⟨'%', by simp⟩, by simp, by decide +kernel⟩⟩
    · exact ⟨by decide +kernel, by decide +kernel, by simp, by simp⟩
    · exact ⟨by decide +kernel, by decide +kernel, by simp, by simp⟩

theorem planDeclarative_eq_planRest_marked :
    markedRequest.Sayable ∧
      ∃ query, Declarative.Query.ofText markedRequest.text = .ok query ∧
        (∃ entity : Entity, entity.name = "orders" ∧
          (Catalog.ofSchema (.ofTables [⟨"orders", .empty, none⟩])).planDeclarative query =
            .ok (markedRequest.plan entity) ∧
          (Catalog.ofSchema (.ofTables [⟨"orders", .empty, none⟩])).planRest
            (.ofParameters markedRequest.parameters) "orders" = .ok (markedRequest.plan entity)) ∧
        (Catalog.ofSchema {}).planRest (.ofParameters markedRequest.parameters) "orders" =
          .error { cause := .unknownEntity "orders" } := by
  refine ⟨markedRequest_sayable, ?_⟩
  rcases planDeclarative_eq_planRest markedRequest_sayable with ⟨query, hread, hcatalog⟩
  refine ⟨query, hread, ?_, ?_⟩
  · exact (hcatalog _).1 (Table.handle ⟨"orders", .empty, none⟩) rfl
  · exact ((hcatalog _).2 rfl).2

end Request

end TableQuery
