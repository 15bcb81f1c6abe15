import TableQuery.Declarative.Query
import TableQuery.Plan.Coercion
import TableQuery.Plan.Operands
import TableQuery.Rest.Query
import TableQuery.Schema

/-!
# Planning

How queries become plans. The entity comes first: it must not be blank, and the catalog has to know
it. Then the filters are settled in their order.
-/

namespace TableQuery

def Catalog.entity (catalog : Catalog) (name : String) (span : Option Span) : Except Fault Entity :=
  match Entity.ofName? name with
  | none => .error { cause := .blankEntity, span }
  | some entity =>
    match catalog.table? .planning name with
    | none => .error { cause := .unknownEntity name, span }
    | some _ => .ok entity

namespace Rest

def Filter.criterionOf (filter : Filter) (values : List Scalar) : Criterion where
  field := filter.field
  operator := filter.operator
  values
  ignoreCase := filter.ignoreCase

def Filter.criterion (filter : Filter) : Criterion :=
  filter.criterionOf (filter.values.map Scalar.ofText)

/-- The sort key of a text: a minus sign in front sorts downwards. -/
def sortKeyOfChars : List Char → SortKey
  | '-' :: field => ⟨.ofList field, .descending⟩
  | field => ⟨.ofList field, .ascending⟩

def Query.planOf (query : Query) (entity : Entity) (filters : List Criterion) : Plan where
  entity
  filters
  projection := query.attributes
  sorting := query.sorting.map fun token => sortKeyOfChars token.toList
  paging := query.paging
  aggregates := query.aggregates
  flags := { count := query.count, distinct := query.distinct, entities := query.entities }

def Query.plan (query : Query) (entity : Entity) : Except Fault Plan := do
  let filters ← query.filters.mapM fun filter => filter.criterion.checked
  return query.planOf entity filters

end Rest

namespace Declarative

def Filter.criterion (filter : Filter) : Except Fault Criterion := do
  let value ← Scalar.ofValue filter.field filter.value
  Criterion.checked {
    field := filter.field
    operator := filter.operator.operator
    values := [value]
    ignoreCase := filter.operator.ignoresCase }

/-- The plan of a query once its entity is known. The selected fields are always shown. -/
def Query.plan (query : Query) (entity : Entity) : Except Fault Plan := do
  let filters ← query.filters.mapM Filter.criterion
  return {
    entity
    filters
    projection := query.selections
    sorting := query.sorting
    paging := query.paging.getD {}
    aggregates := query.aggregates
    flags := { count := query.count, distinct := query.distinct, entities := true } }

end Declarative

def Catalog.planRest (catalog : Catalog) (query : Rest.Query) (entity : String) :
    Except Fault Plan := do
  let entity ← catalog.entity entity none
  query.plan entity

def Catalog.planDeclarative (catalog : Catalog) (query : Declarative.Query) :
    Except Fault Plan := do
  let entity ← catalog.entity query.resource.name (some query.resource.span)
  query.plan entity

/-!
## Planning in words

The operands of parameters are read with their scales in words. A fault is given back to the caller,
and an overflow stops the program: the filters behind it are not looked at, and there is no result.
-/

inductive Halt where
  | fault (fault : Fault)
  | overflow
deriving DecidableEq, Repr

def Halt.ofOverflow : Overflow → Halt
  | .overflow => overflow

namespace Rest

def Filter.criterionIn (arithmetic : Arithmetic) (filter : Filter) : Except Overflow Criterion :=
  (filter.values.mapM (Scalar.ofTextIn arithmetic)).map filter.criterionOf

def Filter.checkedIn (arithmetic : Arithmetic) (filter : Filter) : Except Halt Criterion := do
  let criterion ← (filter.criterionIn arithmetic).mapError Halt.ofOverflow
  criterion.checked.mapError Halt.fault

def Query.planIn (arithmetic : Arithmetic) (query : Query) (entity : Entity) :
    Except Halt Plan := do
  let filters ← query.filters.mapM (Filter.checkedIn arithmetic)
  return query.planOf entity filters

end Rest

def Catalog.planRestIn (arithmetic : Arithmetic) (catalog : Catalog) (query : Rest.Query)
    (entity : String) : Except Halt Plan := do
  let entity ← (catalog.entity entity none).mapError Halt.fault
  query.planIn arithmetic entity

end TableQuery
