import TableQuery.Plan.OfQuery
import TableQuery.Proofs.Declarative.RoundTrip
import TableQuery.Proofs.Rest.Writing

/-!
# Requests

What both front ends can say: an entity, fields to show, aggregates, switches, a page, an order and
comparisons of fields with a number or a text. A request is written as a declarative query or as
parameters.
-/

namespace TableQuery

open Declarative (FilterOperator isWord nowhere)

inductive Operand where
  | number (value : Decimal)
  | text (content : String)

structure Comparison where
  field : String
  operator : FilterOperator
  operand : Operand

structure Request where
  entity : String
  projection : List String := []
  aggregates : Aggregates := {}
  count : Bool := false
  distinct : Bool := false
  paging : Paging := {}
  sorting : List SortKey := []
  filters : List Comparison := []

namespace Operand

def chars : Operand → List Char
  | number value => value.chars
  | text content => content.toList

def value : Operand → Declarative.Value
  | number value => .number nowhere value
  | text content => .string nowhere content

def scalar : Operand → Scalar
  | number value => .number value.signless
  | text content => .string content

/-- An operand that a parameter can carry: a text is not read as a number, a range or another
comparison, and what is compared by likeness is a text with a wildcard. -/
def Carried (operator : FilterOperator) : Operand → Prop
  | number _ => operator ≠ .like
  | text content =>
    Decimal.ofChars? content.toList = none ∧ ¬ ['.', '.'] <:+: content.toList ∧
      (operator = .gt ∨ operator = .lt → content.toList.head? ≠ some '=') ∧
      (operator = .like → (∃ c ∈ content.toList, c = '%' ∨ c = '_') ∧
        (∀ c ∈ content.toList.head?, c ≠ '^' ∧ c ≠ '>' ∧ c ≠ '<' ∧ c ≠ '=') ∧
        ¬ ['!', '='] <+: content.toList)

end Operand

/-- A request whose names are words, whose comparisons are of distinct fields that parameters do not
use for anything else, and whose operands parameters can carry. -/
structure Request.Sayable (request : Request) : Prop where
  entity : isWord request.entity = true
  projection : ∀ name ∈ request.projection, isWord name = true
  aggregates : ∀ pair ∈ request.aggregates.pairs, isWord pair.2 = true
  sorting : ∀ key ∈ request.sorting, isWord key.field = true
  fields : ∀ filter ∈ request.filters, isWord filter.field = true
  free : ∀ filter ∈ request.filters, Rest.isReserved filter.field = false
  distinctFields : (request.filters.map Comparison.field).Nodup
  carried : ∀ filter ∈ request.filters, filter.operand.Carried filter.operator

/-!
## As a declarative query
-/

namespace Request

def query (request : Request) : Declarative.Query where
  resource := ⟨request.entity, nowhere⟩
  selections := request.projection
  paging := some request.paging
  distinct := request.distinct
  count := request.count
  aggregates := request.aggregates
  sorting := request.sorting
  filters := request.filters.map fun filter => ⟨filter.field, filter.operator, filter.operand.value⟩

def text (request : Request) : String :=
  request.query.text

end Request

/-!
## As parameters

A parameter is written only if it has something to say. The mark of the operator stands in front of
an operand, and a minus sign in front of a field that is sorted downwards.
-/

def operatorMark : FilterOperator → List Char
  | .eq => ['=']
  | .eqIgnoreCase => ['^', '=']
  | .neq => ['!', '=']
  | .gt => ['>']
  | .gte => ['>', '=']
  | .lt => ['<']
  | .lte => ['<', '=']
  | .like => []

def SortKey.token (key : SortKey) : String :=
  match key.direction with
  | .ascending => key.field
  | .descending => "-" ++ key.field

namespace Request

def pageParameter (key : String) (word : Option UInt32) : List Rest.Parameter :=
  (word.map fun word => (key, some (Rest.pageText word))).toList

def listParameter (key : String) (names : List String) : Rest.Parameter :=
  (key, some (Text.join "," names))

def reservedParameters (request : Request) : List Rest.Parameter :=
  pageParameter "page" request.paging.page ++ pageParameter "pageSize" request.paging.size ++
    [("count", some (booleanText request.count)),
      ("distinct", some (booleanText request.distinct)),
      listParameter "attributes" request.projection,
      listParameter "sum" request.aggregates.sum,
      listParameter "avg" request.aggregates.avg,
      listParameter "min" request.aggregates.min,
      listParameter "max" request.aggregates.max,
      listParameter "sorting" (request.sorting.map SortKey.token)]

def filterParameter (filter : Comparison) : Rest.Parameter :=
  (filter.field, some (.ofList (operatorMark filter.operator ++ filter.operand.chars)))

def parameters (request : Request) : List Rest.Parameter :=
  request.reservedParameters ++ request.filters.map filterParameter

end Request

/-!
## As a plan
-/

namespace Request

def criterion (filter : Comparison) : Criterion where
  field := filter.field
  operator := filter.operator.operator
  values := [filter.operand.scalar]
  ignoreCase := filter.operator.ignoresCase

def plan (request : Request) (entity : Entity) : Plan where
  entity
  projection := request.projection
  filters := request.filters.map criterion
  sorting := request.sorting
  paging := request.paging
  aggregates := request.aggregates
  flags := { count := request.count, distinct := request.distinct, entities := true }

theorem checked_criterion (filter : Comparison) :
    (criterion filter).checked = .ok (criterion filter) := by
  obtain ⟨field, operator, operand⟩ := filter
  cases operator <;> cases operand <;> rfl

end Request

end TableQuery
