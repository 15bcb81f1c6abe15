import TableQuery.Query.Aggregates
import TableQuery.Query.Operator
import TableQuery.Query.Paging
import TableQuery.Query.Scalar
import TableQuery.Query.Sorting
import TableQuery.Text.Blank

/-!
# Plans

A plan is a query with all differences of how it was written gone: one entity, the fields to show,
the conditions, the order, the page, the aggregates and some switches.
-/

namespace TableQuery

structure Entity where
  name : String
  notBlank : (Text.trim name.toList).isEmpty = false
deriving DecidableEq, Repr

def Entity.ofName? (name : String) : Option Entity :=
  if h : (Text.trim name.toList).isEmpty = false then some ⟨name, h⟩ else none

structure Criterion where
  field : String
  operator : Operator
  values : List Scalar
  ignoreCase : Bool := false
deriving DecidableEq, Repr

/-- Switches of the whole query: count all rows, drop repeated rows, show fields of rows. -/
structure Flags where
  count : Bool := false
  distinct : Bool := false
  entities : Bool := true
deriving DecidableEq, Repr, Inhabited

/-- A query in its final form. An empty projection shows all fields. -/
structure Plan where
  entity : Entity
  projection : List String := []
  filters : List Criterion := []
  sorting : List SortKey := []
  paging : Paging := {}
  aggregates : Aggregates := {}
  flags : Flags := {}
deriving DecidableEq, Repr

namespace Plan

def fields (plan : Plan) : List String :=
  plan.projection ++ plan.aggregates.pairs.map Prod.snd ++ plan.filters.map Criterion.field ++
    plan.sorting.map SortKey.field

def firstSeen (names : List String) : List String :=
  names.foldl (fun seen name => if seen.contains name then seen else seen ++ [name]) []

/-- The fields that a plan names, each once, in the order of their first mention. -/
def referencedFields (plan : Plan) : List String :=
  firstSeen plan.fields

end Plan

end TableQuery
