import TableQuery.Declarative.Document
import TableQuery.Query.Aggregates
import TableQuery.Query.Paging
import TableQuery.Query.Sorting

/-!
# Declarative queries

What a document means. Its arguments are understood in their order, and the first that makes no
sense is the fault. Every argument that is not known is a fault as well.
-/

namespace TableQuery
namespace Declarative

/-!
## Filters

An operator is found by its key, in letters of any case. Two operators compare for equality, one of
them without regard to the case of letters.
-/

inductive FilterOperator where
  | eq
  | neq
  | gt
  | gte
  | lt
  | lte
  | like
  | eqIgnoreCase
deriving DecidableEq, Repr

namespace FilterOperator

def ofKey? (key : String) : Option FilterOperator :=
  match key.toLower with
  | "eq" => some eq
  | "neq" => some neq
  | "gt" => some gt
  | "gte" => some gte
  | "lt" => some lt
  | "lte" => some lte
  | "like" => some like
  | "eqignorecase" => some eqIgnoreCase
  | _ => none

def operator : FilterOperator → Operator
  | eq | eqIgnoreCase => .eq
  | neq => .neq
  | gt => .gt
  | gte => .gte
  | lt => .lt
  | lte => .lte
  | like => .like

def ignoresCase : FilterOperator → Bool
  | eqIgnoreCase => true
  | _ => false

end FilterOperator

structure Filter where
  field : String
  operator : FilterOperator
  value : Value

structure Query where
  resource : Key
  selections : List String
  paging : Option Paging := none
  distinct : Bool := false
  count : Bool := false
  aggregates : Aggregates := {}
  sorting : List SortKey := []
  filters : List Filter := []

/-!
## Values of a required kind

A value of another kind than the one that is required is a fault, which says both kinds.
-/

namespace Value

def wrongShape (value : Value) (field : String) (required : Requirement) : Fault :=
  .located (.wrongShape field required value.shape) value.span

def asObject (field : String) : Value → Except Fault Fields
  | object _ fields => .ok fields
  | value => .error (value.wrongShape field .object)

def asList (field : String) : Value → Except Fault (List Value)
  | list _ items => .ok items
  | value => .error (value.wrongShape field .list)

def asBoolean (field : String) : Value → Except Fault Bool
  | boolean _ value => .ok value
  | value => .error (value.wrongShape field .boolean)

def asName (field : String) : Value → Except Fault String
  | string _ content => .ok content
  | identifier _ name => .ok name
  | value => .error (value.wrongShape field .name)

/-- A number without a fraction that is neither negative nor too large for a page. -/
def asPageWord (field : String) : Value → Except Fault UInt32
  | number span value =>
    match value.whole?.bind Int.toNat? |>.bind pageWord? with
    | some word => .ok word
    | none => .error (.located (.invalidInteger field value) span)
  | value => .error (value.wrongShape field .number)

end Value

def optionalField {α : Type} (fields : Fields) (name : String)
    (understand : Value → Except Fault α) : Except Fault (Option α) :=
  match fields.get? name with
  | some value => (understand value).map some
  | none => .ok none

/-!
## Arguments

Each argument sets one part of a query. Inside the page, fields other than its number and its size
say nothing.
-/

namespace Value

def toPaging (value : Value) : Except Fault Paging := do
  let fields ← value.asObject "pagination"
  let page ← optionalField fields "page" (asPageWord "pagination.page")
  let size ← optionalField fields "pageSize" (asPageWord "pagination.pageSize")
  return { page, size }

def toNames (field : String) (value : Value) : Except Fault (List String) := do
  let items ← value.asList field
  items.mapM (asName field)

def toDirection (value : Value) : Except Fault Direction := do
  let word ← value.asName "orderBy.direction"
  match Direction.ofText? word with
  | some direction => return direction
  | none => throw (.located (.invalidDirection "orderBy.direction" word) value.span)

/-- A field to sort by. Without a direction it is sorted upwards. -/
def toSortKey (value : Value) : Except Fault SortKey := do
  let fields ← value.asObject "orderBy"
  match ← optionalField fields "field" (asName "orderBy.field") with
  | none => throw (.located (.missingField "orderBy.field") value.span)
  | some field =>
    let direction ← optionalField fields "direction" toDirection
    return { field, direction := direction.getD .ascending }

def toSorting (value : Value) : Except Fault (List SortKey) := do
  let items ← value.asList "orderBy"
  items.mapM toSortKey

end Value

namespace Filter

def ofEntry (field : String) (entry : Key × Value) : Except Fault Filter :=
  match FilterOperator.ofKey? entry.1.name with
  | some operator => .ok { field, operator, value := entry.2 }
  | none =>
    .error (.located (.unsupportedOperator ("where." ++ field) entry.1.name) entry.1.span)

def ofField (entry : Key × Value) : Except Fault (List Filter) := do
  let operators ← entry.2.asObject ("where." ++ entry.1.name)
  operators.mapM (ofEntry entry.1.name)

def ofValue (value : Value) : Except Fault (List Filter) := do
  let fields ← value.asObject "where"
  let perField ← fields.mapM ofField
  return perField.flatten

end Filter

namespace Query

def argument (query : Query) (entry : Key × Value) : Except Fault Query :=
  let (key, value) := entry
  match key.name with
  | "pagination" => do return { query with paging := some (← value.toPaging) }
  | "distinct" => do return { query with distinct := ← value.asBoolean "distinct" }
  | "count" => do return { query with count := ← value.asBoolean "count" }
  | "sum" => do return { query with aggregates.sum := ← value.toNames "sum" }
  | "avg" => do return { query with aggregates.avg := ← value.toNames "avg" }
  | "min" => do return { query with aggregates.min := ← value.toNames "min" }
  | "max" => do return { query with aggregates.max := ← value.toNames "max" }
  | "orderBy" => do return { query with sorting := ← value.toSorting }
  | "where" => do return { query with filters := ← Filter.ofValue value }
  | name => .error (.located (.unsupportedArgument name) key.span)

def ofDocument (document : Document) : Except Fault Query :=
  document.arguments.foldlM argument
    { resource := document.resource, selections := document.selections }

def sourceName : String := "<query>"

def source (text : String) : Source :=
  ⟨sourceName, text⟩

/-- Reads the query of a text. Every fault knows the text. -/
def ofText (text : String) : Except Fault Query :=
  ((Document.ofText text).bind ofDocument).mapError fun fault => fault.attach (source text)

end Query

end Declarative
end TableQuery
