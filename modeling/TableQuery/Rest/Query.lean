import TableQuery.Query.Aggregates
import TableQuery.Rest.Filter
import TableQuery.Rest.Parameter

/-!
# Queries in parameters

A list of parameters is a query. Reserved keys set paging, flags, projection, aggregates and order:
the last parameter of a key counts, even if it has no value. Every other parameter with a value is a
filter. A query says nothing about the entity, which is known from elsewhere.
-/

namespace TableQuery
namespace Rest

/-- What parameters ask for. Sort keys are still text, with a minus sign for downwards. -/
structure Query where
  paging : Paging := {}
  count : Bool := false
  distinct : Bool := false
  entities : Bool := true
  attributes : List String := []
  aggregates : Aggregates := {}
  sorting : List String := []
  filters : List Filter := []
deriving DecidableEq, Repr

/-!
## Reading

The parameters are read one after the other. There is a place for the value of every reserved key,
and a parameter with such a key writes over what is there.
-/

inductive Slot where
  | page
  | pageSize
  | otherPageSize
  | count
  | distinct
  | entities
  | attributes
  | sum
  | avg
  | min
  | max
  | sorting
deriving DecidableEq, Repr

def Slot.ofKey? : String → Option Slot
  | "page" => some page
  | "pageSize" => some pageSize
  | "page_size" => some otherPageSize
  | "count" => some count
  | "distinct" => some distinct
  | "entities" => some entities
  | "attributes" => some attributes
  | "sum" => some sum
  | "avg" => some avg
  | "min" => some min
  | "max" => some max
  | "sorting" => some sorting
  | _ => none

structure Progress where
  value : Slot → Option String := fun _ => none
  filters : List Filter := []

namespace Progress

def set (progress : Progress) (slot : Slot) (value : Option String) : Progress :=
  { progress with value := fun other => if other = slot then value else progress.value other }

def step (progress : Progress) (parameter : Parameter) : Progress :=
  match Slot.ofKey? parameter.1 with
  | some slot => progress.set slot parameter.2
  | none =>
    match parameter.2 with
    | some value => { progress with filters := progress.filters ++ [Filter.read parameter.1 value] }
    | none => progress

/-- The query of all parameters. Of the two keys for the size of a page, one goes before the other. -/
def query (progress : Progress) : Query :=
  let list (slot : Slot) := readList (progress.value slot)
  { paging := {
      page := readInteger (progress.value .page)
      size := readInteger ((progress.value .pageSize).or (progress.value .otherPageSize)) }
    count := readBoolean false (progress.value .count)
    distinct := readBoolean false (progress.value .distinct)
    entities := readBoolean true (progress.value .entities)
    attributes := list .attributes
    aggregates := { sum := list .sum, avg := list .avg, min := list .min, max := list .max }
    sorting := list .sorting
    filters := progress.filters }

end Progress

def Query.ofParameters (parameters : List Parameter) : Query :=
  (parameters.foldl Progress.step {}).query

end Rest
end TableQuery
