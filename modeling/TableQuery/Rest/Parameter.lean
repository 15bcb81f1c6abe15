import TableQuery.Decimal.Literal
import TableQuery.Query.Paging
import TableQuery.Text.Blank
import TableQuery.Text.Parts

/-!
# Parameters

A request has parameters, each a key with a value or without one. The readers of a value never fail:
a value that makes no sense counts as not given, or as false.
-/

namespace TableQuery
namespace Rest

abbrev Parameter := String × Option String

/-- The keys that say something about the whole query. All others are filters. -/
def reservedKeys : List String :=
  ["page", "pageSize", "page_size", "count", "distinct", "entities", "attributes", "sum", "avg",
   "min", "max", "sorting"]

def isReserved (key : String) : Bool :=
  reservedKeys.contains key

/-- A switch: `true` and `yes` in letters of any case and `1` turn it on, any other value turns it
off. -/
def readBoolean (default : Bool) : Option String → Bool
  | none => default
  | some value => value.toLower = "true" || value = "1" || value.toLower = "yes"

def listParts (value : List Char) : List (List Char) :=
  ((Text.splitAll ',' value).map Text.trim).filter fun part => !part.isEmpty

def readList : Option String → List String
  | none => []
  | some value => (listParts value.toList).map String.ofList

def unsigned? (cs : List Char) : Option Nat :=
  let digits :=
    match cs with
    | '+' :: rest => rest
    | cs => cs
  if digits.isEmpty || !digits.all Char.isDigit then none
  else some (Decimal.digitsValue digits)

def readInteger (value : Option String) : Option UInt32 := do
  let text ← value
  let number ← unsigned? (Text.trim text.toList)
  pageWord? number

end Rest
end TableQuery
