import TableQuery.Decimal
import TableQuery.Text.Span

/-!
# Values

The values of the declarative query language. Every value knows the bytes it was read from. The
fields of an object are in the order of their first appearance, and no two have one name.
-/

namespace TableQuery
namespace Declarative

structure Key where
  name : String
  span : Span
deriving DecidableEq, Repr, Inhabited

inductive Value where
  | string (span : Span) (content : String)
  | number (span : Span) (value : Decimal)
  | boolean (span : Span) (value : Bool)
  | identifier (span : Span) (name : String)
  | list (span : Span) (items : List Value)
  | object (span : Span) (fields : List (Key × Value))
deriving Inhabited

inductive Shape where
  | string
  | number
  | boolean
  | identifier
  | list
  | object
deriving DecidableEq, Repr

def Shape.name : Shape → String
  | string => "string"
  | number => "number"
  | boolean => "boolean"
  | identifier => "identifier"
  | list => "list"
  | object => "object"

namespace Value

def span : Value → Span
  | string span _ => span
  | number span _ => span
  | boolean span _ => span
  | identifier span _ => span
  | list span _ => span
  | object span _ => span

def shape : Value → Shape
  | string _ _ => .string
  | number _ _ => .number
  | boolean _ _ => .boolean
  | identifier _ _ => .identifier
  | list _ _ => .list
  | object _ _ => .object

/-- The value of a bare word: a truth value in letters of any case, or else an identifier. -/
def ofWord (span : Span) (name : String) : Value :=
  if name.toLower = "true" then boolean span true
  else if name.toLower = "false" then boolean span false
  else identifier span name

end Value

abbrev Fields := List (Key × Value)

namespace Fields

/-- Sets a field. A name that is already there keeps its place and its first span. -/
def insert (key : Key) (value : Value) : Fields → Fields
  | [] => [(key, value)]
  | (k, v) :: rest =>
    if k.name = key.name then (k, value) :: rest else (k, v) :: insert key value rest

def get? (fields : Fields) (name : String) : Option Value :=
  (fields.find? fun field => field.1.name = name).map Prod.snd

end Fields

end Declarative
end TableQuery
