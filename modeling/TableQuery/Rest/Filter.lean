import TableQuery.Query.Operator

/-!
# Filters in parameters

The value of a filter says with its first characters how the field is compared. The first of these
rules that fits is taken: `a..b` is a range, then come the spelled operators, then a pattern is a
value that holds a wildcard, and anything else is equality. A caret in front of all of them compares
without regard to case.
-/

namespace TableQuery
namespace Rest

structure Filter where
  field : String
  operator : Operator
  values : List String
  ignoreCase : Bool
deriving DecidableEq, Repr

def splitRange? : List Char → Option (List Char × List Char)
  | [] => none
  | '.' :: '.' :: rest => some ([], rest)
  | c :: rest => (splitRange? rest).map fun bounds => (c :: bounds.1, bounds.2)

def hasWildcard (cs : List Char) : Bool :=
  cs.any fun c => c = '%' || c = '_'

def comparison (cs : List Char) : Operator × List (List Char) :=
  match splitRange? cs with
  | some (low, high) => (.between, [low, high])
  | none =>
    match cs with
    | '>' :: '=' :: operand => (.gte, [operand])
    | '<' :: '=' :: operand => (.lte, [operand])
    | '!' :: '=' :: operand => (.neq, [operand])
    | '>' :: operand => (.gt, [operand])
    | '<' :: operand => (.lt, [operand])
    | '=' :: operand => (.eq, [operand])
    | operand => if hasWildcard operand then (.like, [operand]) else (.eq, [operand])

namespace Filter

def ofChars (field : String) (cs : List Char) : Filter :=
  let (ignoreCase, rest) :=
    match cs with
    | '^' :: rest => (true, rest)
    | cs => (false, cs)
  let (operator, operands) := comparison rest
  { field, operator, values := operands.map String.ofList, ignoreCase }

def read (field : String) (value : String) : Filter :=
  ofChars field value.toList

end Filter

end Rest
end TableQuery
