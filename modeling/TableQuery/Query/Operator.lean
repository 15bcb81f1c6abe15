/-!
# Comparison operators

The operators that a filter compares a field with.
-/

namespace TableQuery

/-- A comparison of a field with one operand, or with two for a range. -/
inductive Operator where
  | eq
  | neq
  | gt
  | gte
  | lt
  | lte
  | between
  | like
deriving DecidableEq, Repr

namespace Operator

def all : List Operator :=
  [eq, neq, gt, gte, lt, lte, between, like]

def name : Operator → String
  | eq => "EQ"
  | neq => "NEQ"
  | gt => "GT"
  | gte => "GTE"
  | lt => "LT"
  | lte => "LTE"
  | between => "BETWEEN"
  | like => "LIKE"

def sql : Operator → String
  | eq => "="
  | neq => "!="
  | gt => ">"
  | gte => ">="
  | lt => "<"
  | lte => "<="
  | between => "BETWEEN"
  | like => "LIKE"

def ofName? (name : String) : Option Operator :=
  all.find? fun operator => operator.name = name

end Operator

end TableQuery
