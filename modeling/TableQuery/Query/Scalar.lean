import TableQuery.Decimal

/-!
# Scalars

The operands of a filter once their kind is settled.
-/

namespace TableQuery

inductive Scalar where
  | string (content : String)
  | number (value : Decimal)
  | boolean (value : Bool)
deriving DecidableEq, Repr

def booleanText (value : Bool) : String :=
  if value then "true" else "false"

def Scalar.text : Scalar → String
  | string content => content
  | number value => value.text
  | boolean value => booleanText value

end TableQuery
