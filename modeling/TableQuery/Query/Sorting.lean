/-!
# Sorting

The order of rows: a list of fields, each with a direction.
-/

namespace TableQuery

inductive Direction where
  | ascending
  | descending
deriving DecidableEq, Repr

namespace Direction

def keyword : Direction → String
  | ascending => "ASC"
  | descending => "DESC"

def ofText? (text : String) : Option Direction :=
  if text.toLower = "asc" then some ascending
  else if text.toLower = "desc" then some descending
  else none

end Direction

structure SortKey where
  field : String
  direction : Direction
deriving DecidableEq, Repr

end TableQuery
