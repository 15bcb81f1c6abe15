import TableQuery.OrderedMap
import TableQuery.Schema.FieldType

/-!
# Tables

A table has a name and columns. A table that declares no column at all takes any field name.
-/

namespace TableQuery

structure Column where
  name : String
  type : FieldType
  nullable : Bool := false
  doc : Option String := none
deriving DecidableEq, Repr

structure Table where
  name : String
  columns : OrderedMap String Column := .empty
  doc : Option String := none
deriving Repr

namespace Table

def addColumn (table : Table) (column : Column) : Table :=
  { table with columns := table.columns.insert column.name column }

def ofColumns (name : String) (columns : List Column) (doc : Option String) : Table :=
  columns.foldl addColumn { name, doc }

def fieldType? (table : Table) (field : String) : Option FieldType :=
  (table.columns.get? field).map Column.type

def declaresFields (table : Table) : Bool :=
  !table.columns.isEmpty

/-- Whether queries may name a field. -/
def hasField (table : Table) (field : String) : Bool :=
  !table.declaresFields || (table.fieldType? field).isSome

end Table

/-!
## Handles

Whoever compiles a query or runs a statement sees a table through a handle. A handle need not come
from a table here, and it may say in its own way which fields it has.
-/

structure Handle where
  name : String
  fieldType? : String → Option FieldType
  declaresFields : Bool
  hasField : String → Bool := fun field => !declaresFields || (fieldType? field).isSome

def Table.handle (table : Table) : Handle where
  name := table.name
  fieldType? := table.fieldType?
  declaresFields := table.declaresFields

end TableQuery
