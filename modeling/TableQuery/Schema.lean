import TableQuery.Schema.Table

/-!
# Schemas

A schema holds tables under the names of entities. Whoever compiles a query asks a catalog for the
table of an entity: once while the query is planned, once while its columns are checked, and once
before it is run. A catalog may answer these questions differently, because a table can disappear in
between.
-/

namespace TableQuery

structure Schema where
  tables : OrderedMap String Table := .empty
deriving Repr

namespace Schema

def put (schema : Schema) (entity : String) (table : Table) : Schema :=
  ⟨schema.tables.insert entity table⟩

def addTable (schema : Schema) (table : Table) : Schema :=
  schema.put table.name table

def ofTables (tables : List Table) : Schema :=
  tables.foldl addTable {}

def table? (schema : Schema) (entity : String) : Option Table :=
  schema.tables.get? entity

/-- Puts a second entry for the table of an entity under another name, if there is such a table. -/
def addAlias (schema : Schema) (entity : String) (table : String) : Schema :=
  match schema.table? table with
  | some found => schema.put entity found
  | none => schema

end Schema

inductive Stage where
  | planning
  | checking
  | running
deriving DecidableEq, Repr

def Stage.index : Stage → Nat
  | planning => 0
  | checking => 1
  | running => 2

structure Catalog where
  table? : Stage → String → Option Handle

namespace Catalog

def ofSchema (schema : Schema) : Catalog :=
  ⟨fun _ entity => (schema.table? entity).map Table.handle⟩

/-- A catalog that answers the first questions only. -/
def limited (budget : Nat) (catalog : Catalog) : Catalog :=
  ⟨fun stage entity => if stage.index < budget then catalog.table? stage entity else none⟩

end Catalog

end TableQuery
