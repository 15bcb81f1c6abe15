import TableQuery.Proofs.OrderedMap
import TableQuery.Schema

/-!
# Filing

Tables and columns that are added one by one stand under their own names. A schema could also hold a
table under another name, so this is a fact about how schemas are built, and not about all schemas.
-/

namespace TableQuery

/-!
## What is built
-/

inductive Table.Built : Table → Prop where
  | new (name : String) : Built { name }
  | addColumn {table : Table} (column : Column) (h : table.Built) : Built (table.addColumn column)
  | describe {table : Table} (doc : String) (h : table.Built) : Built { table with doc := some doc }

/-- A schema that is made by adding tables. -/
inductive Schema.Built : Schema → Prop where
  | new : Built {}
  | addTable {schema : Schema} {table : Table} (h : schema.Built) (htable : table.Built) :
    Built (schema.addTable table)

/-!
## Where it stands
-/

def Table.Filed (table : Table) : Prop :=
  ∀ name column, table.columns.get? name = some column → column.name = name

def Schema.Filed (schema : Schema) : Prop :=
  ∀ entity table, schema.table? entity = some table → table.name = entity ∧ table.Filed

theorem Table.Filed.addColumn {table : Table} (h : table.Filed) (column : Column) :
    (table.addColumn column).Filed := by
  intro name found hfound
  rw [Table.addColumn, OrderedMap.get?_insert] at hfound
  split at hfound
  · rename_i hname
    cases hfound
    exact hname.symm
  · exact h name found hfound

theorem Table.Built.filed {table : Table} (h : table.Built) : table.Filed := by
  induction h with
  | new name =>
      intro other column hfound
      cases hfound
  | addColumn column _ ih => exact ih.addColumn column
  | describe doc _ ih => exact ih

theorem Schema.Filed.addTable {schema : Schema} (h : schema.Filed) {table : Table}
    (htable : table.Filed) : (schema.addTable table).Filed := by
  intro entity found hfound
  rw [Schema.table?, Schema.addTable, Schema.put, OrderedMap.get?_insert] at hfound
  split at hfound
  · rename_i hentity
    cases hfound
    exact ⟨hentity.symm, htable⟩
  · exact h entity found hfound

theorem Schema.Built.filed {schema : Schema} (h : schema.Built) : schema.Filed := by
  induction h with
  | new =>
      intro entity table hfound
      cases hfound
  | addTable _ htable ih => exact ih.addTable htable.filed

/-!
## Fields

A table takes a field just if it declares the field or declares no field at all.
-/

theorem Table.hasField_iff (table : Table) (field : String) :
    table.hasField field = true ↔ (table.columns.keys ≠ [] → field ∈ table.columns.keys) := by
  have hempty : table.columns.isEmpty = true ↔ table.columns.keys = [] := by
    rw [OrderedMap.isEmpty, OrderedMap.keys, List.isEmpty_iff, List.map_eq_nil_iff]
  rw [hasField, declaresFields, fieldType?, Option.isSome_map, Bool.or_eq_true, Bool.not_not,
    OrderedMap.isSome_get?, hempty, Ne, ← Classical.or_iff_not_imp_left]

/-!
## Lists of columns and tables
-/

theorem Table.foldl_addColumn (table : Table) (columns : List Column) :
    columns.foldl addColumn table =
      { table with
        columns := columns.foldl (fun map column => map.insert column.name column) table.columns } := by
  induction columns generalizing table with
  | nil => rfl
  | cons column columns ih => exact ih (table.addColumn column)

theorem Table.ofColumns_eq (name : String) (columns : List Column) (doc : Option String) :
    ofColumns name columns doc =
      { name, columns := .ofList (columns.map fun column => (column.name, column)), doc } := by
  rw [ofColumns, foldl_addColumn, OrderedMap.ofList, List.foldl_map]

theorem Schema.tables_foldl_addTable (schema : Schema) (tables : List Table) :
    (tables.foldl addTable schema).tables =
      tables.foldl (fun map table => map.insert table.name table) schema.tables := by
  induction tables generalizing schema with
  | nil => rfl
  | cons table tables ih => exact ih (schema.addTable table)

theorem Schema.tables_ofTables (tables : List Table) :
    (ofTables tables).tables = .ofList (tables.map fun table => (table.name, table)) := by
  rw [ofTables, tables_foldl_addTable, OrderedMap.ofList, List.foldl_map]

end TableQuery
