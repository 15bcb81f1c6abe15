import TableQuery.Proofs.Schema.Filing

/-!
# Histories of schemas

A schema is made by adding tables, and each table by adding columns and descriptions. Its history says
what it holds: the names in the order in which they came first, and under each name what was added
last. Of a table that was replaced nothing is left but its place.
-/

namespace TableQuery

/-!
## What has been done

A history keeps all columns and descriptions that were ever given to a table, also those that have
been replaced.
-/

namespace Table

inductive Call where
  | addColumn (column : Column)
  | describe (doc : String)

/-- The name that a table was made with, and what has been done to it since. -/
structure History where
  name : String
  calls : List Call

def perform (table : Table) : Call → Table
  | .addColumn column => table.addColumn column
  | .describe doc => { table with doc := some doc }

namespace History

def table (history : History) : Table :=
  history.calls.foldl perform { name := history.name }

def columns (history : History) : List Column :=
  history.calls.filterMap fun
    | .addColumn column => some column
    | .describe _ => none

def docs (history : History) : List String :=
  history.calls.filterMap fun
    | .addColumn _ => none
    | .describe doc => some doc

end History

/-- A table is what its history says, column by column. -/
structure Follows (table : Table) (history : History) : Prop where
  name : table.name = history.name
  doc : table.doc = history.docs.getLast?
  filed : ∀ entry ∈ table.columns.entries, entry.1 = entry.2.name
  unique : table.columns.keys.Nodup
  order : table.columns.keys = (history.columns.map Column.name).eraseDups
  column : ∀ name,
    table.columns.get? name = history.columns.reverse.find? fun column => column.name = name
  field : ∀ field, table.hasField field = true ↔
    history.columns = [] ∨ ∃ column ∈ history.columns, column.name = field

end Table

def Schema.ofHistories (histories : List Table.History) : Schema :=
  .ofTables (histories.map Table.History.table)

/-!
## What comes of it

Descriptions leave the columns as they are, and columns leave the description as it is.
-/

namespace Table

theorem foldl_perform (table : Table) (name : String) (calls : List Call) :
    calls.foldl perform table =
      { name := table.name
        columns := (History.mk name calls).columns.foldl
          (fun map column => map.insert column.name column) table.columns
        doc := (History.mk name calls).docs.getLast?.or table.doc } := by
  induction calls generalizing table with
  | nil => rfl
  | cons call calls ih =>
      rw [List.foldl_cons, ih]
      cases call with
      | addColumn column => rfl
      | describe doc =>
          have hdocs : (History.mk name (.describe doc :: calls)).docs =
              doc :: (History.mk name calls).docs := rfl
          rw [hdocs, List.getLast?_cons]
          cases (History.mk name calls).docs.getLast? <;> rfl

theorem History.table_eq (history : History) :
    history.table =
      { name := history.name
        columns := .ofList (history.columns.map fun column => (column.name, column))
        doc := history.docs.getLast? } := by
  rw [table, foldl_perform _ history.name, OrderedMap.ofList, List.foldl_map, Option.or_none]

theorem History.follows (history : History) : history.table.Follows history := by
  have hkeys : history.table.columns.keys = (history.columns.map Column.name).eraseDups := by
    rw [history.table_eq, OrderedMap.keys_ofList, List.map_map]
    rfl
  refine ⟨?_, ?_, ?_, history.table.columns.nodup, hkeys, ?_, ?_⟩
  · rw [history.table_eq]
  · rw [history.table_eq]
  · rw [history.table_eq]
    intro entry hentry
    rcases List.mem_map.mp (OrderedMap.mem_of_mem_entries_ofList hentry) with ⟨column, _, rfl⟩
    rfl
  · intro name
    rw [history.table_eq, OrderedMap.get?_ofList_map, Option.map_id']
  · intro field
    rw [hasField_iff, hkeys, List.mem_eraseDups, List.mem_map]
    cases history.columns with
    | nil => simp
    | cons column columns =>
        simp [List.eraseDups_cons]

end Table

namespace Schema

theorem tables_ofHistories (histories : List Table.History) :
    (ofHistories histories).tables =
      .ofList (histories.map fun history => (history.name, history.table)) := by
  rw [ofHistories, tables_ofTables, List.map_map]
  congr 1
  refine List.map_congr_left fun history _ => ?_
  rw [Function.comp_apply, history.follows.name]

theorem table?_addTable (schema : Schema) (table : Table) (entity : String) :
    (schema.addTable table).table? entity =
      if entity = table.name then some table else schema.table? entity :=
  OrderedMap.get?_insert schema.tables table.name entity table

/-- After any history a schema has every table under its own name, each name once and in the order in
which the names came first. Under a name it has just the table that was added last, whole as its own
history made it, and so it is with the columns of every table. Another table that is added changes
what is found under its own name and under no other. -/
theorem ofHistories_integrity (histories : List Table.History) :
    (∀ entry ∈ (ofHistories histories).tables.entries, entry.1 = entry.2.name ∧
      ∃ history ∈ histories, entry.2 = history.table) ∧
    (ofHistories histories).tables.keys.Nodup ∧
    (ofHistories histories).tables.keys = (histories.map Table.History.name).eraseDups ∧
    (∀ entity, (ofHistories histories).table? entity =
      (histories.reverse.find? fun history => history.name = entity).map Table.History.table) ∧
    (∀ history : Table.History, history.table.Follows history) ∧
    ∀ (history : Table.History) (entity : String),
      (ofHistories (histories ++ [history])).table? entity =
        if entity = history.name then some history.table
        else (ofHistories histories).table? entity := by
  refine ⟨?_, (ofHistories histories).tables.nodup, ?_, ?_, Table.History.follows, ?_⟩
  · rw [tables_ofHistories]
    intro entry hentry
    rcases List.mem_map.mp (OrderedMap.mem_of_mem_entries_ofList hentry) with ⟨history, hmem, rfl⟩
    exact ⟨history.follows.name.symm, history, hmem, rfl⟩
  · rw [tables_ofHistories, OrderedMap.keys_ofList, List.map_map]
    rfl
  · intro entity
    rw [table?, tables_ofHistories, OrderedMap.get?_ofList_map]
  · intro history entity
    have hadded : ofHistories (histories ++ [history]) =
        (ofHistories histories).addTable history.table := by
      rw [ofHistories, List.map_append, ofTables, List.foldl_append]
      rfl
    rw [hadded, table?_addTable, history.follows.name]

/-- A history in which a column and then its whole table are replaced. -/
def replacedHistories : List Table.History :=
  [⟨"payments", [.addColumn ⟨"id", .bigint, false, none⟩, .addColumn ⟨"sum", .numeric, false, none⟩,
    .describe "settled", .addColumn ⟨"id", .uuid, true, none⟩]⟩,
   ⟨"audit", [.describe "all events"]⟩,
   ⟨"payments", [.addColumn ⟨"status", .text, false, none⟩]⟩]

theorem ofHistories_integrity_replaced :
    (ofHistories replacedHistories).tables.keys = ["payments", "audit"] ∧
      (∃ table, (ofHistories replacedHistories).table? "payments" = some table ∧
        table.columns.keys = ["status"] ∧ table.columns.get? "id" = none ∧ table.doc = none ∧
        table.hasField "id" = false) ∧
      ∃ table, (ofHistories replacedHistories).table? "audit" = some table ∧
        table.hasField "id" = true := by
  rcases ofHistories_integrity replacedHistories with ⟨_, _, hkeys, htable, hfollows, _⟩
  refine ⟨by rw [hkeys]; decide, ⟨_, htable "payments", ?_⟩, ⟨_, htable "audit", ?_⟩⟩
  · have hlast := hfollows ⟨"payments", [.addColumn ⟨"status", .text, false, none⟩]⟩
    refine ⟨hlast.order.trans (by decide), (hlast.column "id").trans (by decide), hlast.doc, ?_⟩
    rw [Bool.eq_false_iff, Ne, hlast.field "id"]
    decide
  · exact ((hfollows ⟨"audit", [.describe "all events"]⟩).field "id").mpr (Or.inl rfl)

end Schema

end TableQuery
