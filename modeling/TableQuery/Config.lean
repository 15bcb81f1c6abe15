import TableQuery.Config.Markup
import TableQuery.OrderedMap
import TableQuery.Schema

/-!
# Configuration

A configuration lists tables with their columns and the names of the columns' types. It becomes a
schema if all names of types are known.
-/

namespace TableQuery

structure TableConfig where
  columns : OrderedMap String String := .empty
  doc : Option String := none
deriving Repr

structure Config where
  tables : OrderedMap String TableConfig := .empty
deriving Repr

inductive ConfigFault where
  | notFound
  | unreadable
  | malformed
  | unknownType (table : String) (column : String) (type : String)
deriving DecidableEq, Repr

namespace Config

def location : List String := [".config", "quarry.styx"]

def locationText : String := Text.join "/" location

end Config

def ConfigFault.message : ConfigFault → String
  | notFound => "No " ++ Config.locationText ++ " found in current directory or any parent"
  | unreadable => "Failed to read " ++ Config.locationText
  | malformed => "Failed to parse " ++ Config.locationText
  | unknownType table column type =>
    "Invalid " ++ Config.locationText ++ ": " ++ table ++ "." ++ column ++ ": " ++
      FieldType.unknownMessage type

/-!
## Reading markup

A configuration can be written in markup. Keys that it does not know say nothing.
-/

namespace Markup

def Node.entries? : Node → Option Entries
  | object entries => some entries
  | scalar _ => none

def Node.scalar? : Node → Option String
  | scalar content => some content
  | object _ => none

def optional? {α : Type} (entries : Entries) (key : String) (understand : Node → Option α) :
    Option (Option α) :=
  match entries.lookup key with
  | some node => (understand node).map some
  | none => some none

def each? {α : Type} (understand : Node → Option α) (entries : Entries) :
    Option (OrderedMap String α) := do
  let pairs ← entries.mapM fun entry => (understand entry.2).map fun value => (entry.1, value)
  return .ofList pairs

end Markup

open Markup (Node Entries)

def TableConfig.ofNode? (node : Node) : Option TableConfig := do
  let entries ← node.entries?
  let columns ← Markup.optional? entries "columns" fun columns =>
    columns.entries?.bind (Markup.each? Node.scalar?)
  let doc ← Markup.optional? entries "doc" Node.scalar?
  return { columns := columns.getD .empty, doc }

namespace Config

def ofEntries? (entries : Entries) : Option Config := do
  let tables ← Markup.optional? entries "tables" fun tables =>
    tables.entries?.bind (Markup.each? TableConfig.ofNode?)
  return { tables := tables.getD .empty }

def ofText? (text : String) : Option Config :=
  (Markup.ofText? text).bind ofEntries?

/-!
## The schema

The types of columns are given by name. The first name that no type has is the fault.
-/

def column (table : String) (entry : String × String) : Except ConfigFault Column :=
  match FieldType.ofText? entry.2 with
  | some type => .ok { name := entry.1, type }
  | none => .error (.unknownType table entry.1 entry.2)

def table (entry : String × TableConfig) : Except ConfigFault Table := do
  let columns ← entry.2.columns.entries.mapM (column entry.1)
  return .ofColumns entry.1 columns entry.2.doc

/-- The schema that a configuration declares. The first type name that is not known is the fault. -/
def schema (config : Config) : Except ConfigFault Schema := do
  let tables ← config.tables.entries.mapM table
  return .ofTables tables

end Config

end TableQuery
