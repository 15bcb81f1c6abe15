import Mathlib.Data.List.Forall2
import TableQuery.Config
import TableQuery.Proofs.Outcome
import TableQuery.Proofs.Schema.Filing

/-!
# Declarations

A configuration declares columns, table by table. It becomes a schema just if every column has a type
that is known by its name, and then the schema is the configuration with types in the place of their
names. Otherwise there is no schema at all, and the first column whose type is not known is to blame.
-/

namespace TableQuery

/-!
## Items that are checked in order

A table checks its columns and a configuration checks its tables, one after the other. Put together,
both are checks of one list of items.
-/

namespace Outcome

variable {ε α β δ : Type}

/-- A computation checks items in order. It succeeds if none of them is bad, and else its fault is that
of the first bad one. -/
inductive Checks (bad : δ → Bool) (fault : δ → ε) (items : List δ) : Except ε α → Prop where
  | ok {a : α} (h : items.find? bad = none) : Checks bad fault items (.ok a)
  | error {item : δ} (h : items.find? bad = some item) : Checks bad fault items (.error (fault item))

namespace Checks

variable {bad : δ → Bool} {fault : δ → ε} {items more : List δ}

theorem succeeds_iff {x : Except ε α} (h : Checks bad fault items x) :
    Succeeds x ↔ ∀ item ∈ items, bad item = false := by
  cases h with
  | ok h =>
      constructor
      · intro _ item hitem
        exact Bool.eq_false_iff.mpr (List.find?_eq_none.mp h item hitem)
      · intro _
        exact succeeds_ok _
  | @error item h =>
      constructor
      · intro hsucceeds
        exact absurd hsucceeds (not_succeeds_error _)
      · intro hgood
        have hbad := List.find?_some h
        rw [hgood item (List.mem_of_find?_eq_some h)] at hbad
        cases hbad

theorem eq_error_iff {x : Except ε α} (h : Checks bad fault items x) {e : ε} :
    x = .error e ↔ ∃ item, items.find? bad = some item ∧ e = fault item := by
  cases h with
  | ok h =>
      constructor
      · intro hx
        cases hx
      · rintro ⟨item, hitem, _⟩
        rw [h] at hitem
        cases hitem
  | @error item h =>
      constructor
      · intro hx
        cases hx
        exact ⟨item, h, rfl⟩
      · rintro ⟨item', hitem', rfl⟩
        rw [h] at hitem'
        cases hitem'
        rfl

theorem bind {x : Except ε α} {f : α → Except ε β} (hx : Checks bad fault items x)
    (hf : ∀ a, Checks bad fault more (f a)) : Checks bad fault (items ++ more) (x >>= f) := by
  cases hx with
  | @ok a h =>
      change Checks bad fault (items ++ more) (f a)
      have hfind : (items ++ more).find? bad = more.find? bad := by
        rw [List.find?_append, h, Option.none_or]
      have hrest := hf a
      generalize f a = y at hrest ⊢
      cases hrest with
      | ok h' => exact .ok (hfind.trans h')
      | error h' => exact .error (hfind.trans h')
  | error h =>
      refine .error ?_
      rw [List.find?_append, h, Option.some_or]

theorem map {x : Except ε α} (hx : Checks bad fault items x) (f : α → β) :
    Checks bad fault items (f <$> x) := by
  cases hx with
  | ok h => exact .ok h
  | error h => exact .error h

theorem mapM {f : α → Except ε β} {itemsOf : α → List δ}
    (hf : ∀ a, Checks bad fault (itemsOf a) (f a)) (xs : List α) :
    Checks bad fault (xs.flatMap itemsOf) (xs.mapM f) := by
  induction xs with
  | nil => exact .ok rfl
  | cons x xs ih =>
      rw [List.flatMap_cons, List.mapM_cons]
      exact (hf x).bind fun y => ih.map (y :: ·)

end Checks

theorem forall₂_of_mapM {f : α → Except ε β} {R : α → β → Prop}
    (h : ∀ x y, f x = .ok y → R x y) {xs : List α} {ys : List β} (hmap : xs.mapM f = .ok ys) :
    List.Forall₂ R xs ys := by
  induction xs generalizing ys with
  | nil =>
      cases hmap
      exact .nil
  | cons x xs ih =>
      rw [List.mapM_cons] at hmap
      rcases bind_eq_ok.mp hmap with ⟨y, hy, hrest⟩
      rcases bind_eq_ok.mp hrest with ⟨more, hmore, hcons⟩
      cases hcons
      exact .cons (h x y hy) (ih hmore)

end Outcome

open Outcome

/-- Items that are made from the entries of a map and filed under the same keys are all kept in their
order, because no two entries have one key. -/
theorem OrderedMap.forall₂_entries_of_mapM {ε γ δ : Type} {name : γ → String}
    {R : String × δ → String × γ → Prop} {map : OrderedMap String δ}
    {make : String × δ → Except ε γ}
    (hmake : ∀ entry item, make entry = .ok item → name item = entry.1 ∧ R entry (name item, item))
    {items : List γ} (hitems : map.entries.mapM make = .ok items) :
    List.Forall₂ R map.entries (ofList (items.map fun item => (name item, item))).entries := by
  have hnames : items.map name = map.entries.map Prod.fst :=
    map_view_of_mapM (fun entry item h => (hmake entry item h).1) hitems
  have hentries : (ofList (items.map fun item => (name item, item))).entries =
      items.map fun item => (name item, item) := by
    apply entries_ofList_iff.mpr
    rw [List.map_map]
    exact hnames ▸ map.nodup
  rw [hentries, List.forall₂_map_right_iff]
  exact forall₂_of_mapM (fun entry item h => (hmake entry item h).2) hitems

/-!
## Names of types

A type goes by names in small letters. A text names a type if, without the blanks at its ends and in
small letters, it is one of these names.
-/

namespace FieldType

def names : FieldType → List String
  | smallint => ["smallint", "int2"]
  | integer => ["integer", "int", "int4"]
  | bigint => ["bigint", "int8"]
  | real => ["real", "float4"]
  | doublePrecision => ["double precision", "double", "float8"]
  | numeric => ["numeric", "decimal"]
  | boolean => ["boolean", "bool"]
  | text => ["text", "varchar", "string"]
  | timestamptz => ["timestamptz", "timestamp"]
  | date => ["date"]
  | time => ["time"]
  | uuid => ["uuid"]
  | jsonb => ["jsonb", "json"]

def IsNamed (type : FieldType) (text : String) : Prop :=
  (Text.trimmed text).toLower ∈ type.names

theorem ofName?_eq_some_iff {name : String} {type : FieldType} :
    ofName? name = some type ↔ name ∈ type.names := by
  constructor
  · intro h
    unfold ofName? at h
    split at h
    case h_27 => cases h
    all_goals
      cases h
      decide
  · intro h
    cases type
    all_goals
      simp only [names, List.mem_cons, List.not_mem_nil, or_false] at h
      rcases h with rfl | rfl | rfl
    all_goals rfl

theorem ofText?_eq_some_iff {text : String} {type : FieldType} :
    ofText? text = some type ↔ type.IsNamed text :=
  ofName?_eq_some_iff

end FieldType

/-!
## What is declared

The declarations of a configuration are the columns of all its tables, table by table, each with the
name that is given for its type. They say what a schema has to be.
-/

structure Declaration where
  table : String
  column : String
  type : String
deriving DecidableEq, Repr

def Declaration.Known (declaration : Declaration) : Prop :=
  ∃ type : FieldType, type.IsNamed declaration.type

theorem Declaration.isSome_ofText?_iff (declaration : Declaration) :
    (FieldType.ofText? declaration.type).isSome = true ↔ declaration.Known := by
  rw [Option.isSome_iff_exists]
  exact exists_congr fun _ => FieldType.ofText?_eq_some_iff

instance (declaration : Declaration) : Decidable declaration.Known :=
  decidable_of_iff _ declaration.isSome_ofText?_iff

namespace Config

def tableDeclarations (entry : String × TableConfig) : List Declaration :=
  entry.2.columns.entries.map fun column => ⟨entry.1, column.1, column.2⟩

def declarations (config : Config) : List Declaration :=
  config.tables.entries.flatMap tableDeclarations

def firstUnknown? (config : Config) : Option Declaration :=
  config.declarations.find? fun declaration => !decide declaration.Known

end Config

structure Column.IsDeclared (declared : String × String) (entry : String × Column) : Prop where
  key : entry.1 = declared.1
  name : entry.2.name = declared.1
  type : entry.2.type.IsNamed declared.2
  nullable : entry.2.nullable = false
  doc : entry.2.doc = none

/-- A table of a schema is the one that is declared, with the declared columns in their order. -/
structure Table.IsDeclared (declared : String × TableConfig) (entry : String × Table) : Prop where
  key : entry.1 = declared.1
  name : entry.2.name = declared.1
  doc : entry.2.doc = declared.2.doc
  columns : List.Forall₂ Column.IsDeclared declared.2.columns.entries entry.2.columns.entries

/-!
## What is built

The schema is built by checking every declaration. Nothing is lost on the way, because no two tables
of a configuration and no two columns of a table have one name.
-/

namespace Config

def blame (declaration : Declaration) : ConfigFault :=
  .unknownType declaration.table declaration.column declaration.type

theorem message_blame (declaration : Declaration) :
    (blame declaration).message = "Invalid .config/quarry.styx: " ++ declaration.table ++ "." ++
      declaration.column ++ ": unknown column type '" ++ declaration.type ++ "'" := by
  have hmessage : (blame declaration).message = "Invalid " ++ locationText ++ ": " ++
      declaration.table ++ "." ++ declaration.column ++ ": " ++
      ("unknown column type '" ++ declaration.type ++ "'") := rfl
  have hlocation : "Invalid " ++ locationText ++ ": " = "Invalid .config/quarry.styx: " := by
    decide +kernel
  have htype : ": unknown column type '" = ": " ++ "unknown column type '" := by
    decide +kernel
  rw [hmessage, hlocation, htype]
  simp only [String.append_assoc]

abbrev ChecksTypes {α : Type} (declarations : List Declaration) (x : Except ConfigFault α) : Prop :=
  Checks (fun declaration => !decide declaration.Known) blame declarations x

theorem checks_column (table : String) (entry : String × String) :
    ChecksTypes [⟨table, entry.1, entry.2⟩] (column table entry) := by
  have hknown := (Declaration.mk table entry.1 entry.2).isSome_ofText?_iff
  unfold column
  split
  · next type htype =>
      rw [htype] at hknown
      exact .ok (List.find?_eq_none.mpr (by simpa using hknown.mp rfl))
  · next hnone =>
      have hunknown : ¬ (Declaration.mk table entry.1 entry.2).Known := by
        intro h
        rw [hnone] at hknown
        cases hknown.mpr h
      exact .error (List.find?_cons_of_pos (by simpa using hunknown))

theorem checks_table (entry : String × TableConfig) :
    ChecksTypes (tableDeclarations entry) (table entry) := by
  have hcolumns := Checks.mapM (checks_column entry.1) entry.2.columns.entries
  rw [← List.map_eq_flatMap] at hcolumns
  exact hcolumns.map _

theorem checks_schema (config : Config) : ChecksTypes config.declarations config.schema :=
  (Checks.mapM checks_table config.tables.entries).map _

theorem isDeclared_column {table : String} {entry : String × String} {found : Column}
    (h : column table entry = .ok found) : Column.IsDeclared entry (found.name, found) := by
  unfold column at h
  split at h
  · next type htype =>
      cases h
      exact ⟨rfl, rfl, FieldType.ofText?_eq_some_iff.mp htype, rfl, rfl⟩
  · cases h

theorem isDeclared_table {entry : String × TableConfig} {found : Table}
    (h : table entry = .ok found) : Table.IsDeclared entry (found.name, found) := by
  rcases bind_eq_ok.mp h with ⟨columns, hcolumns, hfound⟩
  cases hfound
  rw [Table.ofColumns_eq]
  exact ⟨rfl, rfl, rfl, OrderedMap.forall₂_entries_of_mapM
    (fun _ _ hcolumn => ⟨(isDeclared_column hcolumn).name, isDeclared_column hcolumn⟩) hcolumns⟩

theorem isDeclared_schema {config : Config} {schema : Schema} (h : config.schema = .ok schema) :
    List.Forall₂ Table.IsDeclared config.tables.entries schema.tables.entries := by
  rcases bind_eq_ok.mp h with ⟨tables, htables, hschema⟩
  cases hschema
  rw [Schema.tables_ofTables]
  exact OrderedMap.forall₂_entries_of_mapM
    (fun _ _ htable => ⟨(isDeclared_table htable).name, isDeclared_table htable⟩) htables

/-- A configuration has a schema just if all its types are known. The schema has the tables of the
configuration in their order, each with its columns in their order and nothing else. Without a schema
the fault is about the first column, in the order of the tables and then of the columns, whose type is
not known, and it says the type as it is written. -/
theorem schema_faithful (config : Config) :
    ((∃ schema, config.schema = .ok schema) ↔
      ∀ declaration ∈ config.declarations, declaration.Known) ∧
    (∀ schema, config.schema = .ok schema →
      List.Forall₂ Table.IsDeclared config.tables.entries schema.tables.entries) ∧
    ∀ fault, config.schema = .error fault ↔
      ∃ declaration, config.firstUnknown? = some declaration ∧
        fault = .unknownType declaration.table declaration.column declaration.type ∧
        fault.message = "Invalid .config/quarry.styx: " ++ declaration.table ++ "." ++
          declaration.column ++ ": unknown column type '" ++ declaration.type ++ "'" := by
  refine ⟨?_, fun schema => isDeclared_schema, fun fault => ?_⟩
  · refine config.checks_schema.succeeds_iff.trans (forall₂_congr fun declaration _ => ?_)
    simp
  · refine config.checks_schema.eq_error_iff.trans (exists_congr fun declaration => ?_)
    refine and_congr_right fun _ => ⟨?_, And.left⟩
    rintro rfl
    exact ⟨rfl, message_blame declaration⟩

def knownTables : List (String × TableConfig) :=
  [("ledger", { columns := .ofList [("id", " BigInt "), ("total", "NUMERIC"), ("note", "text")]
                doc := some "all bookings" }),
   ("log", {})]

def unknownTable : String × TableConfig :=
  ("rates", { columns := .ofList [("day", "date"), ("rate", " Money"), ("note", "memo")] })

theorem schema_faithful_ledger :
    (∃ schema, (Config.mk (.ofList knownTables)).schema = .ok schema ∧
      List.Forall₂ Table.IsDeclared knownTables schema.tables.entries) ∧
    (Config.mk (.ofList (knownTables ++ [unknownTable]))).schema =
      .error (.unknownType "rates" "rate" " Money") := by
  constructor
  · rcases schema_faithful ⟨.ofList knownTables⟩ with ⟨hsucceeds, hdeclared, _⟩
    rcases hsucceeds.mpr (by decide +kernel) with ⟨schema, hschema⟩
    exact ⟨schema, hschema, hdeclared schema hschema⟩
  · rcases schema_faithful ⟨.ofList (knownTables ++ [unknownTable])⟩ with ⟨_, _, hfault⟩
    refine (hfault _).mpr ⟨⟨"rates", "rate", " Money"⟩, by decide +kernel, rfl, ?_⟩
    exact message_blame ⟨"rates", "rate", " Money"⟩

end Config

end TableQuery
