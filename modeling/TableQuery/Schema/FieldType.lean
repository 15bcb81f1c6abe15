import TableQuery.Text.Blank

/-!
# Field types

The types that a column can have, and the names that they go by.
-/

namespace TableQuery

inductive FieldType where
  | smallint
  | integer
  | bigint
  | real
  | doublePrecision
  | numeric
  | boolean
  | text
  | timestamptz
  | date
  | time
  | uuid
  | jsonb
deriving DecidableEq, Repr

namespace FieldType

def sql : FieldType → String
  | smallint => "SMALLINT"
  | integer => "INTEGER"
  | bigint => "BIGINT"
  | real => "REAL"
  | doublePrecision => "DOUBLE PRECISION"
  | numeric => "NUMERIC"
  | boolean => "BOOLEAN"
  | text => "TEXT"
  | timestamptz => "TIMESTAMPTZ"
  | date => "DATE"
  | time => "TIME"
  | uuid => "UUID"
  | jsonb => "JSONB"

def ofName? : String → Option FieldType
  | "smallint" | "int2" => some smallint
  | "integer" | "int" | "int4" => some integer
  | "bigint" | "int8" => some bigint
  | "real" | "float4" => some real
  | "double precision" | "double" | "float8" => some doublePrecision
  | "numeric" | "decimal" => some numeric
  | "boolean" | "bool" => some boolean
  | "text" | "varchar" | "string" => some text
  | "timestamptz" | "timestamp" => some timestamptz
  | "date" => some date
  | "time" => some time
  | "uuid" => some uuid
  | "jsonb" | "json" => some jsonb
  | _ => none

def ofText? (text : String) : Option FieldType :=
  ofName? (Text.trimmed text).toLower

def unknownMessage (text : String) : String :=
  "unknown column type '" ++ text ++ "'"

end FieldType

end TableQuery
