import TableQuery.Binary64.Shortest
import TableQuery.Query.Scalar

/-!
# Cells

The values in the rows of a result.
-/

namespace TableQuery

inductive Cell where
  | null
  | boolean (value : Bool)
  | int32 (value : Int32)
  | int64 (value : Int64)
  | float (value : Binary64)
  | decimal (value : Decimal)
  | string (content : String)
deriving DecidableEq, Repr

namespace Cell

def kind : Cell → String
  | null => "null"
  | boolean _ => "bool"
  | int32 _ => "i32"
  | int64 _ => "i64"
  | float _ => "f64"
  | decimal _ => "decimal"
  | string _ => "string"

def integerText (value : Int) : String :=
  String.ofList (if value < 0 then '-' :: Nat.toDigits 10 value.natAbs
    else Nat.toDigits 10 value.natAbs)

def text : Cell → String
  | null => "NULL"
  | boolean value => booleanText value
  | int32 value => integerText value.toInt
  | int64 value => integerText value.toInt
  | float value => value.text
  | decimal value => value.text
  | string content => content

def isNull : Cell → Bool
  | null => true
  | _ => false

def boolean? : Cell → Option Bool
  | boolean value => some value
  | _ => none

def int64? : Cell → Option Int64
  | int32 value => some value.toInt64
  | int64 value => some value
  | _ => none

def int32? (cell : Cell) : Option Int32 :=
  match cell.int64? with
  | some value => if value.toInt32.toInt64 = value then some value.toInt32 else none
  | none => none

def float? : Cell → Option Binary64
  | float value => some value
  | _ => none

/-- The exact number in a cell. Whole numbers are decimals, floating-point numbers are not. -/
def decimal? : Cell → Option Decimal
  | int32 value => some (.ofInt64 value.toInt64)
  | int64 value => some (.ofInt64 value)
  | decimal value => some value
  | _ => none

def string? : Cell → Option String
  | string content => some content
  | _ => none

/-- Whether two cells of one kind have the same value. Numbers are compared by value, so a decimal
agrees with itself at another scale. -/
def agrees : Cell → Cell → Bool
  | float x, float y => x.agrees y
  | decimal x, decimal y => x.normalize = y.normalize
  | x, y => x = y

def ofScalar : Scalar → Cell
  | .string content => string content
  | .number value => decimal value
  | .boolean value => boolean value

end Cell

class ToCell (α : Type) where
  toCell : α → Cell

instance : ToCell Cell := ⟨id⟩

instance : ToCell Bool := ⟨Cell.boolean⟩

instance : ToCell Int32 := ⟨Cell.int32⟩

instance : ToCell Int64 := ⟨Cell.int64⟩

instance : ToCell Binary64 := ⟨Cell.float⟩

instance : ToCell Decimal := ⟨Cell.decimal⟩

instance : ToCell String := ⟨Cell.string⟩

instance : ToCell Scalar := ⟨Cell.ofScalar⟩

instance {α : Type} [ToCell α] : ToCell (Option α) where
  toCell
    | some value => ToCell.toCell value
    | none => .null

def Cell.ofInt64? (value : Option Int64) : Cell :=
  ToCell.toCell value

end TableQuery
