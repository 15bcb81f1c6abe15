import TableQuery.Result.Cell

/-!
# Rows

A row is a list of named cells. A name may occur twice, and then its first cell is meant. Reading a
cell as a type fails if the cell is missing or has another kind.
-/

namespace TableQuery

structure Row where
  cells : List (String × Cell) := []
deriving DecidableEq, Repr, Inhabited

inductive RowFault where
  | missingColumn (column : String)
  | typeMismatch (column : String) (expected : String) (actual : String)
deriving DecidableEq, Repr

def RowFault.message : RowFault → String
  | missingColumn column => "column '" ++ column ++ "' is missing from the row"
  | typeMismatch column expected actual =>
    "column '" ++ column ++ "': expected " ++ expected ++ ", got " ++ actual

class OfCell (α : Type) where
  expected : String
  ofCell? : Cell → Option α

instance : OfCell Cell := ⟨"any value", some⟩

instance : OfCell Bool := ⟨"bool", Cell.boolean?⟩

instance : OfCell Int64 := ⟨"integer", Cell.int64?⟩

instance : OfCell Int32 := ⟨"32-bit integer", Cell.int32?⟩

instance : OfCell Binary64 := ⟨"f64", Cell.float?⟩

instance : OfCell Decimal := ⟨"decimal", Cell.decimal?⟩

instance : OfCell String := ⟨"string", Cell.string?⟩

instance {α : Type} [OfCell α] : OfCell (Option α) where
  expected := OfCell.expected α
  ofCell?
    | .null => some none
    | cell => (OfCell.ofCell? cell).map some

namespace Row

def push {α : Type} [ToCell α] (row : Row) (name : String) (value : α) : Row :=
  ⟨row.cells ++ [(name, ToCell.toCell value)]⟩

def get? (row : Row) (name : String) : Option Cell :=
  row.cells.lookup name

def agrees (x y : Row) : Bool :=
  x.cells.isEqv y.cells fun a b => a.1 = b.1 && a.2.agrees b.2

def read (α : Type) [OfCell α] (row : Row) (name : String) : Except RowFault α :=
  match row.get? name with
  | none => .error (.missingColumn name)
  | some cell =>
    match OfCell.ofCell? cell with
    | some value => .ok value
    | none => .error (.typeMismatch name (OfCell.expected α) cell.kind)

end Row

class OfRow (α : Type) where
  ofRow : Row → Except RowFault α

instance : OfRow Row := ⟨.ok⟩

end TableQuery
