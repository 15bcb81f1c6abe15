import TableQuery.OrderedMap
import TableQuery.Result.Row
import TableQuery.Sql.OfPlan

/-!
# Result sets

What running a statement gives: rows, and aggregates by the names of their result columns.
-/

namespace TableQuery

structure ResultSet where
  rows : List Row := []
  aggregates : OrderedMap String Cell := .empty
deriving Repr, Inhabited

namespace ResultSet

def aggregate? (result : ResultSet) (name : String) : Option Cell :=
  result.aggregates.get? name

def putAggregate (result : ResultSet) (name : String) (cell : Cell) : ResultSet :=
  { result with aggregates := result.aggregates.insert name cell }

def totalCount? (result : ResultSet) : Option Int64 :=
  (result.aggregate? Sql.totalCount).bind Cell.int64?

def hasRows (result : ResultSet) (rows : List Row) : Bool :=
  result.rows.isEqv rows Row.agrees

/-- Reads all rows. The first row that cannot be read is the fault. -/
def readAll (α : Type) [OfRow α] (result : ResultSet) : Except RowFault (List α) :=
  result.rows.mapM OfRow.ofRow

def readFirst (α : Type) [OfRow α] (result : ResultSet) : Except RowFault (Option α) :=
  match result.rows with
  | [] => .ok none
  | row :: _ => (OfRow.ofRow row).map some

end ResultSet

end TableQuery
