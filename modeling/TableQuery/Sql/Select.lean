import TableQuery.Query.Sorting
import TableQuery.Sql.Expr
import TableQuery.Text.Parts

/-!
# Statements

A SELECT statement, and how it is written.
-/

namespace TableQuery
namespace Sql

structure ResultColumn where
  expr : Expr
  name : Option String := none
deriving Inhabited, Repr

structure OrderTerm where
  expr : Expr
  direction : Direction
deriving Repr

/-- A SELECT statement. Without columns it selects all of them. -/
structure Select where
  distinct : Bool := false
  columns : List ResultColumn := []
  table : Option String := none
  condition : Option Expr := none
  order : List OrderTerm := []
  limit : Option Expr := none
  offset : Option Expr := none
deriving Repr

def ResultColumn.render (column : ResultColumn) : String :=
  match column.name with
  | some name => column.expr.render ++ " AS " ++ name
  | none => column.expr.render

def OrderTerm.render (term : OrderTerm) : String :=
  term.expr.render ++ " " ++ term.direction.keyword

namespace Select

def clause (keyword : String) : Option String → String
  | some text => " " ++ keyword ++ " " ++ text
  | none => ""

def renderColumns (columns : List ResultColumn) : String :=
  if columns.isEmpty then "*" else Text.join ", " (columns.map ResultColumn.render)

def renderOrder? (order : List OrderTerm) : Option String :=
  if order.isEmpty then none else some (Text.join ", " (order.map OrderTerm.render))

def render (select : Select) : String :=
  "SELECT" ++ (if select.distinct then " DISTINCT" else "") ++ " " ++
    renderColumns select.columns ++
    clause "FROM" select.table ++
    clause "WHERE" (select.condition.map Expr.render) ++
    clause "ORDER BY" (renderOrder? select.order) ++
    clause "LIMIT" (select.limit.map Expr.render) ++
    clause "OFFSET" (select.offset.map Expr.render)

end Select

end Sql
end TableQuery
