import TableQuery.Plan.OfQuery
import TableQuery.Sql.Select

/-!
# From plans to statements

A plan becomes a statement if its names are plain, its fields are columns of the table, its operands
fit and there is something to select. What is wrong first is the fault: the entity, then a field
that the table does not declare, then the names and operands in the order of the statement.
-/

namespace TableQuery
namespace Sql

def totalCount : String := "total_count"

/-- A rendered statement and the names of its result columns. All columns of a table have no names
here. -/
structure Rendered where
  sql : String
  columns : List String
deriving DecidableEq, Repr

def checkedName (name : String) : Except Fault String :=
  if isPlainName name then .ok name else .error { cause := .invalidName name }

def columnExpr (name : String) : Except Fault Expr :=
  (checkedName name).map Expr.column

def scalarExpr : Scalar → Expr
  | .string content => .string content
  | .number value => .number value
  | .boolean value => .boolean value

def binaryOperator? : Operator → Option BinaryOperator
  | .eq => some .eq
  | .neq => some .ne
  | .gt => some .gt
  | .gte => some .ge
  | .lt => some .lt
  | .lte => some .le
  | .like => some .like
  | .between => none

def conditionExpr? (operator : Operator) (column : Expr) (operands : List Expr) : Option Expr :=
  match binaryOperator? operator, operands with
  | some binary, right :: _ => some (.binary column binary right)
  | none, low :: high :: _ => some (.between column low high)
  | _, _ => none

/-- The expression of a condition. Without regard to case, the column and all operands are taken in
small letters. -/
def criterionExpr (criterion : Criterion) : Except Fault Expr := do
  criterion.operator.check criterion.field criterion.values
  let fold (expr : Expr) : Expr := if criterion.ignoreCase then expr.lower else expr
  let column ← columnExpr criterion.field
  let operands := criterion.values.map fun value => fold (scalarExpr value)
  match conditionExpr? criterion.operator (fold column) operands with
  | some condition => return condition
  | none =>
    throw { cause := .operandCount criterion.operator criterion.field
              criterion.operator.operands.length criterion.values.length }

def checkFields (table : Option Handle) (plan : Plan) : Except Fault Unit :=
  match table with
  | none => .ok ()
  | some table =>
    match plan.referencedFields.find? fun field => !table.hasField field with
    | some field => .error { cause := .unknownColumn table.name field }
    | none => .ok ()

def fieldColumn (field : String) : Except Fault ResultColumn :=
  (columnExpr field).map fun expr => { expr }

def aggregateColumn (pair : AggregateFunction × String) : Except Fault ResultColumn :=
  (columnExpr pair.2).map fun expr =>
    { expr := .call pair.1.sql [expr], name := some (pair.1.resultName pair.2) }

def countColumn : ResultColumn :=
  { expr := .countAll, name := some totalCount }

def orderTerm (key : SortKey) : Except Fault OrderTerm :=
  (columnExpr key.field).map fun expr => { expr, direction := key.direction }

def resultNames (plan : Plan) : List String :=
  (if plan.flags.entities then plan.projection else []) ++
    plan.aggregates.pairs.map (fun pair => pair.1.resultName pair.2) ++
    (if plan.flags.count then [totalCount] else [])

def Select.ofPlan (table : Option Handle) (plan : Plan) : Except Fault Select := do
  let entity ← checkedName plan.entity.name
  checkFields table plan
  let shown ← (if plan.flags.entities then plan.projection else []).mapM fieldColumn
  let aggregated ← plan.aggregates.pairs.mapM aggregateColumn
  let columns := shown ++ aggregated ++ (if plan.flags.count then [countColumn] else [])
  if columns.isEmpty && !plan.flags.entities then
    throw { cause := .emptySelection entity }
  let conditions ← plan.filters.mapM criterionExpr
  let order ← plan.sorting.mapM orderTerm
  let number (word : UInt64) : Expr := .number (.ofUInt64 word)
  return {
    distinct := plan.flags.distinct
    columns
    table := some entity
    condition := Expr.all? conditions
    order
    limit := plan.paging.limit.map number
    offset := plan.paging.offset.map number }

def renderPlan (table : Option Handle) (plan : Plan) : Except Fault Rendered := do
  let select ← Select.ofPlan table plan
  return { sql := select.render, columns := resultNames plan }

def renderQuery (query : Declarative.Query) : Except Fault Rendered := do
  match Entity.ofName? query.resource.name with
  | none => throw (.located .blankEntity query.resource.span)
  | some entity =>
    let plan ← query.plan entity
    renderPlan none plan

end Sql
end TableQuery
