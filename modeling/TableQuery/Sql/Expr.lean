import TableQuery.Query.Scalar
import TableQuery.Sql.Name

/-!
# Expressions

The expressions of a statement, and how they are written.
-/

namespace TableQuery
namespace Sql

inductive BinaryOperator where
  | eq
  | ne
  | lt
  | le
  | gt
  | ge
  | like
  | and
deriving DecidableEq, Repr

def BinaryOperator.sql : BinaryOperator → String
  | eq => "="
  | ne => "!="
  | lt => "<"
  | le => "<="
  | gt => ">"
  | ge => ">="
  | like => "LIKE"
  | and => "AND"

inductive Expr where
  | column (name : String)
  | string (content : String)
  | number (value : Decimal)
  | boolean (value : Bool)
  | binary (left : Expr) (operator : BinaryOperator) (right : Expr)
  | between (operand : Expr) (low : Expr) (high : Expr)
  | call (function : String) (arguments : List Expr)
  | countAll
deriving Inhabited, Repr

namespace Expr

def lower (expr : Expr) : Expr :=
  call "LOWER" [expr]

def all? : List Expr → Option Expr
  | [] => none
  | first :: rest => some (rest.foldl (fun left right => binary left .and right) first)

mutual

def render : Expr → String
  | column name => name
  | string content => literal content
  | number value => value.text
  | boolean value => booleanText value
  | binary left operator right => left.render ++ " " ++ operator.sql ++ " " ++ right.render
  | between operand low high =>
    operand.render ++ " BETWEEN " ++ low.render ++ " AND " ++ high.render
  | call function arguments => function ++ "(" ++ renderList arguments ++ ")"
  | countAll => "COUNT(*)"

def renderList : List Expr → String
  | [] => ""
  | expr :: rest => expr.render ++ renderMore rest

def renderMore : List Expr → String
  | [] => ""
  | expr :: rest => ", " ++ expr.render ++ renderMore rest

end

end Expr

end Sql
end TableQuery
