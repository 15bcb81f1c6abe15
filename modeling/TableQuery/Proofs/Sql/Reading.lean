import TableQuery.Proofs.Sql.Rendering
import TableQuery.Sql.OfPlan

/-!
# Reading statements

A reader of statements that knows nothing of plans. It takes the lexemes of a SELECT and says what
the statement asks for: whether repeated rows are dropped, what is selected from where, under which
conditions and in which order, and which window of rows is shown.

Keywords are not reserved, so a column can have the name of one. Where a keyword can stand, the
lexemes behind it settle what it is. Only `DISTINCT` needs more than that, because a select list may
start with a column of this name: the statement is first read with the keyword, and if it cannot be
read to its end in that way, without it.
-/

namespace TableQuery
namespace Sql

/-!
## What a statement asks for
-/

inductive Shown where
  | field (name : String)
  | aggregate (function : AggregateFunction) (field : String)
  | count
deriving DecidableEq, Repr

/-- What a statement asks for. Without columns it shows all of them. -/
structure Content where
  distinct : Bool
  columns : List Shown
  entity : String
  filters : List Criterion
  sorting : List SortKey
  limit : Option UInt64
  offset : Option UInt64
deriving DecidableEq, Repr

/-!
## The parts of a statement

A reader of a part takes lexemes from the front and leaves the rest. A range has a second operand
behind an `AND` of its own.
-/

abbrev Reader (α : Type) := List Lexeme → Option (α × List Lexeme)

def aggregateOfSql? (name : String) : Option AggregateFunction :=
  [AggregateFunction.sum, .avg, .min, .max].find? fun function => function.sql = name

def readShown : Reader Shown
  | .word function :: .symbol .openParen :: .word field :: .symbol .closeParen :: .word keyword ::
      .word name :: rest =>
    match aggregateOfSql? function with
    | some function =>
      if keyword = "AS" ∧ name = function.resultName field then
        some (.aggregate function field, rest)
      else none
    | none => none
  | .word function :: .symbol .openParen :: .symbol .star :: .symbol .closeParen ::
      .word keyword :: .word name :: rest =>
    if function = "COUNT" ∧ keyword = "AS" ∧ name = totalCount then some (.count, rest) else none
  | .word name :: rest => some (.field name, rest)
  | _ => none

def readColumn : Reader (String × Bool)
  | .word function :: .symbol .openParen :: .word name :: .symbol .closeParen :: rest =>
    if function = "LOWER" then some ((name, true), rest) else none
  | .word name :: rest => some ((name, false), rest)
  | _ => none

def readOperator : Reader Operator
  | .symbol .equal :: rest => some (.eq, rest)
  | .symbol .notEqual :: rest => some (.neq, rest)
  | .symbol .greater :: rest => some (.gt, rest)
  | .symbol .greaterEqual :: rest => some (.gte, rest)
  | .symbol .less :: rest => some (.lt, rest)
  | .symbol .lessEqual :: rest => some (.lte, rest)
  | .word name :: rest =>
    if name = "LIKE" then some (.like, rest)
    else if name = "BETWEEN" then some (.between, rest)
    else none
  | _ => none

def literalScalar? : Lexeme → Option Scalar
  | .text content => some (.string content)
  | .number value => some (.number value)
  | .word name =>
    if name = "true" then some (.boolean true)
    else if name = "false" then some (.boolean false)
    else none
  | .symbol _ => none

def readOperand (ignoreCase : Bool) : Reader Scalar
  | .word function :: .symbol .openParen :: operand :: .symbol .closeParen :: rest =>
    if ignoreCase ∧ function = "LOWER" then (literalScalar? operand).map (·, rest) else none
  | operand :: rest => if ignoreCase then none else (literalScalar? operand).map (·, rest)
  | [] => none

def readCriterion : Reader Criterion := fun lexemes => do
  let ((field, ignoreCase), lexemes) ← readColumn lexemes
  let (operator, lexemes) ← readOperator lexemes
  let (first, lexemes) ← readOperand ignoreCase lexemes
  match operator, lexemes with
  | .between, .word keyword :: lexemes =>
    if keyword = "AND" then
      let (second, lexemes) ← readOperand ignoreCase lexemes
      return ({ field, operator, values := [first, second], ignoreCase }, lexemes)
    else none
  | .between, _ => none
  | _, _ => return ({ field, operator, values := [first], ignoreCase }, lexemes)

def readSortKey : Reader SortKey
  | .word field :: .word keyword :: rest =>
    if keyword = "ASC" then some (⟨field, .ascending⟩, rest)
    else if keyword = "DESC" then some (⟨field, .descending⟩, rest)
    else none
  | _ => none

def readCount : Reader UInt64
  | .number value :: rest =>
    let word := UInt64.ofNat value.magnitude
    if value = .ofUInt64 word then some (word, rest) else none
  | _ => none

def separated {α : Type} (item : Reader α) (separator : Lexeme) (lexemes : List Lexeme) :
    Option (List α × List Lexeme) :=
  match item lexemes with
  | none => none
  | some (first, []) => some ([first], [])
  | some (first, next :: rest) =>
    if _h : next = separator ∧ rest.length < lexemes.length then
      (separated item separator rest).map fun more => (first :: more.1, more.2)
    else some ([first], next :: rest)
termination_by lexemes.length
decreasing_by exact _h.2

def clauseOr {α : Type} (absent : α) (keywords : List Lexeme) (body : Reader α) : Reader α :=
  fun lexemes =>
    match keywords.isPrefixOf? lexemes with
    | some rest => body rest
    | none => some (absent, lexemes)

def countClause (keyword : Lexeme) : Reader (Option UInt64) :=
  clauseOr none [keyword] fun lexemes =>
    (readCount lexemes).map fun found => (some found.1, found.2)

/-!
## The statement
-/

def readColumns : Reader (List Shown)
  | .symbol .star :: rest => some ([], rest)
  | lexemes => separated readShown (.symbol .comma) lexemes

def readTable : Reader String
  | .word keyword :: .word entity :: rest => if keyword = "FROM" then some (entity, rest) else none
  | _ => none

structure Clauses where
  filters : List Criterion
  sorting : List SortKey
  limit : Option UInt64
  offset : Option UInt64

def readClauses (lexemes : List Lexeme) : Option Clauses := do
  let (filters, lexemes) ←
    clauseOr [] [.word "WHERE"] (separated readCriterion (.word "AND")) lexemes
  let (sorting, lexemes) ←
    clauseOr [] [.word "ORDER", .word "BY"] (separated readSortKey (.symbol .comma)) lexemes
  let (limit, lexemes) ← countClause (.word "LIMIT") lexemes
  let (offset, lexemes) ← countClause (.word "OFFSET") lexemes
  if lexemes.isEmpty then some { filters, sorting, limit, offset } else none

def readBody (distinct : Bool) (lexemes : List Lexeme) : Option Content := do
  let (columns, lexemes) ← readColumns lexemes
  let (entity, lexemes) ← readTable lexemes
  let clauses ← readClauses lexemes
  return { distinct, columns, entity, filters := clauses.filters, sorting := clauses.sorting,
           limit := clauses.limit, offset := clauses.offset }

def readSelection (lexemes : List Lexeme) : Option Content :=
  (match lexemes with
    | .word keyword :: rest => if keyword = "DISTINCT" then readBody true rest else none
    | _ => none) <|> readBody false lexemes

def Content.ofLexemes? : List Lexeme → Option Content
  | .word keyword :: rest => if keyword = "SELECT" then readSelection rest else none
  | _ => none

def Content.ofSql? (sql : String) : Option Content :=
  (lexemes? sql.toList).bind Content.ofLexemes?

end Sql
end TableQuery
