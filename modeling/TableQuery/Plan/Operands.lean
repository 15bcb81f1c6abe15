import TableQuery.Fault
import TableQuery.Plan

/-!
# Operands

How many operands an operator takes, and of which kind.
-/

namespace TableQuery

inductive OperandKind where
  | scalar
  | pattern
deriving DecidableEq, Repr

/-- Whether a value can stand in a place. A pattern is a text or a number. -/
def OperandKind.accepts : OperandKind → Scalar → Bool
  | scalar, _ => true
  | pattern, .boolean _ => false
  | pattern, _ => true

def Operator.operands : Operator → List OperandKind
  | .between => [.scalar, .scalar]
  | .like => [.pattern]
  | _ => [.scalar]

def firstRefused? (kinds : List OperandKind) (values : List Scalar) : Option Nat :=
  (values.zip kinds).findIdx? fun pair => !pair.2.accepts pair.1

def Operator.check (operator : Operator) (field : String) (values : List Scalar) :
    Except Fault Unit :=
  let kinds := operator.operands
  if values.length ≠ kinds.length then
    .error { cause := .operandCount operator field kinds.length values.length }
  else
    match firstRefused? kinds values with
    | some position => .error { cause := .operandKind operator field position }
    | none => .ok ()

def Criterion.checked (criterion : Criterion) : Except Fault Criterion :=
  (criterion.operator.check criterion.field criterion.values).map fun _ => criterion

end TableQuery
