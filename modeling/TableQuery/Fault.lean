import TableQuery.Declarative.Token
import TableQuery.Declarative.Value
import TableQuery.Query.Operator

/-!
# Faults

What can be wrong with a query. A fault has a cause, and it may know where in a source text it lies
and which text that is. The wording of every cause is in one place.
-/

namespace TableQuery

open Declarative (Expected Lexeme Shape)

inductive Requirement where
  | object
  | list
  | boolean
  | name
  | number
deriving DecidableEq, Repr

def Requirement.text : Requirement → String
  | object => "an object"
  | list => "a list"
  | boolean => "a boolean"
  | name => "an identifier or string"
  | number => "numeric"

inductive Cause where
  | unexpectedCharacter (char : Char)
  | unterminatedString
  | invalidNumber (literal : String)
  | unexpectedToken (expected : Expected) (found : Option Lexeme)
  | unsupportedArgument (name : String)
  | unsupportedOperator (field : String) (operator : String)
  | wrongShape (field : String) (required : Requirement) (found : Shape)
  | missingField (field : String)
  | invalidDirection (field : String) (value : String)
  | invalidInteger (field : String) (value : Decimal)
  | unknownEntity (entity : String)
  | blankEntity
  | unknownColumn (table : String) (column : String)
  | unsupportedValue (field : String) (found : Shape)
  | operandCount (operator : Operator) (field : String) (expected : Nat) (actual : Nat)
  | operandKind (operator : Operator) (field : String) (position : Nat)
  | invalidName (name : String)
  | emptySelection (entity : String)
  | unsupportedInput (component : String) (input : String)
deriving DecidableEq, Repr

inductive FaultClass where
  | syntactic
  | semantic
  | validation
  | unsupportedInput
deriving DecidableEq, Repr

/-- What stands in the place of an expected token. An empty place is the end of the text. -/
def foundText : Option Lexeme → String
  | none => Declarative.endOfInput
  | some (.word name) => "identifier '" ++ name ++ "'"
  | some lexeme => lexeme.kind

def filterText (operator : Operator) (field : String) : String :=
  operator.name ++ " on '" ++ field ++ "'"

namespace Cause

def faultClass : Cause → FaultClass
  | unexpectedCharacter _ | unterminatedString | invalidNumber _ | unexpectedToken _ _ => .syntactic
  | unsupportedArgument _ | unsupportedOperator _ _ | wrongShape _ _ _ | missingField _
  | invalidDirection _ _ | invalidInteger _ _ => .semantic
  | unknownEntity _ | blankEntity | unknownColumn _ _ | unsupportedValue _ _
  | operandCount _ _ _ _ | operandKind _ _ _ | invalidName _ | emptySelection _ => .validation
  | unsupportedInput _ _ => .unsupportedInput

def message : Cause → String
  | unexpectedCharacter char => "unexpected character '" ++ char.toString ++ "'"
  | unterminatedString => "unterminated string literal"
  | invalidNumber literal => "invalid number literal '" ++ literal ++ "'"
  | unexpectedToken expected found =>
    "expected " ++ expected.name ++ ", found " ++ foundText found
  | unsupportedArgument name => "unsupported argument: " ++ name
  | unsupportedOperator field operator => "unsupported operator '" ++ operator ++ "' on " ++ field
  | wrongShape field required found =>
    field ++ " must be " ++ required.text ++ ", found " ++ found.name
  | missingField field => field ++ " is required"
  | invalidDirection field value => field ++ " must be ASC or DESC, found '" ++ value ++ "'"
  | invalidInteger field value =>
    field ++ " must be a non-negative integer, found " ++ value.text
  | unknownEntity entity => "unknown entity '" ++ entity ++ "'"
  | blankEntity => "entity name must not be blank"
  | unknownColumn table column => "column '" ++ column ++ "' not found in table '" ++ table ++ "'"
  | unsupportedValue field found =>
    "unsupported value type " ++ found.name ++ " for filter on '" ++ field ++ "'"
  | operandCount operator field expected actual =>
    "invalid arguments for filter '" ++ filterText operator field ++ "': expected " ++
      expected.repr ++ " arguments, got " ++ actual.repr
  | operandKind operator field position =>
    "invalid argument for filter '" ++ filterText operator field ++ "': argument " ++
      position.repr ++ " must be a string or number"
  | invalidName name => "'" ++ name ++ "' is not a valid SQL identifier"
  | emptySelection entity =>
    "nothing to select from '" ++ entity ++
      "': entities are disabled and no aggregates were requested"
  | unsupportedInput component input => component ++ " does not support " ++ input ++ " input"

end Cause

structure Source where
  name : String
  text : String
deriving DecidableEq, Repr

/-- A cause, the bytes it points at and the text that holds them, as far as they are known. -/
structure Fault where
  cause : Cause
  span : Option Span := none
  source : Option Source := none
deriving DecidableEq, Repr

namespace Fault

def located (cause : Cause) (span : Span) : Fault :=
  { cause, span := some span }

def faultClass (fault : Fault) : FaultClass :=
  fault.cause.faultClass

/-- Attaches a source text. A text that is already attached stays. -/
def attach (fault : Fault) (source : Source) : Fault :=
  { fault with source := fault.source.or (some source) }

end Fault

end TableQuery
