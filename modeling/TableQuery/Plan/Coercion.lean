import TableQuery.Decimal.Word
import TableQuery.Declarative.Value
import TableQuery.Fault
import TableQuery.Query.Scalar

/-!
# Coercion

How the values of a query become scalars.
-/

namespace TableQuery

def hasExponentMark (text : String) : Bool :=
  text.toList.any fun c => c = 'e' || c = 'E'

/-- The scalar of a text that has been read as a number, or could not be. A number in scientific
notation says nothing about its places, so it is brought to normal form. -/
def Scalar.ofReading (text : String) : Option Decimal → Scalar
  | some value => .number (if hasExponentMark text then value.normalize else value)
  | none => .string text

def Scalar.ofText (text : String) : Scalar :=
  ofReading text (Decimal.ofChars? text.toList)

def Scalar.ofTextIn (arithmetic : Arithmetic) (text : String) : Except Overflow Scalar :=
  (Decimal.ofCharsIn? arithmetic text.toList).map (ofReading text)

/-- The scalar of a declarative value. An identifier is a text, lists and objects are no scalars. -/
def Scalar.ofValue (field : String) : Declarative.Value → Except Fault Scalar
  | .string _ content => .ok (.string content)
  | .identifier _ name => .ok (.string name)
  | .number _ value => .ok (.number value)
  | .boolean _ value => .ok (.boolean value)
  | value => .error (.located (.unsupportedValue field value.shape) value.span)

end TableQuery
