import TableQuery.Rest.Parameter
import TableQuery.Text.Parts

/-!
# Query strings

The parameters in an address stand behind the first question mark, separated by ampersands, each
with its value behind the first equals sign.
-/

namespace TableQuery
namespace Rest

def parameterOfPiece (piece : List Char) : Parameter :=
  match Text.splitFirst? '=' piece with
  | some (key, value) => (.ofList key, some (.ofList value))
  | none => (.ofList piece, none)

/-- The parameters of an address. Empty pieces count for nothing, and so does an address without a
question mark. -/
def parametersOfAddress (address : String) : List Parameter :=
  match Text.splitFirst? '?' address.toList with
  | some (_, query) =>
    ((Text.splitAll '&' query).filter fun piece => !piece.isEmpty).map parameterOfPiece
  | none => []

end Rest
end TableQuery
