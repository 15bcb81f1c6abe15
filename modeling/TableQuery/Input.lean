import TableQuery.Declarative.Query
import TableQuery.OrderedMap
import TableQuery.Rest.Query

/-!
# Inputs

A query comes in as parameters for an entity or as declarative text. Reading it gives a model, which
is still the query of one of the two kinds.
-/

namespace TableQuery

inductive InputKind where
  | rest
  | declarative
deriving DecidableEq, Repr

def InputKind.name : InputKind → String
  | rest => "rest"
  | declarative => "declarative"

inductive Input where
  | rest (entity : String) (parameters : OrderedMap String (Option String))
  | declarative (text : String)
deriving Repr

namespace Input

/-- Parameters for an entity. A repeated key keeps its first place and its last value. -/
def ofParameters (entity : String) (parameters : List Rest.Parameter) : Input :=
  rest entity (.ofList parameters)

def kind : Input → InputKind
  | rest _ _ => .rest
  | declarative _ => .declarative

end Input

inductive Model where
  | rest (query : Rest.Query)
  | declarative (query : Declarative.Query)

end TableQuery
