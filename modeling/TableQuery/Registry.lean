import TableQuery.Input
import TableQuery.Rest.QueryString
import TableQuery.Sql.OfPlan
import TableQuery.Text.Quoted

/-!
# Registries

A registry says who reads which kind of input and who writes statements.
-/

namespace TableQuery

def unsupported (component : String) (input : String) : Fault :=
  { cause := .unsupportedInput component input }

/-!
## Readers

A reader takes inputs of one kind. It can be registered for another kind, but it still reads its
own.
-/

structure Reader where
  kind : InputKind
  read : Input → Except Fault Model

namespace Reader

def rest : Reader where
  kind := .rest
  read
    | .rest _ parameters => .ok (.rest (.ofParameters parameters.entries))
    | input => .error (unsupported "rest parser" input.kind.name)

def declarative : Reader where
  kind := .declarative
  read
    | .declarative text => (Declarative.Query.ofText text).map .declarative
    | input => .error (unsupported "declarative parser" input.kind.name)

/-- Stands in for a reader of another kind: it registers for a kind, but reads like the other. -/
def registeredFor (reader : Reader) (kind : InputKind) : Reader :=
  { reader with kind }

def address : Reader where
  kind := .declarative
  read
    | .declarative text => .ok (.rest (.ofParameters (Rest.parametersOfAddress text)))
    | input => declarative.read input

end Reader

/-!
## Generators

A generator writes a statement from a model alone or from a plan.
-/

structure Generator where
  name : String
  renderModel : Model → Except Fault Sql.Rendered
  renderPlan : Option Handle → Plan → Except Fault Sql.Rendered

namespace Generator

def ansiName : String := "ansi sql generator"

/-- Writes standard SQL. Parameters alone say nothing about the entity, so they cannot
be written without a plan. -/
def ansi : Generator where
  name := ansiName
  renderModel
    | .declarative query => Sql.renderQuery query
    | .rest _ => .error (unsupported ansiName InputKind.rest.name)
  renderPlan := Sql.renderPlan

end Generator

/-!
## The registry

A registry has at most one reader for each kind of input. A reader that is registered takes the
place of the one before.
-/

structure Registry where
  rest : Option Reader := none
  declarative : Option Reader := none
  generator : Generator := .ansi

namespace Registry

def empty : Registry := {}

def reader? (registry : Registry) : InputKind → Option Reader
  | .rest => registry.rest
  | .declarative => registry.declarative

def register (registry : Registry) (reader : Reader) : Registry :=
  match reader.kind with
  | .rest => { registry with rest := some reader }
  | .declarative => { registry with declarative := some reader }

def standard : Registry :=
  (empty.register .rest).register .declarative

def read (registry : Registry) (input : Input) : Except Fault Model :=
  match registry.reader? input.kind with
  | some reader => reader.read input
  | none => .error (unsupported "registry" input.kind.name)

def kindNames (registry : Registry) : List String :=
  ([InputKind.declarative, InputKind.rest].filter fun kind => (registry.reader? kind).isSome).map
    InputKind.name

def describe (registry : Registry) : String :=
  "Registry \x7b parsers: " ++ Text.quotedList registry.kindNames ++ ", generator: " ++
    Text.quoted registry.generator.name ++ " \x7d"

end Registry

end TableQuery
