import TableQuery.Registry
import TableQuery.Result.ResultSet

/-!
# The pipeline

An input is read, planned and rendered as a statement, and a statement is run by an executor. The
pipeline itself keeps nothing between two inputs.
-/

namespace TableQuery

inductive Failure where
  | fault (fault : Fault)
  | execution (entity : String) (reason : String)
  | row (fault : RowFault)
deriving DecidableEq, Repr

def Failure.message : Failure → String
  | fault inner => inner.cause.message
  | execution entity reason => "query on '" ++ entity ++ "' failed: " ++ reason
  | row inner => "row mapping failed: " ++ inner.message

structure Statement where
  plan : Plan
  sql : String
  columns : List String
deriving DecidableEq, Repr

/-- Attaches the text of a declarative input to a fault that points into it. -/
def Input.attachTo (input : Input) (fault : Fault) : Fault :=
  match input with
  | .declarative text =>
    if fault.span.isSome then fault.attach (Declarative.Query.source text) else fault
  | .rest _ _ => fault

structure Pipeline where
  registry : Registry
  catalog : Catalog

namespace Pipeline

def read (pipeline : Pipeline) (input : Input) : Except Fault Model :=
  pipeline.registry.read input

/-- Plans a model. A query in parameters takes its entity from the input. -/
def planModel (pipeline : Pipeline) (input : Input) : Model → Except Fault Plan
  | .declarative query => pipeline.catalog.planDeclarative query
  | .rest query =>
    match input with
    | .rest entity _ => pipeline.catalog.planRest query entity
    | .declarative _ => .error (unsupported "query planner" "rest model without an entity")

def plan (pipeline : Pipeline) (input : Input) (model : Model) : Except Fault Plan :=
  (pipeline.planModel input model).mapError input.attachTo

def renderModel (pipeline : Pipeline) (model : Model) : Except Fault Sql.Rendered :=
  pipeline.registry.generator.renderModel model

def renderPlan (pipeline : Pipeline) (input : Input) (plan : Plan) :
    Except Fault Sql.Rendered :=
  let table := pipeline.catalog.table? .checking plan.entity.name
  (pipeline.registry.generator.renderPlan table plan).mapError input.attachTo

def compile (pipeline : Pipeline) (input : Input) : Except Fault Statement := do
  let model ← pipeline.read input
  let plan ← pipeline.plan input model
  let rendered ← pipeline.renderPlan input plan
  return { plan, sql := rendered.sql, columns := rendered.columns }

/-!
## Compiling in words

Only the values of parameters can have exponents, so that their scales can leave the words.
-/

def planIn (arithmetic : Arithmetic) (pipeline : Pipeline) (input : Input) (model : Model) :
    Except Halt Plan :=
  match input, model with
  | .rest entity _, .rest query => pipeline.catalog.planRestIn arithmetic query entity
  | input, model => (pipeline.plan input model).mapError Halt.fault

def compileIn (arithmetic : Arithmetic) (pipeline : Pipeline) (input : Input) :
    Except Halt Statement := do
  let model ← (pipeline.read input).mapError Halt.fault
  let plan ← pipeline.planIn arithmetic input model
  let rendered ← (pipeline.renderPlan input plan).mapError Halt.fault
  return { plan, sql := rendered.sql, columns := rendered.columns }

end Pipeline

/-!
## Execution

An executor runs statements against a table. It works in a monad of its own, so that the pipeline
can be used with any way of reaching data, and so that its calls can be recorded.
-/

def Executor (m : Type → Type) : Type :=
  Statement → Handle → m (Except String ResultSet)

inductive Observation where
  | started (sql : String) (table : String)
  | finished (rows : Nat) (aggregates : Nat)
  | failed (reason : String)
deriving DecidableEq, Repr

def Observation.ofOutcome : Except String ResultSet → Observation
  | .ok result => finished result.rows.length result.aggregates.size
  | .error reason => failed reason

def Executor.observed {m : Type → Type} [Monad m] (observe : Observation → m Unit)
    (executor : Executor m) : Executor m :=
  fun statement table => do
    observe (.started statement.sql table.name)
    let outcome ← executor statement table
    observe (.ofOutcome outcome)
    return outcome

def Pipeline.execute {m : Type → Type} [Monad m] (pipeline : Pipeline) (executor : Executor m)
    (input : Input) : m (Except Failure ResultSet) :=
  match pipeline.compile input with
  | .error fault => return .error (.fault fault)
  | .ok statement =>
    let entity := statement.plan.entity.name
    match pipeline.catalog.table? .running entity with
    | none => return .error (.fault { cause := .unknownEntity entity })
    | some table => do
      let outcome ← executor statement table
      return outcome.mapError (.execution entity)

end TableQuery
