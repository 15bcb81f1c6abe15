import TableQuery.Proofs.Pipeline.DeclaredColumns

/-!
# Execution

An input that does not compile never reaches the executor. One that compiles reaches it once, with
the compiled statement and the table of its entity, and the answer of the executor is the result. To
say so, an executor is taken as a function whose calls are entered in a log. Observers have a state
of their own, which is all that they can change.
-/

namespace TableQuery

/-- A catalog that gives one answer for an entity, whenever it is asked. -/
def Catalog.fixed (lookup : String → Option Handle) : Catalog :=
  ⟨fun _ entity => lookup entity⟩

/-!
## Logs

A recorder keeps the calls of an executor beside the state of observers.
-/

/-- A statement that was run, and the table that it was run against. -/
structure Call where
  statement : Statement
  table : Handle

abbrev Recorder (σ : Type) : Type → Type :=
  StateT (List Call) (StateM σ)

theorem Recorder.bind_apply {σ α β : Type} {first : Recorder σ α} (next : α → Recorder σ β)
    {log log' : List Call} {state state' : σ} {value : α}
    (h : first log state = ((value, log'), state')) :
    (first >>= next) log state = next value log' state' := by
  show (let step := first log state; next step.1.1 step.1.2 step.2) = next value log' state'
  rw [h]

abbrev Observer (σ : Type) : Type :=
  Observation → StateM σ Unit

def Observer.besideLog {σ : Type} (observer : Observer σ) : Observation → Recorder σ Unit :=
  fun observation => StateT.lift (observer observation)

theorem Observer.besideLog_apply {σ : Type} (observer : Observer σ) (observation : Observation)
    (log : List Call) (state : σ) :
    observer.besideLog observation log state = (((), log), (observer observation state).2) :=
  rfl

/-!
## Layers

However many layers tell observers about the statements, each run of the outermost layer is one call
of the executor within.
-/

abbrev Answer : Type :=
  Statement → Handle → Except String ResultSet

namespace Executor

variable {σ : Type} {answer : Answer} {executor : Executor (Recorder σ)}

def recording (answer : Answer) : Executor (Recorder σ) :=
  fun statement table => do
    modify (· ++ [⟨statement, table⟩])
    return answer statement table

def layered (executor : Executor (Recorder σ)) : List (Observer σ) → Executor (Recorder σ)
  | [] => executor
  | observer :: layers => (executor.layered layers).observed observer.besideLog

/-- Every run of an executor is one call, and it comes to the answer to this call. -/
def Faithful (answer : Answer) (executor : Executor (Recorder σ)) : Prop :=
  ∀ statement table log state, ∃ state',
    executor statement table log state =
      ((answer statement table, log ++ [⟨statement, table⟩]), state')

theorem faithful_recording : (recording answer : Executor (Recorder σ)).Faithful answer := by
  intro statement table log state
  exact ⟨state, rfl⟩

theorem Faithful.observed (h : executor.Faithful answer) (observer : Observer σ) :
    (executor.observed observer.besideLog).Faithful answer := by
  intro statement table log state
  have hstarted := observer.besideLog_apply (.started statement.sql table.name) log state
  rcases h statement table log (observer (.started statement.sql table.name) state).2 with
    ⟨state', hanswered⟩
  have hended := observer.besideLog_apply (.ofOutcome (answer statement table))
    (log ++ [⟨statement, table⟩]) state'
  refine ⟨(observer (.ofOutcome (answer statement table)) state').2, ?_⟩
  unfold Executor.observed
  rw [Recorder.bind_apply _ hstarted, Recorder.bind_apply _ hanswered, Recorder.bind_apply _ hended]
  rfl

theorem Faithful.layered (h : executor.Faithful answer) (layers : List (Observer σ)) :
    (executor.layered layers).Faithful answer := by
  induction layers with
  | nil => exact h
  | cons observer layers ih => exact ih.observed observer

end Executor

/-!
## Runs

The catalog has been asked for the table of the entity when the query was planned. If it gives the
same answer again, the table is there when the statement is run.
-/

namespace Pipeline

theorem execute_of_compile_eq_error {m : Type → Type} [Monad m] {pipeline : Pipeline}
    {executor : Executor m} {input : Input} {fault : Fault}
    (h : pipeline.compile input = .error fault) :
    pipeline.execute executor input = pure (.error (.fault fault)) := by
  unfold execute
  rw [h]

theorem execute_of_compile_eq_ok {m : Type → Type} [Monad m] {pipeline : Pipeline}
    {executor : Executor m} {input : Input} {statement : Statement} {table : Handle}
    (h : pipeline.compile input = .ok statement)
    (htable : pipeline.catalog.table? .running statement.plan.entity.name = some table) :
    pipeline.execute executor input = (do
      let outcome ← executor statement table
      return outcome.mapError (.execution statement.plan.entity.name)) := by
  unfold execute
  rw [h]
  simp only [htable]

theorem exists_table_of_compile {registry : Registry} {lookup : String → Option Handle}
    {input : Input} {statement : Statement}
    (h : compile ⟨registry, .fixed lookup⟩ input = .ok statement) :
    ∃ table, lookup statement.plan.entity.name = some table := by
  rcases compile_eq_ok h with ⟨model, _, hplan, _⟩
  exact exists_table_of_plan hplan

/-- The result of an input, and the log of calls after it, for an executor inside layers. -/
def record {σ : Type} (pipeline : Pipeline) (answer : Answer) (layers : List (Observer σ))
    (input : Input) (log : List Call) (state : σ) : Except Failure ResultSet × List Call :=
  (pipeline.execute ((Executor.recording answer).layered layers) input log state).1

section Record

variable {σ : Type} {registry : Registry} {lookup : String → Option Handle} {input : Input}
  (answer : Answer) (layers : List (Observer σ)) (log : List Call) (state : σ)

theorem record_of_compile_eq_error {fault : Fault}
    (h : compile ⟨registry, .fixed lookup⟩ input = .error fault) :
    record ⟨registry, .fixed lookup⟩ answer layers input log state =
      (.error (.fault fault), log) := by
  unfold record
  rw [execute_of_compile_eq_error h]
  rfl

theorem record_of_compile_eq_ok {statement : Statement} {table : Handle}
    (h : compile ⟨registry, .fixed lookup⟩ input = .ok statement)
    (htable : lookup statement.plan.entity.name = some table) :
    record ⟨registry, .fixed lookup⟩ answer layers input log state =
      ((answer statement table).mapError (.execution statement.plan.entity.name),
        log ++ [⟨statement, table⟩]) := by
  rcases Executor.faithful_recording.layered layers statement table log state with
    ⟨state', hanswered⟩
  unfold record
  rw [execute_of_compile_eq_ok h htable, Recorder.bind_apply _ hanswered]
  rfl

end Record

/-- Whatever the registry reads and renders, an input that does not compile gives its fault and no
call. An input that compiles has a table, and gives one call with the statement and this table: the
answer is passed on as it is, or as a failure that names the entity. Layers make no difference. -/
theorem record_eq_compiled {σ : Type} (registry : Registry) (lookup : String → Option Handle)
    (input : Input) (answer : Answer) (layers : List (Observer σ)) (log : List Call) (state : σ) :
    (∀ fault, compile ⟨registry, .fixed lookup⟩ input = .error fault →
      record ⟨registry, .fixed lookup⟩ answer layers input log state =
        (.error (.fault fault), log)) ∧
    (∀ statement, compile ⟨registry, .fixed lookup⟩ input = .ok statement →
      ∃ table, lookup statement.plan.entity.name = some table ∧
        record ⟨registry, .fixed lookup⟩ answer layers input log state =
          ((answer statement table).mapError (.execution statement.plan.entity.name),
            log ++ [⟨statement, table⟩])) ∧
    record ⟨registry, .fixed lookup⟩ answer layers input log state =
      record ⟨registry, .fixed lookup⟩ answer [] input log state := by
  refine ⟨fun fault h => record_of_compile_eq_error answer layers log state h, ?_, ?_⟩
  · intro statement h
    rcases exists_table_of_compile h with ⟨table, htable⟩
    exact ⟨table, htable, record_of_compile_eq_ok answer layers log state h htable⟩
  · cases h : compile ⟨registry, .fixed lookup⟩ input with
    | error fault =>
        rw [record_of_compile_eq_error answer layers log state h,
          record_of_compile_eq_error answer [] log state h]
    | ok statement =>
        rcases exists_table_of_compile h with ⟨table, htable⟩
        rw [record_of_compile_eq_ok answer layers log state h htable,
          record_of_compile_eq_ok answer [] log state h htable]

def diary : Observer (List Observation) :=
  fun observation => modify (· ++ [observation])

def soleLookup (entity : String) : Option Handle :=
  if entity = "t" then some filteredTable.handle else none

/-- Behind two layers, an executor refuses an input that compiles, and does not see one that fails. -/
theorem record_eq_compiled_refused :
    ∃ statement,
      compile ⟨.standard, .fixed soleLookup⟩ (.rest "t" everywhereParameters) = .ok statement ∧
        record ⟨.standard, .fixed soleLookup⟩ (fun _ _ => .error "refused") [diary, diary]
            (.rest "t" everywhereParameters) [] [] =
          (.error (.execution "t" "refused"), [⟨statement, filteredTable.handle⟩]) ∧
        record ⟨.standard, .fixed soleLookup⟩ (fun _ _ => .error "refused") [diary, diary]
            (.rest "u" everywhereParameters) [] [] =
          (.error (.fault { cause := .unknownEntity "u" }), []) := by
  have hcompile : ∃ statement, compile ⟨.standard, .fixed soleLookup⟩
      (.rest "t" everywhereParameters) = .ok statement ∧ statement.plan.entity.name = "t" :=
    ⟨_, rfl, rfl⟩
  rcases hcompile with ⟨statement, hstatement, hentity⟩
  have hruns := record_eq_compiled .standard soleLookup (.rest "t" everywhereParameters)
    (fun _ _ => .error "refused") [diary, diary] [] []
  have hfails := record_eq_compiled .standard soleLookup (.rest "u" everywhereParameters)
    (fun _ _ => .error "refused") [diary, diary] [] []
  rcases hruns.2.1 statement hstatement with ⟨table, htable, hrecord⟩
  have hfound : soleLookup "t" = some filteredTable.handle := rfl
  rw [hentity, hfound] at htable
  cases htable
  rw [hentity] at hrecord
  exact ⟨statement, hstatement, hrecord, hfails.1 _ rfl⟩

end Pipeline

end TableQuery
