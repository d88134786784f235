import QueryChain.Engine.Attributes
import QueryChain.Execution.Executor
import QueryChain.Execution.Traced
import QueryChain.Value.Access

/-!
# Pooled engines

An executor over an engine with a pool of connections.  The engine is created on first use and kept
until it is disposed.  Every statement runs in a transaction of its own, which is committed when the
statement succeeds and rolled back when it fails.  Parameters are neither logged nor shown on spans.

## Main definitions

* `Engine` — an engine: the style of placeholders and the kind of database of its driver.
* `Produced` — what a statement produced; `Driver` — how a driver answers.
* `Pool` — the settings, the driver and the engine held.
* `Pool.acquire`, `Pool.dispose` — the engine, created if need be, and its release.
* `Pool.runStatement`, `Pool.query` — one statement in a transaction, and inside a span.
* `Executor.pooled` — the executor.
-/

set_option relaxedAutoImplicit false
set_option autoImplicit false

namespace QueryChain

/-- An engine: the style of placeholders that its driver expects, and the kind of database that the
driver is for. -/
structure Engine where
  styleName : String
  dialect : String
deriving DecidableEq, Repr

/-- What a statement produced: rows as its driver hands them out, or a number of rows that it
touched. -/
inductive Produced where
  | rows (rows : Value)
  | count (n : Int)
deriving Repr

/-- How a driver answers: each attempt to connect, and each statement, both numbered from zero. -/
structure Driver where
  connect : Nat → Answer Engine
  execute : Nat → Answer Produced

/-- The state of an executor: its settings, the driver, the engine it holds, and how many attempts
to connect and how many statements there were. -/
structure Pool where
  settings : DatabaseSettings
  driver : Driver
  engine : Option Engine
  attempts : Nat
  statements : Nat

namespace Pool

/-- A pool without an engine. -/
def start (settings : DatabaseSettings) (driver : Driver) : Pool := ⟨settings, driver, none, 0, 0⟩

/-- The options an engine is created with.  Databases of the embedded kind take no pool sizes. -/
def connectOptions (settings : DatabaseSettings) : Fields :=
  [("echo", .bool settings.echo), ("pool_pre_ping", .bool settings.prePing)]
    ++ if settings.isSqlite then []
      else
        [("pool_size", .int settings.poolSize), ("max_overflow", .int settings.maxOverflow),
          ("pool_timeout", .float settings.poolTimeout)]

/-- The failure of a pool without an address. -/
def unconfigured : Failure :=
  .coded (CodedError.configuration "No database URL configured. Set FLEETQL_DATABASE__URL."
    (.text "database.url") [] none)

/-- The failure of an attempt to connect. -/
def unreachable (settings : DatabaseSettings) (cause : Failure) : Failure :=
  .coded (CodedError.connecting "Failed to create database engine" (.text settings.system) []
    (some cause))

/-- An event of the log of engines. -/
def event (level : LogLevel) (message : String) (extra : Fields) (error : LoggedError) : LogEvent :=
  ⟨.engines, level, message, extra, error⟩

/-- Lets the driver make one attempt to connect. -/
def connect : Action Pool Engine := fun pool =>
  (Action.answer (pool.driver.connect pool.attempts)).run
    { pool with attempts := pool.attempts + 1 }

/-- Lets the driver run one statement. -/
def execute : Action Pool Produced := fun pool =>
  (Action.answer (pool.driver.execute pool.statements)).run
    { pool with statements := pool.statements + 1 }

/-- Creates an engine. -/
def create : Action Pool Engine := do
  let pool ← Action.get
  match pool.settings.address? with
  | none => Action.fail unconfigured
  | some url =>
    Action.call (.connect url (connectOptions pool.settings))
    match ← connect.attempt with
    | .ok engine =>
      Action.log (event .info "Created database engine" [("db.system", .text engine.dialect)]
        .unasked)
      return engine
    | .error f =>
      if f.isError then Action.fail (unreachable pool.settings f)
      else Action.ofExcept (.error f)

/-- The engine held, or a new one, which is then held. -/
def acquire : Action Pool Engine := do
  match (← Action.get).engine with
  | some engine => return engine
  | none =>
    let engine ← create
    Action.put { (← Action.get) with engine := some engine }
    return engine

/-- Releases the engine, if one is held. -/
def dispose : Action Pool Unit := do
  let pool ← Action.get
  match pool.engine with
  | none => return ()
  | some _ =>
    Action.call .dispose
    Action.put { pool with engine := none }
    Action.log (event .info "Disposed database engine" [] .unasked)

/-- What a statement produced, as rows and their number; touched rows are counted from zero. -/
def collect : Produced → Except Failure (List Value × Int)
  | .rows rows => Except.mapError Failure.fault do
    let maps ← (← rows.elements).mapM fun row => row.entries.map .map
    return (maps, maps.length)
  | .count n => .ok ([], max n 0)

/-- The fields of a statement in the log. -/
def statementFields (sql : String) (params : List Value) : Fields :=
  [("sql", .text sql), ("param_count", .int params.length)]

/-- The failure of a statement, wrapped with its text. -/
def statementFailure (sql : String) (f : Failure) (text : String) : Failure :=
  .coded (CodedError.executing sql f text [])

/-- Runs a statement in a transaction.  Its rows are collected inside the transaction. -/
def inTransaction (text : String) (bound : Option BoundParams) :
    Action Pool (List Value × Int) := do
  Action.call .begin
  Action.call (.statement text bound)
  let collected ← (do Action.ofExcept (collect (← execute)) : Action Pool _).attempt
  Action.call (match collected with
    | .ok _ => .commit
    | .error _ => .rollback)
  Action.ofExcept collected

/-- Ends a statement that failed.  An error is logged and wrapped with its text; if the text is
refused, the statement ends with the refusal instead. -/
def failStatement (sql : String) (params : List Value) (f : Failure) : Action Pool DriverResult :=
  if f.isError then do
    let text ← Action.awaitText f
    Action.log (event .error "SQL query failed"
      (statementFields sql params ++ [("error", .text text)]) (.handled f.kindName))
    Action.fail (statementFailure sql f text)
  else Action.ofExcept (.error f)

/-- Runs one statement with its parameters. -/
def runStatement (sql : String) (params : List Value) : Action Pool DriverResult := do
  let engine ← acquire
  let (text, bound) ← Action.check (translate sql (.list params) engine.styleName)
  match ← (inTransaction text (if params.isEmpty then none else some bound)).attempt with
  | .error f => failStatement sql params f
  | .ok (rows, count) =>
    Action.log (event .debug "SQL query executed"
      (statementFields sql params ++ [("row_count", .int count)]) .unasked)
    Action.ofExcept (DriverResult.ofRows (.list rows) (some (.int count)))

/-- The label of the span of a statement. -/
def spanLabel : SpanLabel := ⟨"fleetql.engines.base", "fleetql.engine.query", .client⟩

/-- The attributes of the span of a statement; its parameters have to have a number. -/
def spanAttributes (sql : String) (params : Value) : Action Pool Value := do
  let pool ← Action.get
  let count ← Action.ofExcept ((if params.truthy then params.length else .ok 0).mapError .fault)
  return (Statement.attributes pool.settings.system sql count).toValue

/-- Runs one statement with its parameters inside a span.  Whatever counts as empty stands for no
parameters. -/
def query (sql : String) (params : Value) : Action Pool DriverResult :=
  Action.traced spanLabel (spanAttributes sql params) do
    let given := if params.truthy then params.elements else .ok []
    let given ← Action.ofExcept (given.mapError .fault)
    runStatement sql given

end Pool

/-- The executor over a pooled engine. -/
def Executor.pooled : Executor Pool where
  name := "SQLAlchemyExecutor"
  query sql params := do return .result (← Pool.query sql (.list params))
  dispose := some Pool.dispose

end QueryChain
