import QueryChain.Chain.Basic
import QueryChain.Execution.Executor

/-!
# Resolving chains

A database pairs an executor with the rules for names.  A builder is a chain that can be resolved
once: its statement is handed to the executor, and what comes back is turned into a result.
Failures of the chain itself are passed on; failures of the executor become the error half of the
result, unless they refuse the text that it would hold.

## Main definitions

* `Database` — an executor with the rules for names.
* `Builder` — a chain, and whether it has been resolved.
* `Fetch` — all rows, or the first one.
* `Reply.rows` — the rows of what an executor handed back.
* `Builder.resolve` — the result of a builder.
* `Database.isHealthy`, `Database.close` — a probe, and the release of resources.
-/

set_option relaxedAutoImplicit false
set_option autoImplicit false

namespace QueryChain

/-- An executor with the rules for names in the statements it is given. -/
structure Database (σ : Type) where
  executor : Executor σ
  rules : NameRules

/-- A chain, and whether it has been resolved. -/
structure Builder where
  chain : Chain
  resolved : Bool
deriving Repr

/-- What to resolve a chain to: all rows, or the first one. -/
inductive Fetch where
  | many
  | one
deriving DecidableEq, Repr

namespace Reply

/-- The elements of a value that counts as given; none of one that does not. -/
def elementsOf (v : Value) : Except Failure (List Value) :=
  if v.truthy then v.elements.mapError .fault else .ok []

/-- The rows of what an executor handed back: those of a driver result, those under the key `rows`
of a mapping, and otherwise the elements. -/
def rows : Reply → Except Failure (List Value)
  | result r => .ok r.rowValues
  | value (.map entries) => elementsOf ((Value.Entries.get? entries (.text "rows")).getD .null)
  | value v => elementsOf v

end Reply

/-- The data of a result with given rows. -/
def Fetch.data (fetch : Fetch) (rows : List Value) : Value :=
  match fetch with
  | many => .list rows
  | one => rows.head?.getD .null

namespace Builder

variable {σ : Type}

/-- A builder for a table. -/
def start (table : Value) : Builder := ⟨Chain.start table, false⟩

/-- The builder after it was resolved, whatever came of it. -/
def spent (b : Builder) : Builder := { b with resolved := true }

/-- The event that announces a statement. -/
def announcement (op : Operation) (compiled : Compiled) : LogEvent where
  source := .chains
  level := .debug
  message := "Executing compiled query"
  extra := op.telemetry
    ++ [("sql", .text compiled.sql), ("param_count", .int compiled.params.length)]
  error := .unasked

/-- The failure of an executor, wrapped with its text. -/
def executionFailure (table : Value) (sql : String) (f : Failure) (text : String) : Failure :=
  .coded (CodedError.executing sql f text [(.text "table", table)])

/-- The result of what the executor ended with.  A reported error is kept, and any other one is
wrapped with its text; if the text is refused, there is no result, and the refusal is passed on. -/
def settle (fetch : Fetch) (table : Value) (sql : String) :
    Except Failure Reply → Action σ QueryResult
  | .ok reply => Action.ofExcept (reply.rows.map fun rows => QueryResult.success (fetch.data rows))
  | .error (.coded e) => Action.ofExcept (QueryResult.failure (.coded e))
  | .error f =>
    if f.isError then do
      let text ← Action.awaitText f
      let wrapped := executionFailure table sql f text
      Action.emit (wrapped.events.map .log)
      Action.ofExcept (QueryResult.failure wrapped)
    else Action.ofExcept (.error f)

/-- The result of a builder.  A builder that was resolved before fails without a statement. -/
def resolve (db : Database σ) (fetch : Fetch) (b : Builder) : Action σ QueryResult :=
  if b.resolved then Action.fail (.coded (CodedError.consumed b.chain.table))
  else do
    let op ← Action.check b.chain.toOperation
    let compiled ← Action.check (db.rules.compile op)
    Action.log (announcement op compiled)
    let ended ← (db.executor.query compiled.sql compiled.params).attempt
    settle fetch b.chain.table compiled.sql ended

end Builder

namespace Database

variable {σ : Type}

/-- The event of a failed probe, with the text of the failure. -/
def probeFailed (executorName : String) (f : Failure) (text : String) : LogEvent where
  source := .databases
  level := .error
  message := "Database health check failed"
  extra := [("executor", .text executorName), ("error", .text text)]
  error := .handled f.kindName

/-- Probes the database with a statement; a failure is logged, if it has a text. -/
def isHealthy (db : Database σ) : Action σ Bool := do
  match ← (db.executor.query "SELECT 1" []).attempt with
  | .ok _ => return true
  | .error f =>
    if f.isError then
      let text ← Action.awaitText f
      Action.log (probeFailed db.executor.name f text)
      return false
    else Action.ofExcept (.error f)

/-- Releases the resources of the executor, if it holds any. -/
def close (db : Database σ) : Action σ Unit := db.executor.dispose.getD (pure ())

end Database

/-- A builder that was resolved makes no calls. -/
theorem Builder.calls_resolve_of_resolved {σ : Type} (db : Database σ) (fetch : Fetch)
    {b : Builder} (h : b.resolved = true) (s : σ) :
    Event.calls ((b.resolve db fetch).run s).events = [] := by
  simp [resolve, h]

end QueryChain
