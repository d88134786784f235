import QueryChain.Execution.Action
import QueryChain.Schema.Results

/-!
# Executors

An executor runs one statement with its parameters and hands back rows, or fails.  It may hold
resources that can be released.

## Main definitions

* `Reply` — what an executor hands back.
* `Executor` — a way to run statements, over a state of its own.
* `Executor.scripted` — an executor that answers from a script.
-/

set_option relaxedAutoImplicit false
set_option autoImplicit false

namespace QueryChain

/-- What an executor hands back: a driver result, or a loose value with the rows in it. -/
inductive Reply where
  | result (r : DriverResult)
  | value (v : Value)
deriving Repr

/-- A way to run statements: the name it has in logs, how it runs one statement, and how it releases
its resources if it holds any. -/
structure Executor (σ : Type) where
  name : String
  query : String → List Value → Action σ Reply
  dispose : Option (Action σ Unit)

namespace Executor

/-- The answers still to be given, in order. -/
abbrev Script := List (Answer Reply)

/-- The answer to a query when the script has come to its end: no rows. -/
def noRows : Answer Reply := Answer.ok (.result DriverResult.empty)

/-- Records a query and takes the next answer of the script. -/
def scriptedQuery (sql : String) (params : List Value) : Action Script Reply := do
  Action.call (.query sql params)
  match ← Action.get with
  | [] => Action.answer noRows
  | next :: rest =>
    Action.put rest
    Action.answer next

/-- An executor that records every query and answers from a script.  A disposable one records its
release too. -/
def scripted (name : String) (disposable : Bool) : Executor Script where
  name := name
  query := scriptedQuery
  dispose := if disposable then some (Action.call .dispose) else none

/-- A scripted query makes one call, of the query as it is. -/
theorem calls_scriptedQuery (sql : String) (params : List Value) (script : Script) :
    Event.calls ((scriptedQuery sql params).run script).events = [.query sql params] := by
  cases script with
  | nil => simp [scriptedQuery, Action.run_bind, noRows, Answer.ok, Event.calls, Event.call?]
  | cons next rest =>
    simp [scriptedQuery, Action.run_bind, Event.calls, Event.call?, Function.comp_def]

end Executor

end QueryChain
