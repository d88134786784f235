import QueryChain.Log.Context
import QueryChain.Log.Line

/-!
# Runs of the log

A run changes the contexts and writes records.  Part of a run may be isolated: the context of the
request is then as before once it ends, and the context of the process is not.

## Main definitions

* `LogStep`, `LogAnswer` — a step of a run, and what it answers.
* `LogStep.run`, `LogStep.runAll` — running one step, and several.
-/

set_option relaxedAutoImplicit false
set_option autoImplicit false

namespace QueryChain

/-- A step of a run.  A record may be written without regard to the contexts, and a step whose
values cannot be read is refused. -/
inductive LogStep where
  | configure (environment : Value) (extra : Fields)
  | merge (given : Fields)
  | clear
  | isolated (steps : List LogStep)
  | write (r : LogRecord) (inContext : Bool)
  | refused (f : Fault)

/-- What a step answers. -/
inductive LogAnswer where
  | done
  | answers (xs : List LogAnswer)
  | line (inContext : Bool) (text : String)
  | failed (f : Fault)

namespace LogStep

/-- The line of a record, or why there is none. -/
def writeLine (c : LogContext) (r : LogRecord) (inContext : Bool) : LogAnswer :=
  match (if inContext then c.applyTo r else r).line with
  | .ok text => .line inContext text
  | .error f => .failed f

mutual

/-- Runs one step. -/
def run (c : LogContext) : LogStep → LogContext × LogAnswer
  | configure environment extra => (c.configure environment extra, .done)
  | merge given => (c.merge given, .done)
  | clear => (c.clear, .done)
  | isolated steps =>
    let (after, answers) := runAll c steps
    ({ after with request := c.request }, .answers answers)
  | write r inContext => (c, writeLine c r inContext)
  | refused f => (c, .failed f)

/-- Runs steps one after the other. -/
def runAll (c : LogContext) : List LogStep → LogContext × List LogAnswer
  | [] => (c, [])
  | step :: steps =>
    let (next, answer) := run c step
    let (last, answers) := runAll next steps
    (last, answer :: answers)

end

end LogStep

end QueryChain
