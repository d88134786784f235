import QueryChain.Value.Basic

/-!
# Log events

What the library itself writes to the log: a source, a level, a message, named fields, and the
error that was being handled if the event asks for it.

## Main definitions

* `LogLevel` — the levels in use; `LogSource` — the parts of the library that write events.
* `LogEvent` — one event.
-/

set_option relaxedAutoImplicit false
set_option autoImplicit false

namespace QueryChain

/-- The name of the library, as logs give it. -/
def libraryName : String := "fleetql"

/-- The version of the library, as logs and spans give it. -/
def libraryVersion : String := "0.1.0"

/-- The level of an event. -/
inductive LogLevel where
  | debug
  | info
  | warning
  | error
deriving DecidableEq, Repr

/-- The name of a level. -/
def LogLevel.name : LogLevel → String
  | debug => "DEBUG"
  | info => "INFO"
  | warning => "WARNING"
  | error => "ERROR"

/-- The parts of the library that write events. -/
inductive LogSource where
  | failures
  | chains
  | databases
  | engines
  | tracing
deriving DecidableEq, Repr

/-- The logger that a part of the library writes to. -/
def LogSource.logger : LogSource → String
  | failures => "fleetql.common.exceptions"
  | chains => "fleetql.query_builder.fluent"
  | databases => "fleetql.query_builder.factory"
  | engines => "fleetql.engines.base"
  | tracing => "fleetql.utils.decorators"

/-- The error of an event: the event may not ask for one, or ask while none is being handled. -/
inductive LoggedError where
  | unasked
  | absent
  | handled (kind : String)
deriving DecidableEq, Repr

/-- One event of the library's log. -/
structure LogEvent where
  source : LogSource
  level : LogLevel
  message : String
  extra : Fields
  error : LoggedError
deriving Repr

end QueryChain
