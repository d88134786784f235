import QueryChain.Log.Event
import QueryChain.Placeholder.Style

/-!
# Events of a run

What can be observed of a run besides its outcome: calls to a driver, events of the log, and spans
of the trace.

## Main definitions

* `DriverCall` — what a driver is asked to do.
* `SpanKind`, `SpanLabel`, `Span` — a span of the trace.
* `Event` — one observed event, with `Event.calls`, `Event.logs` and `Event.spans` for all of a
  kind.
-/

set_option relaxedAutoImplicit false
set_option autoImplicit false

namespace QueryChain

/-- What a driver is asked to do: to run a query as it is written, or, step by step, to connect, to
begin a transaction, to run a statement in it, and to end it. -/
inductive DriverCall where
  | query (sql : String) (params : List Value)
  | connect (url : String) (options : Fields)
  | begin
  | statement (sql : String) (bound : Option BoundParams)
  | commit
  | rollback
  | dispose
deriving Repr

/-- The role of a span. -/
inductive SpanKind where
  | internal
  | server
  | client
  | producer
  | consumer
deriving DecidableEq, Repr

namespace SpanKind

/-- The name of a role. -/
def name : SpanKind → String
  | internal => "INTERNAL"
  | server => "SERVER"
  | client => "CLIENT"
  | producer => "PRODUCER"
  | consumer => "CONSUMER"

/-- All roles. -/
def all : List SpanKind := [internal, server, client, producer, consumer]

/-- The role of a name. -/
def ofName? (s : String) : Option SpanKind := all.find? fun kind => kind.name == s

end SpanKind

/-- What a span says of its origin: the tracer, its name and its role. -/
structure SpanLabel where
  tracer : String
  name : String
  kind : SpanKind
deriving DecidableEq, Repr

/-- The label of the span of a function: named after the module and the function, unless a name is
given. -/
def SpanLabel.ofFunction (module function name : String) (kind : SpanKind) : SpanLabel :=
  ⟨module, if name = "" then module ++ "." ++ function else name, kind⟩

/-- A span of the trace: the kind of the failure that is recorded of it, and the text with which it
is marked as failed. -/
structure Span where
  label : SpanLabel
  attributes : Value.Entries
  recorded : Option String
  status : Option String
deriving Repr

/-- A span when it is opened. -/
def Span.bare (label : SpanLabel) : Span := ⟨label, [], none, none⟩

/-- One observed event of a run. -/
inductive Event where
  | call (c : DriverCall)
  | log (e : LogEvent)
  | span (s : Span)
deriving Repr

namespace Event

/-- The call of an event. -/
def call? : Event → Option DriverCall
  | call c => some c
  | _ => none

/-- The log event of an event. -/
def log? : Event → Option LogEvent
  | log e => some e
  | _ => none

/-- The span of an event. -/
def span? : Event → Option Span
  | span s => some s
  | _ => none

/-- The calls among events. -/
def calls (events : List Event) : List DriverCall := events.filterMap call?

/-- The log events among events. -/
def logs (events : List Event) : List LogEvent := events.filterMap log?

/-- The spans among events. -/
def spans (events : List Event) : List Span := events.filterMap span?

@[simp] theorem calls_append (xs ys : List Event) : calls (xs ++ ys) = calls xs ++ calls ys := by
  simp [calls]

@[simp] theorem logs_append (xs ys : List Event) : logs (xs ++ ys) = logs xs ++ logs ys := by
  simp [logs]

@[simp] theorem spans_append (xs ys : List Event) : spans (xs ++ ys) = spans xs ++ spans ys := by
  simp [spans]

/-- Log events make no calls. -/
@[simp] theorem calls_map_log (es : List LogEvent) : calls (es.map log) = [] := by
  simp [calls, List.filterMap_map, Function.comp_def, call?]

/-- Log events make no spans. -/
@[simp] theorem spans_map_log (es : List LogEvent) : spans (es.map log) = [] := by
  simp [spans, List.filterMap_map, Function.comp_def, span?]

end Event

end QueryChain
