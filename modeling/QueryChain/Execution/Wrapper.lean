import QueryChain.Execution.Manager
import QueryChain.Execution.Traced

/-!
# Functions inside spans

A wrapped function runs inside a span of its own at every call.  The span is kept by a tracer, which
is asked to open it, to note attributes and a failure, and to close it.  What stands around the
function is a program that pauses while the function runs, inside the manager of the span: it finds
the attributes before its pause, and notes a failure that is thrown in.

A function is called plainly or awaited.  What runs when it is awaited comes to its end by a signal,
so that no such signal leaves it.

## Main definitions

* `TracerCall`, `Tracer` — what a tracer is asked to do, and a tracer; `Tracer.collecting` — the
  tracer that collects spans.
* `Arguments`, `Convention` — the arguments of a call, and how it is made.
* `Wrapped` — a function with its span; `Wrapped.bare` — a call of the function by itself, and
  `Wrapped.invoke` — inside the span.
-/

set_option relaxedAutoImplicit false
set_option autoImplicit false

namespace QueryChain

/-! ### Tracers -/

/-- What a tracer is asked to do: to open a span; while it is open, to note an attribute, to record
a failure, and to mark the span as failed with a text; and to close it, with the failure that passes
through, if any. -/
inductive TracerCall where
  | opened (label : SpanLabel)
  | noted (key value : Value)
  | recorded (f : Failure)
  | failed (text : String)
  | closed (passing : Option Failure)

/-- A tracer with a state of its own.  It may fail at any call; otherwise it answers, when a span is
closed, whether the failure that passes through is kept. -/
def Tracer (τ : Type) : Type := TracerCall → τ → Except Failure Bool × τ

namespace Tracer

variable {σ τ : Type}

/-- Asks a tracer, beside a state that it does not know. -/
def ask (t : Tracer τ) (c : TracerCall) : Action (σ × τ) Bool := fun s =>
  ⟨(t c s.2).1, (s.1, (t c s.2).2), []⟩

/-- Tells a tracer something that it has no answer to. -/
def tell (t : Tracer τ) (c : TracerCall) : Action (σ × τ) Unit := do
  let _ ← t.ask c

/-- Tells a tracer several things, one after the other. -/
def tellAll (t : Tracer τ) : List TracerCall → Action (σ × τ) Unit
  | [] => pure ()
  | c :: calls => do
    t.tell c
    t.tellAll calls

/-- Records a failure, and marks the span as failed with its text, which is asked for in between. -/
def record (t : Tracer τ) (f : Failure) : Action (σ × τ) Unit := do
  t.tell (.recorded f)
  let text ← Action.textOf f
  t.tell (.failed text)

/-- The manager of a span. -/
def manager (t : Tracer τ) (label : SpanLabel) : Manager (σ × τ) Unit where
  enter := t.tell (.opened label)
  leave _ failure := t.ask (.closed failure)

end Tracer

/-- A span with what the tracer is asked to note of it. -/
def Span.note (s : Span) : TracerCall → Span
  | .noted key value => { s with attributes := Value.Entries.set s.attributes key value }
  | .recorded f => { s with recorded := some f.kindName }
  | .failed text => { s with status := some text }
  | .opened _ | .closed _ => s

/-- The tracer that collects spans, the last one first.  It never fails and keeps no failure. -/
def Tracer.collecting : Tracer (List Span) := fun c spans =>
  (.ok false,
    match c, spans with
    | .opened label, _ => Span.bare label :: spans
    | c, s :: rest => s.note c :: rest
    | _, [] => [])

/-! ### Functions -/

/-- The arguments of a call, by place and by name. -/
structure Arguments where
  placed : List Value
  named : Fields

/-- How a function is called. -/
inductive Convention where
  | plain
  | awaited
deriving DecidableEq, Repr

/-- What runs when a function is called.  What is awaited comes to its end by a signal. -/
def Convention.program {σ α : Type} (c : Convention) (x : Action σ α) : Action σ α :=
  match c with
  | plain => x
  | awaited => x.leaving "coroutine"

/-- A function with the label of its span, and with the getter of the span's attributes, if there is
one.  The getter is called with the arguments of the function. -/
structure Wrapped (σ α : Type) where
  label : SpanLabel
  convention : Convention
  getter : Option (Arguments → Action σ Value)
  body : Arguments → Action σ α

namespace Wrapped

variable {σ τ α : Type}

/-- A call of the function by itself. -/
def bare (w : Wrapped σ α) (args : Arguments) : Action σ α := w.convention.program (w.body args)

/-- What the getter finds for a call; null if there is none. -/
def find (w : Wrapped σ α) (args : Arguments) : Action σ Value :=
  match w.getter with
  | some getter => getter args
  | none => pure .null

/-- What stands around the function inside the span: the attributes are found and noted before it
runs, and a failure is recorded after it, unless it is none to record.  If the failure refuses its
text, the refusal is a failure of what stands around. -/
def surroundings (w : Wrapped σ α) (t : Tracer τ) (args : Arguments) :
    Pausing (σ × τ) Unit where
  start := do
    let entries ← (Action.attributes (w.find args)).onFirst
    t.tellAll (entries.map fun entry => .noted entry.1 entry.2)
  goOn _ := pure ()
  throwIn _ f := do
    if f.isError then t.record f
    return true

/-- A call of the function inside its span.  There is no value if the tracer keeps a failure. -/
def invoke (w : Wrapped σ α) (t : Tracer τ) (args : Arguments) : Action (σ × τ) (Option α) :=
  w.convention.program
    (((t.manager w.label).pausing fun _ => w.surroundings t args).manager.around fun _ =>
      (w.bare args).onFirst)

end Wrapped

end QueryChain
