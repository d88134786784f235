import QueryChain.Execution.Event
import QueryChain.Failure.Report

/-!
# Actions

An action runs on a state.  It ends with a value or a failure, leaves a state behind, and emits
events on the way; a failure undoes neither the state nor the events.

## Main definitions

* `Ran` — the outcome, the state and the events of a run; `Action` — what can be run.
* `Action.emit`, `Action.fail`, `Action.attempt` — emitting, failing, and taking a failure as a
  value; `Action.check` — failing as a check does.
* `Action.leaving` — a program of which a signal that ends an iteration must not be taken for its
  own end.
* `Action.textOf`, `Action.awaitText` — asking for a text.
* `Answer` — what the world outside answers, with the log events that its failure was built with.

## Main results

* `Action.run_pure`, `Action.run_bind` — running one action after another appends their events.
-/

set_option relaxedAutoImplicit false
set_option autoImplicit false

namespace QueryChain

/-- The outcome, the state and the events of a run. -/
structure Ran (σ α : Type) where
  outcome : Except Failure α
  state : σ
  events : List Event

/-- What can be run on a state. -/
def Action (σ α : Type) : Type := σ → Ran σ α

/-- What the world outside answers: the log events that were written before it answered, and the
outcome. -/
structure Answer (α : Type) where
  logged : List LogEvent
  outcome : Except Failure α

/-- An answer without a failure. -/
def Answer.ok {α : Type} (a : α) : Answer α := ⟨[], .ok a⟩

namespace Action

variable {σ τ α β : Type}

/-- Runs an action on a state. -/
def run (x : Action σ α) (s : σ) : Ran σ α := x s

instance : Monad (Action σ) where
  pure a := fun s => ⟨.ok a, s, []⟩
  bind x f := fun s =>
    let first := x s
    match first.outcome with
    | .ok a =>
      let second := f a first.state
      ⟨second.outcome, second.state, first.events ++ second.events⟩
    | .error e => ⟨.error e, first.state, first.events⟩

/-- Emits events. -/
def emit (events : List Event) : Action σ Unit := fun s => ⟨.ok (), s, events⟩

/-- Emits a call. -/
def call (c : DriverCall) : Action σ Unit := emit [.call c]

/-- Emits a log event. -/
def log (e : LogEvent) : Action σ Unit := emit [.log e]

/-- The state. -/
def get : Action σ σ := fun s => ⟨.ok s, s, []⟩

/-- Replaces the state. -/
def put (s : σ) : Action σ Unit := fun _ => ⟨.ok (), s, []⟩

/-- Ends with an outcome. -/
def ofExcept (x : Except Failure α) : Action σ α := fun s => ⟨x, s, []⟩

/-- Ends with a failure that is built now, and so logged. -/
def fail (f : Failure) : Action σ α := fun s => ⟨.error f, s, f.events.map .log⟩

/-- Ends with an outcome whose failure is built now, and so logged. -/
def check (x : Except Failure α) : Action σ α :=
  match x with
  | .ok a => pure a
  | .error f => fail f

/-- Takes the outcome of an action as a value. -/
def attempt (x : Action σ α) : Action σ (Except Failure α) := fun s =>
  let ran := x s
  ⟨.ok ran.outcome, ran.state, ran.events⟩

/-- The text of a failure; one that is refused ends the run with the refusal. -/
def textOf (f : Failure) : Action σ String := ofExcept f.said

/-- An action as a program that comes to its end by a signal itself. -/
def leaving (program : String) (x : Action σ α) : Action σ α := fun s =>
  let ran := x s
  ⟨ran.outcome.mapError (Failure.leaving program), ran.state, ran.events⟩

/-- The text of a failure, asked for in a program that is awaited, which comes to its end by a
signal. -/
def awaitText (f : Failure) : Action σ String := (textOf f).leaving "coroutine"

/-- Ends as the world outside answers. -/
def answer (a : Answer α) : Action σ α := fun s => ⟨a.outcome, s, a.logged.map .log⟩

/-- Runs an action on the first part of a state. -/
def onFirst (x : Action σ α) : Action (σ × τ) α := fun s =>
  let ran := x s.1
  ⟨ran.outcome, (ran.state, s.2), ran.events⟩

/-- Runs an action on the second part of a state. -/
def onSecond (x : Action τ α) : Action (σ × τ) α := fun s =>
  let ran := x s.2
  ⟨ran.outcome, (s.1, ran.state), ran.events⟩

@[simp] theorem run_pure (a : α) (s : σ) : (pure a : Action σ α).run s = ⟨.ok a, s, []⟩ := rfl

/-- Running one action after another appends their events; a failure of the first ends the run. -/
theorem run_bind (x : Action σ α) (f : α → Action σ β) (s : σ) :
    (x >>= f).run s =
      match (x.run s).outcome with
      | .ok a =>
        ⟨((f a).run (x.run s).state).outcome, ((f a).run (x.run s).state).state,
          (x.run s).events ++ ((f a).run (x.run s).state).events⟩
      | .error e => ⟨.error e, (x.run s).state, (x.run s).events⟩ := rfl

@[simp] theorem run_emit (events : List Event) (s : σ) :
    (emit events).run s = ⟨.ok (), s, events⟩ := rfl

@[simp] theorem run_call (c : DriverCall) (s : σ) : (call c).run s = ⟨.ok (), s, [.call c]⟩ := rfl

@[simp] theorem run_log (e : LogEvent) (s : σ) : (log e).run s = ⟨.ok (), s, [.log e]⟩ := rfl

@[simp] theorem run_get (s : σ) : (get : Action σ σ).run s = ⟨.ok s, s, []⟩ := rfl

@[simp] theorem run_put (s t : σ) : (put t).run s = ⟨.ok (), t, []⟩ := rfl

@[simp] theorem run_ofExcept (x : Except Failure α) (s : σ) : (ofExcept x).run s = ⟨x, s, []⟩ := rfl

@[simp] theorem run_fail (f : Failure) (s : σ) :
    (fail f : Action σ α).run s = ⟨.error f, s, f.events.map .log⟩ := rfl

@[simp] theorem run_check_ok (a : α) (s : σ) :
    (check (.ok a) : Action σ α).run s = ⟨.ok a, s, []⟩ := rfl

@[simp] theorem run_check_error (f : Failure) (s : σ) :
    (check (.error f) : Action σ α).run s = ⟨.error f, s, f.events.map .log⟩ := rfl

@[simp] theorem run_attempt (x : Action σ α) (s : σ) :
    x.attempt.run s = ⟨.ok (x.run s).outcome, (x.run s).state, (x.run s).events⟩ := rfl

@[simp] theorem run_textOf (f : Failure) (s : σ) : (textOf f).run s = ⟨f.said, s, []⟩ := rfl

@[simp] theorem run_answer (a : Answer α) (s : σ) :
    (answer a).run s = ⟨a.outcome, s, a.logged.map .log⟩ := rfl

@[simp] theorem run_onFirst (x : Action σ α) (s : σ) (t : τ) :
    (x.onFirst : Action (σ × τ) α).run (s, t)
      = ⟨(x.run s).outcome, ((x.run s).state, t), (x.run s).events⟩ := rfl

@[simp] theorem run_onSecond (x : Action τ α) (s : σ) (t : τ) :
    (x.onSecond : Action (σ × τ) α).run (s, t)
      = ⟨(x.run t).outcome, (s, (x.run t).state), (x.run t).events⟩ := rfl

end Action

end QueryChain
