import QueryChain.Execution.Action

/-!
# Traced actions

A traced action runs inside a span.  The attributes of the span are found first, and a failure to
find them is logged and does not keep the action from running.  A failure of the action is recorded
on the span, which is marked as failed with its text, and passed on; a cancellation is passed on
without a record.

The texts are asked for and may be refused.  An error of the getter whose text is refused keeps the
action from running, and an error of the action whose text is refused gives way to the refusal.  The
span is part of a program that comes to its end by a signal, so that no refusal leaves it as one.

## Main definitions

* `Span.finish` — the span of an outcome.
* `Action.attributes` — the attributes of a span.
* `Action.traced` — an action inside a span.
-/

set_option relaxedAutoImplicit false
set_option autoImplicit false

namespace QueryChain

/-- The span of an outcome: errors are recorded, cancellations are not.  The text of an error is the
status of the span, if it can be had. -/
def Span.finish {α : Type} (label : SpanLabel) (attributes : Value.Entries)
    (outcome : Except Failure α) : Span :=
  match outcome with
  | .ok _ => ⟨label, attributes, none, none⟩
  | .error f =>
    if f.isError then ⟨label, attributes, some f.kindName, f.text.toOption⟩
    else ⟨label, attributes, none, none⟩

namespace Action

variable {σ α : Type}

/-- The event of a failure to find attributes, with the text of the failure. -/
def attributesFailed (text : String) : LogEvent where
  source := .tracing
  level := .warning
  message := "Span attribute getter failed"
  extra := [("error", .text text)]
  error := .unasked

/-- The attributes that were found, without the null ones.  Whatever counts as empty stands for no
attributes; anything else has to be a mapping. -/
def present (found : Value) : Except Failure Value.Entries :=
  if found.truthy then
    match found with
    | .map entries => .ok (entries.filter fun entry => !entry.2.isNull)
    | v => .error (.fault (.noMember v.qualifiedKindName "items"))
  else .ok []

/-- The attributes of a span; none if an error keeps them from being found. -/
def attributes (find : Action σ Value) : Action σ Value.Entries := do
  match ← find.attempt with
  | .ok v => ofExcept (present v)
  | .error f =>
    if f.isError then
      let text ← textOf f
      log (attributesFailed text)
      return []
    else ofExcept (.error f)

/-- An action inside a span.  If finding the attributes is cancelled, if something else than a
mapping is found, or if an error in finding them refuses its text, the action does not run. -/
def traced (label : SpanLabel) (find : Action σ Value) (body : Action σ α) : Action σ α := do
  match ← (attributes find).attempt with
  | .error f =>
    emit [.span (Span.bare label)]
    ofExcept (.error (f.leaving "generator"))
  | .ok entries =>
    let ended ← body.attempt
    emit [.span (Span.finish label entries ended)]
    ofExcept (ended.mapError Failure.passing)

end Action

end QueryChain
