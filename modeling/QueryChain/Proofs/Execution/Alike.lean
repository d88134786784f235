import QueryChain.Execution.Traced

/-!
# Runs that look alike

Two runs look alike to somebody who sees their outcomes, their log and their spans, and not the
calls to the driver.  Here that is a relation of two actions, over a relation of the states in which
they start and one of the values with which they end.  Every way to put actions together keeps it,
so that two programs look alike when their steps do.

## Main definitions

* `Ends` — two outcomes that are the same failure, or related values.
* `Ran.Alike`, `Action.Alike` — runs, and actions, that look alike.

## Main results

* `Action.Alike.bind` — one action after another.
* `Action.Alike.call` — calls cannot be told apart.
* `Action.Alike.traced` — actions inside a span.
-/

set_option relaxedAutoImplicit false
set_option autoImplicit false

namespace QueryChain

variable {σ α β γ δ : Type} {S : σ → σ → Prop} {R : α → β → Prop} {T : γ → δ → Prop}

/-! ### Outcomes -/

/-- Two outcomes that are the same failure, or related values. -/
inductive Ends (R : α → β → Prop) : Except Failure α → Except Failure β → Prop
  | ok {a : α} {b : β} (h : R a b) : Ends R (.ok a) (.ok b)
  | error (f : Failure) : Ends R (.error f) (.error f)

namespace Ends

/-- An outcome ends as itself. -/
theorem refl (x : Except Failure α) : Ends Eq x x := by
  cases x with
  | ok a => exact ok rfl
  | error f => exact error f

/-- Outcomes with equal values are equal. -/
theorem eq {x y : Except Failure α} (h : Ends Eq x y) : x = y := by
  cases h with
  | ok e => rw [e]
  | error f => rfl

/-- Outcomes with their values changed. -/
theorem map {x : Except Failure α} {y : Except Failure β} (h : Ends R x y) {f : α → γ} {g : β → δ}
    (related : ∀ a b, R a b → T (f a) (g b)) : Ends T (x.map f) (y.map g) := by
  cases h with
  | ok r => exact ok (related _ _ r)
  | error f => exact error f

/-- Outcomes with their failure changed. -/
theorem mapError {x : Except Failure α} {y : Except Failure β} (h : Ends R x y)
    (g : Failure → Failure) : Ends R (x.mapError g) (y.mapError g) := by
  cases h with
  | ok r => exact ok r
  | error f => exact error (g f)

/-- One outcome after another. -/
theorem bind {x : Except Failure α} {y : Except Failure β} (h : Ends R x y)
    {f : α → Except Failure γ} {g : β → Except Failure δ}
    (related : ∀ a b, R a b → Ends T (f a) (g b)) : Ends T (x >>= f) (y >>= g) := by
  cases h with
  | ok r => exact related _ _ r
  | error f => exact error f

end Ends

/-! ### Runs -/

/-- Two runs that differ in their calls at most, with related values and related states. -/
structure Ran.Alike (S : σ → σ → Prop) (R : α → β → Prop) (x : Ran σ α) (y : Ran σ β) : Prop where
  outcome : Ends R x.outcome y.outcome
  state : S x.state y.state
  logs : Event.logs x.events = Event.logs y.events
  spans : Event.spans x.events = Event.spans y.events

namespace Action

/-- Two actions whose runs look alike from related states. -/
def Alike (S : σ → σ → Prop) (R : α → β → Prop) (x : Action σ α) (y : Action σ β) : Prop :=
  ∀ s t, S s t → (x.run s).Alike S R (y.run t)

namespace Alike

/-- Values at hand. -/
theorem pure {a : α} {b : β} (h : R a b) :
    Alike S R (Pure.pure a : Action σ α) (Pure.pure b) :=
  fun _ _ states => ⟨.ok h, states, rfl, rfl⟩

/-- One action after another. -/
theorem bind {x : Action σ α} {y : Action σ β} (first : Alike S R x y) {f : α → Action σ γ}
    {g : β → Action σ δ} (second : ∀ a b, R a b → Alike S T (f a) (g b)) :
    Alike S T (x >>= f) (y >>= g) := by
  intro s t states
  obtain ⟨outcome, states, logs, spans⟩ := first s t states
  rw [run_bind, run_bind]
  revert outcome
  generalize (x.run s).outcome = a, (y.run t).outcome = b
  intro outcome
  cases outcome with
  | error f => exact ⟨.error f, states, logs, spans⟩
  | ok related =>
    obtain ⟨outcome', states', logs', spans'⟩ := second _ _ related _ _ states
    refine ⟨outcome', states', ?_, ?_⟩
    · rw [Event.logs_append, Event.logs_append, logs, logs']
    · rw [Event.spans_append, Event.spans_append, spans, spans']

/-- Calls cannot be told apart. -/
theorem call (c d : DriverCall) : Alike S Eq (Action.call c) (Action.call d) :=
  fun _ _ states => ⟨.ok rfl, states, rfl, rfl⟩

/-- The same log event. -/
theorem log (e : LogEvent) : Alike S Eq (Action.log e) (Action.log e) :=
  fun _ _ states => ⟨.ok rfl, states, rfl, rfl⟩

/-- The same span. -/
theorem span (s : Span) : Alike S Eq (Action.emit [.span s]) (Action.emit [.span s]) :=
  fun _ _ states => ⟨.ok rfl, states, rfl, rfl⟩

/-- The states themselves. -/
theorem get : Alike S S Action.get Action.get :=
  fun _ _ states => ⟨.ok states, states, rfl, rfl⟩

/-- New states. -/
theorem put {s t : σ} (h : S s t) : Alike S Eq (Action.put s) (Action.put t) :=
  fun _ _ _ => ⟨.ok rfl, h, rfl, rfl⟩

/-- The same failure. -/
theorem fail (f : Failure) : Alike S R (Action.fail f) (Action.fail f) :=
  fun _ _ states => ⟨.error f, states, rfl, rfl⟩

/-- Outcomes. -/
theorem ofExcept {x : Except Failure α} {y : Except Failure β} (h : Ends R x y) :
    Alike S R (Action.ofExcept x) (Action.ofExcept y) :=
  fun _ _ states => ⟨h, states, rfl, rfl⟩

/-- Outcomes whose failure is logged. -/
theorem check {x : Except Failure α} {y : Except Failure β} (h : Ends R x y) :
    Alike S R (Action.check x) (Action.check y) := by
  cases h with
  | ok related => exact pure related
  | error f => exact fail f

/-- Actions whose failure is taken as a value. -/
theorem attempt {x : Action σ α} {y : Action σ β} (h : Alike S R x y) :
    Alike S (Ends R) x.attempt y.attempt := by
  intro s t states
  obtain ⟨outcome, states, logs, spans⟩ := h s t states
  exact ⟨.ok outcome, states, logs, spans⟩

/-- The text of a failure. -/
theorem textOf (f : Failure) : Alike S Eq (Action.textOf f) (Action.textOf f) := ofExcept (.refl _)

/-- A program that comes to its end by a signal. -/
theorem leaving {x : Action σ α} {y : Action σ β} (h : Alike S R x y) (program : String) :
    Alike S R (x.leaving program) (y.leaving program) := by
  intro s t states
  obtain ⟨outcome, states, logs, spans⟩ := h s t states
  exact ⟨outcome.mapError _, states, logs, spans⟩

/-- Attributes that are found in the same way. -/
theorem attributes {x y : Action σ Value} (h : Alike S Eq x y) :
    Alike S Eq (Action.attributes x) (Action.attributes y) := by
  refine h.attempt.bind fun ended ended' same => ?_
  obtain rfl := same.eq
  cases ended with
  | ok v => exact ofExcept (.refl _)
  | error f =>
    simp only
    split
    · refine (textOf f).bind ?_
      rintro text _ rfl
      exact (Alike.log _).bind fun _ _ _ => pure rfl
    · exact ofExcept (.refl _)

/-- The span of related outcomes is the same. -/
theorem finish (label : SpanLabel) (entries : Value.Entries) {x : Except Failure α}
    {y : Except Failure β} (h : Ends R x y) :
    Span.finish label entries x = Span.finish label entries y := by
  cases h with
  | ok related => rfl
  | error f => rfl

/-- Actions inside spans whose attributes are found in the same way. -/
theorem traced (label : SpanLabel) {find find' : Action σ Value} (found : Alike S Eq find find')
    {x : Action σ α} {y : Action σ β} (body : Alike S R x y) :
    Alike S R (Action.traced label find x) (Action.traced label find' y) := by
  refine found.attributes.attempt.bind fun ended ended' same => ?_
  obtain rfl := same.eq
  cases ended with
  | error f => exact (Alike.span _).bind fun _ _ _ => ofExcept (.error _)
  | ok entries =>
    refine body.attempt.bind fun ended ended' related => ?_
    rw [finish label entries related]
    exact (Alike.span _).bind fun _ _ _ => ofExcept (related.mapError _)

end Alike

end Action

end QueryChain
