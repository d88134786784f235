import QueryChain.Execution.Traced

/-!
# Runs of actions

Once the first of two actions has run, what is left is the run of the second one from the state that
the first one left behind.  An action inside a span runs as it does alone, once its attributes are
found, and passes its failure on.

## Main results

* `Action.run_bind_of_ok`, `Action.run_bind_of_error` — an action behind one whose run is known.
* `Action.run_bind_pure` — an action with its value changed.
* `Action.check_ok_bind` — an action behind a check that passes.
* `Action.run_awaitText_of_text`, `Action.run_awaitText_of_refusal` — asking for a text.
* `Failure.passing_eq_self_iff` — a failure is passed on as it is unless it refuses its text.
* `Failure.text_oversized` — an error that refuses its text.
* `Action.run_attributes_of_ok`, `Action.run_attributes_of_error`,
  `Action.run_attributes_of_refusal` — the attributes of a span, by what finding them ends with.
* `Action.run_traced_of_attributes`, `Action.run_traced_of_attributes_error` — an action inside a
  span, by what comes of the attributes.
-/

set_option relaxedAutoImplicit false
set_option autoImplicit false

namespace QueryChain

/-! ### Texts -/

namespace Failure

variable {f : Failure} {text : String} {r : Refusal}

/-- A text that can be had is said. -/
theorem said_of_text (h : f.text = .ok text) : f.said = .ok text := by
  rw [said, h]

/-- A text that is refused ends with the refusal. -/
theorem said_of_refusal (h : f.text = .error r) : f.said = .error r.failure := by
  rw [said, h]

/-- A failure that tells its text refuses nothing. -/
theorem refusal?_of_text (h : f.text = .ok text) : f.refusal? = none := by
  rw [refusal?, h]
  cases f.isError <;> rfl

/-- What is no error is not asked. -/
theorem refusal?_of_not_isError (h : f.isError = false) : f.refusal? = none := by
  rw [refusal?, h]

/-- The refusal of an error that refuses its text. -/
theorem refusal?_of_error (error : f.isError = true) (h : f.text = .error r) :
    f.refusal? = some r.failure := by
  rw [refusal?, error, h]

/-- Only errors refuse their text. -/
theorem isError_of_refusal? {refusal : Failure} (h : f.refusal? = some refusal) :
    f.isError = true := by
  cases error : f.isError with
  | true => rfl
  | false =>
    rw [refusal?_of_not_isError error] at h
    cases h

/-- A failure that refuses nothing is passed on as it is. -/
theorem passing_of_none (h : f.refusal? = none) : f.passing = f := by
  rw [passing, h]

/-- An error that refuses its text gives way to the refusal. -/
theorem passing_of_some {refusal : Failure} (h : f.refusal? = some refusal) :
    f.passing = refusal.leaving "generator" := by
  rw [passing, h]

/-- An error about the least integer with too many digits. -/
def oversized : Failure := raised .value [.int (.ofNat (Nat.pow 10 Value.maxDigits))]

/-- Its text is refused. -/
theorem text_oversized : oversized.text = .error .digits := by
  have size : Nat.pow 10 Value.maxDigits ≤ (Int.ofNat (Nat.pow 10 Value.maxDigits)).natAbs :=
    Nat.le_refl _
  have plain : ErrorKind.isSystem .value = false := rfl
  simp only [oversized, Failure.text, raisedText, plain, Bool.false_eq_true, if_false,
    argumentsText]
  exact Value.writtenDisplay_int size

/-- What leaves a program is no signal. -/
theorem isStop_leaving (program : String) (f : Failure) : (f.leaving program).isStop = false := by
  by_cases stop : f.isStop = true
  · rw [leaving, if_pos stop]
    rfl
  · rw [leaving, if_neg stop]
    exact Bool.eq_false_iff.2 stop

/-- What is no signal is passed on as something that is none. -/
theorem isStop_passing (h : f.isStop = false) : f.passing.isStop = false := by
  cases refusal : f.refusal? with
  | none =>
    rw [passing_of_none refusal]
    exact h
  | some g =>
    rw [passing_of_some refusal]
    exact isStop_leaving "generator" g

/-- What is no signal leaves a program as it is. -/
theorem leaving_of_not_isStop (program : String) (h : f.isStop = false) :
    f.leaving program = f := by
  rw [leaving, h, if_neg Bool.false_ne_true]

/-- No failure is its own refusal, also as one that leaves a program: the refusal holds a part of
what it refuses. -/
theorem leaving_failure_ne (program : String) (h : f.text = .error r) :
    r.failure.leaving program ≠ f := by
  rintro rfl
  cases r with
  | digits => cases h
  | raised family kind qualified text literal =>
    by_cases stop : (Refusal.raised family kind qualified text literal).failure.isStop = true
    · rw [leaving, if_pos stop] at h
      cases h
    · rw [leaving, if_neg stop] at h
      have size := congrArg sizeOf (show text = .error _ from h)
      simp at size
      omega

/-- **A failure is passed on as it is** unless it is an error that refuses its text. -/
theorem passing_eq_self_iff : f.passing = f ↔ f.refusal? = none := by
  refine ⟨fun same => ?_, passing_of_none⟩
  cases refusal : f.refusal? with
  | none => rfl
  | some g =>
    rw [passing_of_some refusal] at same
    unfold refusal? at refusal
    split at refusal
    next r _ mute =>
      cases refusal
      exact absurd same (leaving_failure_ne _ mute)
    next => cases refusal

end Failure

/-- The text of a reported error holds that of the failure behind it, and is refused with it. -/
theorem CodedError.text_of_cause {e : CodedError} {message : String} {c : Cause}
    (plain : e.message = .text message) (kept : e.cause = some c) :
    e.text = c.text.map fun text => "[" ++ e.code.text ++ "] " ++ message
      ++ (" (caused by: " ++ c.kind ++ ": " ++ text ++ ")") := by
  simp only [text, plain, kept]
  cases c.text <;> rfl

namespace Action

variable {σ α β : Type} {x : Action σ α} {f : α → Action σ β} {s t : σ} {events : List Event}

/-! ### One action after another -/

/-- Behind a run that ended with a value. -/
theorem run_bind_of_ok {a : α} (h : x.run s = ⟨.ok a, t, events⟩) :
    (x >>= f).run s = ⟨((f a).run t).outcome, ((f a).run t).state,
      events ++ ((f a).run t).events⟩ := by
  rw [run_bind, h]

/-- Behind a run that ended with a failure. -/
theorem run_bind_of_error {e : Failure} (h : x.run s = ⟨.error e, t, events⟩) :
    (x >>= f).run s = ⟨.error e, t, events⟩ := by
  rw [run_bind, h]

/-- An action with its value changed. -/
theorem run_bind_pure (x : Action σ α) (g : α → β) (s : σ) :
    (x >>= fun a => pure (g a)).run s
      = ⟨(x.run s).outcome.map g, (x.run s).state, (x.run s).events⟩ := by
  rw [run_bind]
  cases (x.run s).outcome with
  | error e => rfl
  | ok a => simp [Except.map]

/-- Behind a check that passes. -/
theorem check_ok_bind (a : α) (f : α → Action σ β) : (check (.ok a) >>= f) = f a := rfl

/-! ### Asking for texts -/

section Texts

variable {e : Failure} {text : String} {r : Refusal}

/-- A text that can be had is handed out. -/
theorem run_awaitText_of_text (said : e.text = .ok text) (s : σ) :
    (awaitText e : Action σ String).run s = ⟨.ok text, s, []⟩ := by
  simp only [awaitText, run, leaving, textOf, ofExcept, Failure.said_of_text said]
  rfl

/-- A text that is refused ends the run with the refusal. -/
theorem run_awaitText_of_refusal (mute : e.text = .error r) (s : σ) :
    (awaitText e : Action σ String).run s = ⟨.error (r.failure.leaving "coroutine"), s, []⟩ := by
  simp only [awaitText, run, leaving, textOf, ofExcept, Failure.said_of_refusal mute]
  rfl

end Texts

/-! ### Spans -/

variable {find : Action σ Value}

/-- The attributes of a span, once something is found. -/
theorem run_attributes_of_ok {v : Value} (h : find.run s = ⟨.ok v, t, events⟩) :
    (attributes find).run s = ⟨present v, t, events⟩ := by
  have found : find.attempt.run s = ⟨.ok (.ok v), t, events⟩ := by rw [run_attempt, h]
  rw [attributes, run_bind_of_ok found, run_ofExcept, List.append_nil]

/-- An error that keeps attributes from being found is logged with its text. -/
theorem run_attributes_of_error {e : Failure} {text : String}
    (h : find.run s = ⟨.error e, t, events⟩) (error : e.isError = true) (said : e.text = .ok text) :
    (attributes find).run s = ⟨.ok [], t, events ++ [.log (attributesFailed text)]⟩ := by
  have found : find.attempt.run s = ⟨.ok (.error e), t, events⟩ := by rw [run_attempt, h]
  rw [attributes, run_bind_of_ok found]
  simp only [error, if_true, textOf, Failure.said_of_text said]
  rfl

/-- If the error refuses its text, no attributes are found. -/
theorem run_attributes_of_refusal {e : Failure} {r : Refusal}
    (h : find.run s = ⟨.error e, t, events⟩) (error : e.isError = true) (mute : e.text = .error r) :
    (attributes find).run s = ⟨.error r.failure, t, events⟩ := by
  have found : find.attempt.run s = ⟨.ok (.error e), t, events⟩ := by rw [run_attempt, h]
  have refused : (textOf e : Action σ String).run t = ⟨.error r.failure, t, []⟩ := by
    rw [run_textOf, Failure.said_of_refusal mute]
  rw [attributes, run_bind_of_ok found]
  simp only [error, if_true]
  rw [run_bind_of_error refused, List.append_nil]

variable {label : SpanLabel} {body : Action σ α} {entries : Value.Entries}

/-- Once the attributes of a span are found, a traced action ends as the action does, with its
failure passed on, and emits one span behind its events. -/
theorem run_traced_of_attributes (found : (attributes find).run s = ⟨.ok entries, t, events⟩) :
    (traced label find body).run s =
      ⟨(body.run t).outcome.mapError Failure.passing, (body.run t).state,
        events ++ (body.run t).events ++ [.span (Span.finish label entries (body.run t).outcome)]⟩
    := by
  have taken : (attributes find).attempt.run s = ⟨.ok (.ok entries), t, events⟩ := by
    rw [run_attempt, found]
  rw [traced, run_bind_of_ok taken, run_bind_of_ok (run_attempt _ _), List.append_assoc]
  rfl

/-- If no attributes are found, a traced action does not run. -/
theorem run_traced_of_attributes_error {e : Failure}
    (failed : (attributes find).run s = ⟨.error e, t, events⟩) :
    (traced label find body).run s
      = ⟨.error (e.leaving "generator"), t, events ++ [.span (Span.bare label)]⟩ := by
  have taken : (attributes find).attempt.run s = ⟨.ok (.error e), t, events⟩ := by
    rw [run_attempt, failed]
  rw [traced, run_bind_of_ok taken]
  rfl

/-- A mapping for the attributes of a span is taken without its null ones. -/
theorem run_attributes_of_map (h : find.run s = ⟨.ok (.map entries), t, events⟩) :
    (attributes find).run s = ⟨.ok (entries.filter fun entry => !entry.2.isNull), t, events⟩ := by
  rw [run_attributes_of_ok h]
  cases entries <;> rfl

end Action

end QueryChain
