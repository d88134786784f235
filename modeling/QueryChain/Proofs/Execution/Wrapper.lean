import QueryChain.Execution.Wrapper
import QueryChain.Proofs.Execution.Manager
import QueryChain.Proofs.Value.Entries

/-!
# Spans around functions

A function that is called inside its span does what it does by itself, as long as the tracer does
not fail and no text is refused.  Everything that a call asks of the tracer is told here, call by
call: one span is opened, with the attributes that were found and are not null, and a failure is
recorded when it is an error.

Texts are asked for at two places.  An error of the getter is announced with its text; if it refuses
the text, the function does not run.  An error of the function gives its text to the span; if it
refuses the text, the call ends with the refusal, and the error of the function is lost.  Nothing
else changes what a call ends with.

What a getter does besides, and the event of its failure, come before the events of the function.
If the attributes cannot be found for another reason than an error, the function does not run.

## Main definitions

* `Tracer.Quiet`, `Tracer.after` — a tracer that does not fail, and its state after calls.
* `Wrapped.calls` — what a call asks of the tracer.
* `Offers` — what a getter offers, by the ways in which it may end.
* `Wrapped.recording` — a function that keeps the arguments of its calls.

## Main results

* `Wrapped.run_invoke_of_found`, `Wrapped.run_invoke_of_error` — a call, by what comes of finding
  the attributes.
* `Wrapped.run_invoke_collecting` — under the tracer that collects spans, a call is a traced action.
* `Wrapped.transparent_iff` — a call whose getter offers attributes, nothing, or an error: what it
  does, and when it ends as the function does by itself.
* `Wrapped.invoke_oversized` — texts that are refused show in what a call ends with.
-/

set_option relaxedAutoImplicit false
set_option autoImplicit false

namespace QueryChain

variable {σ τ α : Type}

/-! ### Tracers -/

namespace TracerCall

/-- The label of the span that a call opens. -/
def opened? : TracerCall → Option SpanLabel
  | opened label => some label
  | _ => none

/-- The attribute that a call notes. -/
def noted? : TracerCall → Option (Value × Value)
  | noted key value => some (key, value)
  | _ => none

/-- The failure that a call records. -/
def recorded? : TracerCall → Option Failure
  | recorded f => some f
  | _ => none

/-- The text with which a call marks a span as failed. -/
def failed? : TracerCall → Option String
  | failed text => some text
  | _ => none

end TracerCall

namespace Tracer

/-- A tracer whose calls do not fail, and that keeps no failure. -/
def Quiet (t : Tracer τ) : Prop := ∀ c u, (t c u).1 = .ok false

/-- The state of a tracer after calls. -/
def after (t : Tracer τ) (calls : List TracerCall) (u : τ) : τ :=
  calls.foldl (fun u c => (t c u).2) u

variable {t : Tracer τ} {s : σ} {u : τ}

/-- The state after calls and further ones. -/
theorem after_append (t : Tracer τ) (calls more : List TracerCall) (u : τ) :
    t.after (calls ++ more) u = t.after more (t.after calls u) := List.foldl_append

/-- One call. -/
theorem run_ask (quiet : t.Quiet) (c : TracerCall) :
    (t.ask c).run (s, u) = ⟨.ok false, (s, t.after [c] u), []⟩ := by
  have answer : (t.ask c).run (s, u) = ⟨(t c u).1, (s, (t c u).2), []⟩ := rfl
  rw [answer, quiet]
  rfl

/-- One call that has no answer. -/
theorem run_tell (quiet : t.Quiet) (c : TracerCall) :
    (t.tell c).run (s, u) = ⟨.ok (), (s, t.after [c] u), []⟩ := by
  rw [tell, Action.run_bind_of_ok (run_ask quiet c)]
  rfl

/-- Several calls. -/
theorem run_tellAll (quiet : t.Quiet) (calls : List TracerCall) :
    (t.tellAll calls).run (s, u) = ⟨.ok (), (s, t.after calls u), []⟩ := by
  induction calls generalizing u with
  | nil => rfl
  | cons c calls ih =>
    rw [tellAll, Action.run_bind_of_ok (run_tell quiet c), ih]
    rfl

/-- What is asked of the tracer when a failure is recorded: to record it, and to mark the span as
failed with its text, if it can be had. -/
def marks (f : Failure) : List TracerCall :=
  .recorded f ::
    match f.text with
    | .ok text => [.failed text]
    | .error _ => []

/-- A choice among what is asked when a failure is recorded. -/
theorem filterMap_marks {β : Type} (p : TracerCall → Option β) (f : Failure) :
    (marks f).filterMap p
      = (p (.recorded f)).toList
        ++ (f.text.toOption.bind fun text => p (.failed text)).toList := by
  have one (c : TracerCall) (rest : List TracerCall) :
      (c :: rest).filterMap p = (p c).toList ++ rest.filterMap p := by
    cases chosen : p c <;> simp [chosen]
  rw [marks, one]
  cases f.text with
  | ok text =>
    rw [one, List.filterMap_nil, List.append_nil]
    rfl
  | error r => rfl

/-- A failure that refuses no text is recorded. -/
theorem run_record (quiet : t.Quiet) {f : Failure} (error : f.isError = true)
    (spoken : f.refusal? = none) :
    (t.record f).run (s, u) = ⟨.ok (), (s, t.after (marks f) u), []⟩ := by
  cases said : f.text with
  | error r =>
    rw [Failure.refusal?_of_error error said] at spoken
    cases spoken
  | ok text =>
    have asked (v : τ) : (Action.textOf f : Action (σ × τ) String).run (s, v)
        = ⟨.ok text, (s, v), []⟩ := by
      rw [Action.run_textOf, Failure.said_of_text said]
    rw [record, Action.run_bind_of_ok (run_tell quiet _), Action.run_bind_of_ok (asked _),
      run_tell quiet, marks, said]
    rfl

/-- A failure that refuses its text is recorded, and recording it ends with the refusal. -/
theorem run_record_of_refusal (quiet : t.Quiet) {f refusal : Failure}
    (mute : f.refusal? = some refusal) :
    (t.record f).run (s, u) = ⟨.error refusal, (s, t.after (marks f) u), []⟩ := by
  unfold Failure.refusal? at mute
  split at mute
  next r _ refused =>
    cases mute
    have asked (v : τ) : (Action.textOf f : Action (σ × τ) String).run (s, v)
        = ⟨.error r.failure, (s, v), []⟩ := by
      rw [Action.run_textOf, Failure.said_of_refusal refused]
    rw [record, Action.run_bind_of_ok (run_tell quiet _), Action.run_bind_of_error (asked _), marks,
      refused]
    rfl
  next => cases mute

/-- The manager of a span opens it. -/
theorem run_enter_manager (quiet : t.Quiet) (label : SpanLabel) :
    (t.manager label).enter.run (s, u) = ⟨.ok (), (s, t.after [.opened label] u), []⟩ :=
  run_tell quiet _

/-- The manager of a span closes it, and keeps no failure. -/
theorem run_leave_manager (quiet : t.Quiet) (label : SpanLabel) (passing : Option Failure) :
    ((t.manager label).leave () passing).run (s, u)
      = ⟨.ok false, (s, t.after [.closed passing] u), []⟩ :=
  run_ask quiet _

/-- The tracer that collects spans is quiet. -/
theorem quiet_collecting : collecting.Quiet := fun _ _ => rfl

end Tracer

/-! ### Conventions -/

namespace Convention

variable {convention : Convention} {x : Action σ α} {s : σ}

/-- What is awaited ends as it does by itself, unless it ends with a signal. -/
theorem run_program
    (h : ∀ f, convention = awaited → (x.run s).outcome = .error f → f.isStop = false) :
    (convention.program x).run s = x.run s := by
  cases convention with
  | plain => rfl
  | awaited => exact Action.run_leaving fun f => h f rfl

/-- An action that does the same beside a further state does so when it is called. -/
theorem run_program_beside {y : Action τ α} {z : τ} (convention : Convention) (beside : σ → τ)
    (same : y.run z = ⟨(x.run s).outcome, beside (x.run s).state, (x.run s).events⟩) :
    (convention.program y).run z
      = ⟨((convention.program x).run s).outcome, beside ((convention.program x).run s).state,
          ((convention.program x).run s).events⟩ := by
  cases convention with
  | plain => exact same
  | awaited =>
    have ran : y z = ⟨(x s).outcome, beside (x s).state, (x s).events⟩ := same
    simp only [program, Action.run, Action.leaving, ran]

/-- What is awaited does not end with a signal. -/
theorem isStop_of_run_program {f : Failure} (awaited : convention = awaited)
    (h : ((convention.program x).run s).outcome = .error f) : f.isStop = false := by
  subst awaited
  exact Action.isStop_of_run_leaving h

end Convention

/-! ### Attributes -/

/-- What a getter offers when it ends: the entries of a mapping; none if it finds nothing; none if it
ends with an error that tells its text; and no attributes at all if the error refuses its text. -/
inductive Offers : Except Failure Value → Except Failure Value.Entries → Prop
  | mapping (entries : Value.Entries) : Offers (.ok (.map entries)) (.ok entries)
  | nothing : Offers (.ok .null) (.ok [])
  | error {f : Failure} {text : String} (h : f.isError = true) (said : f.text = .ok text) :
      Offers (.error f) (.ok [])
  | refused {f : Failure} {r : Refusal} (h : f.isError = true) (mute : f.text = .error r) :
      Offers (.error f) (.error r.failure)

/-- The events of an outcome of a getter: an error is announced with its text. -/
def Offers.events : Except Failure Value → List Event
  | .ok _ => []
  | .error f =>
    match f.text with
    | .ok text => [.log (Action.attributesFailed text)]
    | .error _ => []

namespace Offers

variable {find : Action σ Value} {s s' : σ} {offer : Except Failure Value} {logged : List Event}

/-- What is found of the offer of a getter: the entries that are not null. -/
theorem run_attributes {entries : Value.Entries} (h : Offers offer (.ok entries))
    (found : find.run s = ⟨offer, s', logged⟩) :
    (Action.attributes find).run s
      = ⟨.ok (entries.filter fun entry => !entry.2.isNull), s', logged ++ events offer⟩ := by
  cases h with
  | mapping => rw [Action.run_attributes_of_map found, events, List.append_nil]
  | nothing =>
    rw [Action.run_attributes_of_ok found, events, List.append_nil]
    rfl
  | error error said =>
    rw [Action.run_attributes_of_error found error said, events, said]
    rfl

/-- If an error refuses its text, nothing is found. -/
theorem run_attributes_error {refusal : Failure} (h : Offers offer (.error refusal))
    (found : find.run s = ⟨offer, s', logged⟩) :
    (Action.attributes find).run s = ⟨.error refusal, s', logged⟩ := by
  cases h with
  | refused error mute => exact Action.run_attributes_of_refusal found error mute

end Offers

/-! ### Calls of functions -/

namespace Wrapped

variable {w : Wrapped σ α} {t : Tracer τ} {args : Arguments} {s s' s'' : σ} {u : τ}
  {offer : Except Failure Value} {entries kept : Value.Entries} {outcome : Except Failure α}
  {logged before inside : List Event}

/-- The failure of an outcome that is recorded: an error is, anything else is not. -/
def recordable : Except Failure α → List Failure
  | .ok _ => []
  | .error f => if f.isError then [f] else []

/-- The failure that passes through when the span is closed: the one that the function ended with,
or its refusal. -/
def leftOver : Except Failure α → Option Failure
  | .ok _ => none
  | .error f => some (f.refusal?.getD f)

/-- What is asked of the tracer once the function has ended. -/
def closing (outcome : Except Failure α) : List TracerCall :=
  (recordable outcome).flatMap Tracer.marks ++ [.closed (leftOver outcome)]

/-- What a call asks of the tracer: to open a span, to note its attributes, to record a failure, and
to close the span. -/
def calls (w : Wrapped σ α) (kept : Value.Entries) (outcome : Except Failure α) :
    List TracerCall :=
  (.opened w.label :: kept.map fun entry => .noted entry.1 entry.2) ++ closing outcome

/-- The program that stands around the function, inside the manager of its span. -/
abbrev frame (w : Wrapped σ α) (t : Tracer τ) (args : Arguments) : Pausing (σ × τ) (Unit × Unit) :=
  (t.manager w.label).pausing fun _ => w.surroundings t args

/-! #### Around the function -/

/-- The span is opened, and the attributes that are found are noted, before the function runs. -/
theorem run_start_frame (quiet : t.Quiet)
    (found : (Action.attributes (w.find args)).run s = ⟨.ok kept, s', before⟩) :
    (w.frame t args).start.run (s, u)
      = ⟨.ok ((), ()), (s', t.after
          (.opened w.label :: kept.map fun entry => .noted entry.1 entry.2) u), before⟩ := by
  have noted (v : τ) : (w.surroundings t args).start.run (s, v)
      = ⟨.ok (), (s', t.after (kept.map fun entry => .noted entry.1 entry.2) v), before⟩ := by
    have first : ((Action.attributes (w.find args)).onFirst : Action (σ × τ) _).run (s, v)
        = ⟨.ok kept, (s', v), before⟩ := by
      rw [Action.run_onFirst, found]
    simp only [surroundings]
    rw [Action.run_bind_of_ok first, Tracer.run_tellAll quiet, List.append_nil]
  exact Manager.run_start_pausing (Tracer.run_enter_manager quiet w.label) (noted _)

/-- If attributes cannot be found, the span is closed again. -/
theorem run_start_frame_of_error {f : Failure} (quiet : t.Quiet)
    (failed : (Action.attributes (w.find args)).run s = ⟨.error f, s', before⟩) :
    (w.frame t args).start.run (s, u)
      = ⟨.error f, (s', t.after [.opened w.label, .closed (some f)] u), before⟩ := by
  have unnoted (v : τ) : (w.surroundings t args).start.run (s, v) = ⟨.error f, (s', v), before⟩ := by
    have first : ((Action.attributes (w.find args)).onFirst : Action (σ × τ) _).run (s, v)
        = ⟨.error f, (s', v), before⟩ := by
      rw [Action.run_onFirst, failed]
    simp only [surroundings]
    rw [Action.run_bind_of_error first]
  have all := Manager.run_start_pausing_of_error (p := fun _ => w.surroundings t args)
    (Tracer.run_enter_manager (u := u) quiet w.label) (unnoted _)
    (Tracer.run_leave_manager quiet w.label _)
  rwa [List.nil_append, List.append_nil] at all

/-- Once the function has ended without a text being refused, its failure is recorded if it is an
error, the span is closed, and nothing is kept. -/
theorem run_leave_frame (quiet : t.Quiet) (outcome : Except Failure α)
    (spoken : ∀ f, outcome = .error f → f.refusal? = none) :
    ((w.frame t args).manager.leave ((), ()) (Manager.told outcome)).run (s, u)
      = ⟨.ok false, (s, t.after (closing outcome) u), []⟩ := by
  cases outcome with
  | ok a =>
    have goneOn : ((w.surroundings t args).goOn ()).run (s, u) = ⟨.ok (), (s, u), []⟩ := rfl
    refine Pausing.run_leave_manager (fun _ => ?_) fun f told => nomatch told
    exact Manager.run_goOn_pausing (p := fun _ => w.surroundings t args) goneOn
      (Tracer.run_leave_manager quiet w.label none)
  | error f =>
    have silent : f.refusal? = none := spoken f rfl
    have thrown : ((w.surroundings t args).throwIn () f).run (s, u)
        = ⟨.ok true, (s, t.after ((recordable (.error f : Except Failure α)).flatMap Tracer.marks)
          u), []⟩ := by
      simp only [surroundings, recordable]
      cases error : f.isError with
      | true =>
        simp only [if_true, List.flatMap_cons, List.flatMap_nil, List.append_nil]
        exact Action.run_bind_of_ok (Tracer.run_record quiet error silent)
      | false => rfl
    refine Pausing.run_leave_manager (fun told => nomatch told) fun g told => ?_
    cases told
    rw [closing, Tracer.after_append, leftOver, silent]
    exact Manager.run_throwIn_pausing (p := fun _ => w.surroundings t args) thrown
      (Tracer.run_leave_manager quiet w.label _)

/-- If the function ended with an error that refuses its text, the error is recorded, the span is
closed with the refusal, and the refusal goes on. -/
theorem run_leave_frame_of_refusal (quiet : t.Quiet) {f refusal : Failure}
    (mute : f.refusal? = some refusal) :
    ((w.frame t args).manager.leave ((), ()) (some f)).run (s, u)
      = ⟨.error (refusal.leaving "generator"),
          (s, t.after (closing (.error f : Except Failure α)) u), []⟩ := by
  have error : f.isError = true := Failure.isError_of_refusal? mute
  have thrown : ((w.surroundings t args).throwIn () f).run (s, u)
      = ⟨.error refusal, (s, t.after (Tracer.marks f) u), []⟩ := by
    simp only [surroundings, error, if_true]
    exact Action.run_bind_of_error (Tracer.run_record_of_refusal quiet mute)
  have asked : closing (.error f : Except Failure α)
      = Tracer.marks f ++ [.closed (some refusal)] := by
    simp [closing, recordable, error, leftOver, mute]
  rw [asked, Tracer.after_append]
  refine Pausing.run_leave_manager_of_error ?_
  exact Manager.run_throwIn_pausing_of_error (p := fun _ => w.surroundings t args) thrown
    (Tracer.run_leave_manager quiet w.label _)

/-! #### Whole calls -/

/-- **A call for which attributes are found** ends as the function does by itself, with its failure
passed on. -/
theorem run_invoke_of_found (quiet : t.Quiet)
    (found : (Action.attributes (w.find args)).run s = ⟨.ok kept, s', before⟩)
    (ran : (w.bare args).run s' = ⟨outcome, s'', inside⟩) :
    (w.invoke t args).run (s, u)
      = ⟨(outcome.mapError Failure.passing).map some,
          (s'', t.after (w.calls kept outcome) u), before ++ inside⟩ := by
  have block (v : τ) : ((w.bare args).onFirst : Action (σ × τ) α).run (s', v)
      = ⟨outcome, (s'', v), inside⟩ := by
    rw [Action.run_onFirst, ran]
  have entered (v : τ) := Pausing.run_enter_manager (run_start_frame (u := v) quiet found)
  have around : ((w.frame t args).manager.around fun _ => (w.bare args).onFirst).run (s, u)
      = ⟨(outcome.mapError Failure.passing).map some,
          (s'', t.after (w.calls kept outcome) u), before ++ inside⟩ := by
    rw [calls, Tracer.after_append]
    cases outcome with
    | ok a =>
      have all := Manager.run_around (b := fun _ => (w.bare args).onFirst) (entered u) (block _)
        (run_leave_frame quiet (.ok a) fun f h => by cases h)
      rwa [List.append_nil] at all
    | error f =>
      cases refusal : f.refusal? with
      | none =>
        have all := Manager.run_around (b := fun _ => (w.bare args).onFirst) (entered u) (block _)
          (run_leave_frame quiet (.error f) fun g h => by cases h; exact refusal)
        rw [List.append_nil] at all
        rw [all]
        exact congrArg (Ran.mk · _ _) (congrArg Except.error (Failure.passing_of_none refusal).symm)
      | some g =>
        have all := Manager.run_around_of_leave_error (b := fun _ => (w.bare args).onFirst)
          (entered u) (block _) (run_leave_frame_of_refusal (α := α) quiet refusal)
        rw [List.append_nil] at all
        rw [all]
        exact congrArg (Ran.mk · _ _) (congrArg Except.error (Failure.passing_of_some refusal).symm)
  have same : (w.invoke t args).run (s, u)
      = ((w.frame t args).manager.around fun _ => (w.bare args).onFirst).run (s, u) := by
    refine Convention.run_program fun f awaited failed => ?_
    rw [around] at failed
    cases outcome with
    | ok a => cases failed
    | error g =>
      cases failed
      exact Failure.isStop_passing (Convention.isStop_of_run_program awaited (congrArg Ran.outcome ran))
  rw [same, around]

/-- **A call for which attributes cannot be found** opens a span and closes it; the function does
not run. -/
theorem run_invoke_of_error {f : Failure} (quiet : t.Quiet)
    (failed : (Action.attributes (w.find args)).run s = ⟨.error f, s', before⟩) :
    (w.invoke t args).run (s, u)
      = ⟨.error (f.leaving "generator"),
          (s', t.after [.opened w.label, .closed (some f)] u), before⟩ := by
  have around := Manager.run_around_of_error (b := fun _ => (w.bare args).onFirst)
    (Pausing.run_enter_manager_of_error (run_start_frame_of_error (u := u) quiet failed))
  have same : (w.invoke t args).run (s, u)
      = ((w.frame t args).manager.around fun _ => (w.bare args).onFirst).run (s, u) := by
    refine Convention.run_program fun g _ failed => ?_
    rw [around] at failed
    cases failed
    exact Failure.isStop_leaving "generator" f
  rw [same, around]

/-! #### What is asked of the tracer -/

section Calls

variable (w : Wrapped σ α) (kept : Value.Entries) (outcome : Except Failure α)

/-- A choice among what is asked of the tracer, part by part. -/
theorem filterMap_calls {β : Type} (p : TracerCall → Option β) :
    (w.calls kept outcome).filterMap p
      = (p (.opened w.label)).toList
        ++ kept.filterMap (fun entry => p (.noted entry.1 entry.2))
        ++ (recordable outcome).flatMap (fun f =>
            (p (.recorded f)).toList
              ++ (f.text.toOption.bind fun text => p (.failed text)).toList)
        ++ (p (.closed (leftOver outcome))).toList := by
  have one (c : TracerCall) (rest : List TracerCall) :
      (c :: rest).filterMap p = (p c).toList ++ rest.filterMap p := by
    cases chosen : p c <;> simp [chosen]
  simp only [calls, closing, List.filterMap_append, List.filterMap_map, List.filterMap_flatMap, one,
    Tracer.filterMap_marks, List.filterMap_nil, List.append_nil, List.append_assoc,
    Function.comp_def]

/-- One span is opened. -/
theorem opened_calls : (w.calls kept outcome).filterMap TracerCall.opened? = [w.label] := by
  simp [filterMap_calls, TracerCall.opened?]

/-- The span is opened first and closed last, and what goes on is known when it is closed. -/
theorem exists_calls_eq : ∃ inner, w.calls kept outcome
    = .opened w.label :: (inner ++ [.closed (leftOver outcome)]) :=
  ⟨kept.map (fun entry => .noted entry.1 entry.2) ++ (recordable outcome).flatMap Tracer.marks,
    by simp only [calls, closing, List.cons_append, List.append_assoc]⟩

/-- The attributes are noted, each of them once. -/
theorem noted_calls : (w.calls kept outcome).filterMap TracerCall.noted? = kept := by
  simp [filterMap_calls, TracerCall.noted?]

/-- What is recorded is the error of the outcome, if there is one. -/
theorem recorded_calls :
    (w.calls kept outcome).filterMap TracerCall.recorded? = recordable outcome := by
  simp [filterMap_calls, TracerCall.recorded?]

/-- The span is marked as failed with the text of what is recorded, if it can be had. -/
theorem failed_calls : (w.calls kept outcome).filterMap TracerCall.failed?
    = (recordable outcome).filterMap fun f => f.text.toOption := by
  have texts (fs : List Failure) : fs.flatMap (fun f => f.text.toOption.toList)
      = fs.filterMap fun f => f.text.toOption := by
    induction fs with
    | nil => rfl
    | cons f fs ih => cases said : f.text.toOption <;> simp [said, ih]
  simp [filterMap_calls, TracerCall.failed?, texts]

/-- What is recorded is the outcome, and it is an error. -/
theorem mem_recordable {f : Failure} :
    f ∈ recordable outcome ↔ outcome = .error f ∧ f.isError = true := by
  cases outcome with
  | ok a => simp [recordable]
  | error g =>
    have same : (Except.error g : Except Failure α) = .error f ↔ g = f :=
      ⟨fun h => by cases h; rfl, congrArg _⟩
    cases error : g.isError with
    | true =>
      simp only [recordable, error, if_true, List.mem_singleton, same]
      exact ⟨fun e => ⟨e.symm, e ▸ error⟩, fun e => e.1.symm⟩
    | false =>
      simp only [recordable, error, Bool.false_eq_true, if_false, List.not_mem_nil, same, false_iff]
      exact fun e => absurd (e.1 ▸ e.2) (error ▸ Bool.false_ne_true)

end Calls

/-! #### Collected spans -/

/-- The attributes that are noted of the last span. -/
theorem after_noted (entries : Value.Entries) (last : Span) (spans : List Span) :
    Tracer.collecting.after (entries.map fun entry => .noted entry.1 entry.2) (last :: spans)
      = { last with
          attributes := entries.foldl (fun acc entry => Value.Entries.set acc entry.1 entry.2)
            last.attributes } :: spans := by
  induction entries generalizing last with
  | nil => rfl
  | cons entry entries ih => exact ih _

/-- The failure that is recorded of the last span. -/
theorem after_closing (label : SpanLabel) (kept : Value.Entries) (outcome : Except Failure α)
    (spans : List Span) :
    Tracer.collecting.after (closing outcome) (⟨label, kept, none, none⟩ :: spans)
      = Span.finish label kept outcome :: spans := by
  cases outcome with
  | ok a => rfl
  | error f =>
    simp only [closing, recordable, Span.finish]
    cases f.isError with
    | false => rfl
    | true =>
      simp only [if_true, List.flatMap_cons, List.flatMap_nil, List.append_nil, Tracer.marks]
      cases f.text with
      | ok text => rfl
      | error r => rfl

/-- What is asked at a call is collected as the span of its outcome. -/
theorem after_calls (distinct : Value.Entries.Distinct kept) (spans : List Span) :
    Tracer.collecting.after (w.calls kept outcome) spans
      = Span.finish w.label kept outcome :: spans := by
  have opened : Tracer.collecting.after [.opened w.label] spans = Span.bare w.label :: spans := rfl
  have parts : w.calls kept outcome
      = [.opened w.label] ++ ((kept.map fun entry => .noted entry.1 entry.2) ++ closing outcome) := by
    simp [calls]
  have written : kept.foldl (fun acc entry => Value.Entries.set acc entry.1 entry.2) [] = kept :=
    Value.Entries.ofList_of_distinct distinct
  rw [parts, Tracer.after_append, opened, Tracer.after_append, after_noted, Span.bare]
  simp only [written]
  exact after_closing w.label kept outcome spans

/-- **A call under the tracer that collects spans** is a traced action, whose span is collected and
not emitted, if what is found for it has different keys. -/
theorem run_invoke_collecting (spans : List Span)
    (found : (Action.attributes (w.find args)).run s = ⟨.ok kept, s', before⟩)
    (distinct : kept.Distinct) (ran : (w.bare args).run s' = ⟨outcome, s'', inside⟩) :
    let ended := outcome.mapError Failure.passing
    let span := Span.finish w.label kept outcome
    (w.invoke Tracer.collecting args).run (s, spans)
        = ⟨ended.map some, (s'', span :: spans), before ++ inside⟩
      ∧ (Action.traced w.label (w.find args) (w.bare args)).run s
        = ⟨ended, s'', before ++ inside ++ [.span span]⟩ := by
  refine ⟨?_, ?_⟩
  · have all := run_invoke_of_found (u := spans) Tracer.quiet_collecting found ran
    rwa [after_calls distinct] at all
  · rw [Action.run_traced_of_attributes found, ran]

/-! #### Transparency -/

/-- An outcome is passed on as it is unless it is an error that refuses its text. -/
theorem mapError_passing_eq_self_iff :
    outcome.mapError Failure.passing = outcome ↔ ∀ f, outcome = .error f → f.refusal? = none := by
  cases outcome with
  | ok a => exact ⟨fun _ f h => (by cases h), fun _ => rfl⟩
  | error f =>
    have same : (Except.error f : Except Failure α).mapError Failure.passing = .error f
        ↔ f.passing = f := ⟨fun h => Except.error.inj h, congrArg Except.error⟩
    rw [same, Failure.passing_eq_self_iff]
    refine ⟨fun silent g h => ?_, fun all => all f rfl⟩
    cases h
    exact silent

/-- A function that keeps the arguments of its calls, the last ones at the end, and otherwise does
what it does. -/
def recording (w : Wrapped σ α) : Wrapped (σ × List Arguments) α where
  label := w.label
  convention := w.convention
  getter := w.getter.map fun getter args => (getter args).onFirst
  body args := do
    Action.onSecond fun past => ⟨.ok (), past ++ [args], []⟩
    (w.body args).onFirst

variable (past : List Arguments)

/-- The getter keeps no arguments. -/
theorem run_find_recording (found : (w.find args).run s = ⟨offer, s', logged⟩) :
    (w.recording.find args).run (s, past) = ⟨offer, (s', past), logged⟩ := by
  simp only [find, recording] at found ⊢
  cases getter : w.getter with
  | none =>
    rw [getter] at found
    cases found
    rfl
  | some getter' =>
    rw [getter] at found
    rw [Option.map_some]
    exact (Action.run_onFirst _ _ _).trans (by rw [found])

/-- A call of the function by itself keeps its arguments. -/
theorem run_bare_recording (ran : (w.bare args).run s = ⟨outcome, s', inside⟩) :
    (w.recording.bare args).run (s, past) = ⟨outcome, (s', past ++ [args]), inside⟩ := by
  have body : (w.recording.body args).run (s, past)
      = ⟨((w.body args).run s).outcome, (((w.body args).run s).state, past ++ [args]),
          ((w.body args).run s).events⟩ := rfl
  have all := Convention.run_program_beside w.convention (fun s' => (s', past ++ [args])) body
  rw [bare] at ran
  rwa [ran] at all

/-- **A call inside a span**, if the tracer does not fail and the getter ends with a mapping, with
nothing, or with an error.

If the getter ends with an error that refuses its text, the function does not run: a span is opened
and closed with the refusal, and the call ends with it.  Otherwise the function runs once, with the
arguments of the call, and the call ends as the function does by itself, except that an error which
refuses its text gives way to the refusal; so it ends alike if and only if no text is refused.

One span is opened, before anything else is asked of the tracer, and closed behind everything else.
The attributes that are noted are those that the getter offers and that are not null.  A failure is
recorded if and only if the function ends with it and it is an error, and the span is marked as
failed with its text, if it can be had.  The tracer that collects spans keeps a span that says so,
or one that says nothing if the function does not run, and the call is the traced action that emits
this span. -/
theorem transparent_iff (quiet : t.Quiet)
    (found : (w.find args).run s = ⟨offer, s', logged⟩) :
    (∀ refusal, Offers offer (.error refusal) →
      let lost := refusal.leaving "generator"
      (∀ past, (w.recording.invoke t args).run ((s, past), u)
          = ⟨.error lost, ((s', past), t.after [.opened w.label, .closed (some refusal)] u), logged⟩)
        ∧ (∀ spans, (w.invoke Tracer.collecting args).run (s, spans)
          = ⟨.error lost, (s', Span.bare w.label :: spans), logged⟩)
        ∧ (Action.traced w.label (w.find args) (w.bare args)).run s
          = ⟨.error lost, s', logged ++ [.span (Span.bare w.label)]⟩)
    ∧ ∀ entries, Offers offer (.ok entries) →
      let kept := entries.filter fun entry => !entry.2.isNull
      let ran := (w.bare args).run s'
      let ended := ran.outcome.mapError Failure.passing
      let asked := w.calls kept ran.outcome
      let events := logged ++ Offers.events offer ++ ran.events
      (w.invoke t args).run (s, u) = ⟨ended.map some, (ran.state, t.after asked u), events⟩
        ∧ (∀ past, (w.recording.invoke t args).run ((s, past), u)
          = ⟨ended.map some, ((ran.state, past ++ [args]), t.after asked u), events⟩)
        ∧ (ended = ran.outcome ↔ ∀ f, ran.outcome = .error f → f.refusal? = none)
        ∧ asked.filterMap TracerCall.opened? = [w.label]
        ∧ (∃ inner, asked = .opened w.label :: (inner ++ [.closed (leftOver ran.outcome)]))
        ∧ asked.filterMap TracerCall.noted? = kept
        ∧ asked.filterMap TracerCall.recorded? = recordable ran.outcome
        ∧ (asked.filterMap TracerCall.failed?
          = (recordable ran.outcome).filterMap fun f => f.text.toOption)
        ∧ (∀ f, f ∈ recordable ran.outcome ↔ ran.outcome = .error f ∧ f.isError = true)
        ∧ (Value.Entries.Distinct kept → ∀ spans,
          let span := Span.finish w.label kept ran.outcome
          (w.invoke Tracer.collecting args).run (s, spans)
              = ⟨ended.map some, (ran.state, span :: spans), events⟩
            ∧ (Action.traced w.label (w.find args) (w.bare args)).run s
              = ⟨ended, ran.state, events ++ [.span span]⟩) := by
  refine ⟨?_, fun entries offers => ?_⟩
  · intro refusal offers lost
    have mute := offers.run_attributes_error found
    have recorded past := offers.run_attributes_error (run_find_recording past found)
    exact ⟨fun past => run_invoke_of_error quiet (recorded past),
      fun _ => run_invoke_of_error Tracer.quiet_collecting mute,
      Action.run_traced_of_attributes_error mute⟩
  · intro kept ran ended asked events
    have attributes := offers.run_attributes found
    have recorded past :=
      offers.run_attributes (run_find_recording past found)
    exact ⟨run_invoke_of_found quiet attributes rfl,
      fun past => run_invoke_of_found quiet (recorded past) (run_bare_recording past rfl),
      mapError_passing_eq_self_iff, opened_calls w _ _, exists_calls_eq w _ _, noted_calls w _ _,
      recorded_calls w _ _, failed_calls w _ _, fun f => mem_recordable _,
      fun distinct spans => run_invoke_collecting spans attributes distinct rfl⟩

/-- An awaited function that ends with a failure, and whose getter finds an attribute and a null one.
-/
def refusing (f : Failure) : Wrapped Unit Value where
  label := ⟨"store", "store.refuse", .internal⟩
  convention := .awaited
  getter := some fun args => pure (.map [(.text "rows", .list args.placed), (.text "user", .null)])
  body _ := Action.ofExcept (.error f)

/-- A cancellation goes on and leaves no record on its span; an error goes on and is recorded. -/
theorem transparent_iff_refusing :
    ((refusing (.raised .cancelled [])).invoke Tracer.collecting ⟨[.int 1], []⟩).run ((), [])
        = ⟨.error (.raised .cancelled []),
            ((), [⟨⟨"store", "store.refuse", .internal⟩, [(.text "rows", .list [.int 1])], none,
              none⟩]), []⟩
      ∧ ((refusing (.raised .value [.text "bad"])).recording.invoke Tracer.collecting
          ⟨[.int 1], []⟩).run (((), []), [])
        = ⟨.error (.raised .value [.text "bad"]),
            (((), [⟨[.int 1], []⟩]), [⟨⟨"store", "store.refuse", .internal⟩,
              [(.text "rows", .list [.int 1])], some "ValueError", some "bad"⟩]), []⟩ := by
  have found (f : Failure) : ((refusing f).find ⟨[.int 1], []⟩).run ()
      = ⟨.ok (.map [(.text "rows", .list [.int 1]), (.text "user", .null)]), (), []⟩ := rfl
  have ⟨_, cancelled⟩ := transparent_iff (u := []) Tracer.quiet_collecting
    (found (.raised .cancelled []))
  have ⟨_, failed⟩ := transparent_iff (u := []) Tracer.quiet_collecting
    (found (.raised .value [.text "bad"]))
  have ⟨invoked, _⟩ := cancelled _ (.mapping _)
  have ⟨_, recorded, _⟩ := failed _ (.mapping _)
  exact ⟨invoked, recorded []⟩

/-- A plain function that hands its arguments back, and whose getter ends with a failure. -/
def unfound (f : Failure) : Wrapped Unit Value where
  label := ⟨"store", "store.list", .internal⟩
  convention := .plain
  getter := some fun _ => Action.ofExcept (.error f)
  body args := pure (.list args.placed)

/-- **Texts that are refused show.**  An error of a function is lost when it refuses its text, and
its span is not marked as failed; and when an error of a getter refuses its text, the function does
not run, which by itself would hand its arguments back. -/
theorem invoke_oversized :
    let args : Arguments := ⟨[.int 1], []⟩
    let limit : Failure := .fault .tooManyDigitsShown
    ((refusing .oversized).bare args).run () = ⟨.error .oversized, (), []⟩
      ∧ ((refusing .oversized).invoke Tracer.collecting args).run ((), [])
        = ⟨.error limit, ((), [⟨⟨"store", "store.refuse", .internal⟩,
            [(.text "rows", .list [.int 1])], some "ValueError", none⟩]), []⟩
      ∧ limit ≠ .oversized
      ∧ ((unfound .oversized).bare args).run () = ⟨.ok (.list [.int 1]), (), []⟩
      ∧ ((unfound .oversized).recording.invoke Tracer.collecting args).run (((), []), [])
        = ⟨.error limit, (((), []), [Span.bare ⟨"store", "store.list", .internal⟩]), []⟩ := by
  intro args limit
  have error : Failure.isError .oversized = true := rfl
  have refusal := Failure.refusal?_of_error error Failure.text_oversized
  have failed : ((refusing .oversized).bare args).run () = ⟨.error .oversized, (), []⟩ := rfl
  have other : limit ≠ .oversized := Failure.noConfusion
  refine ⟨failed, ?_, other, rfl, ?_⟩
  · have found : (Action.attributes ((refusing .oversized).find args)).run ()
        = ⟨.ok [(.text "rows", .list [.int 1])], (), []⟩ := rfl
    have distinct : Value.Entries.Distinct [(.text "rows", .list [.int 1])] :=
      List.pairwise_singleton _ _
    have ⟨collected, _⟩ := run_invoke_collecting [] found distinct failed
    have passed : Failure.passing .oversized = limit := Failure.passing_of_some refusal
    have ended : ((Except.error .oversized : Except Failure Value).mapError Failure.passing).map some
        = .error limit := congrArg Except.error passed
    have span : Span.finish (refusing .oversized).label [(.text "rows", .list [.int 1])]
        (.error .oversized : Except Failure Value)
        = ⟨⟨"store", "store.refuse", .internal⟩, [(.text "rows", .list [.int 1])],
          some "ValueError", none⟩ := by
      simp only [Span.finish, error, if_true, Failure.text_oversized]
      rfl
    rw [collected, ended, span]
    rfl
  · have found : ((unfound .oversized).recording.find args).run ((), ([] : List Arguments))
        = ⟨.error .oversized, ((), []), []⟩ := rfl
    have attributes := Action.run_attributes_of_refusal found error Failure.text_oversized
    exact run_invoke_of_error Tracer.quiet_collecting attributes

end Wrapped

end QueryChain
