import QueryChain.Database.Resolve
import QueryChain.Proofs.Execution.Action
import QueryChain.Proofs.Statement.Name

/-!
# Resolving a builder

A builder that is resolved for the first time compiles its chain, hands the statement to the
executor and settles what comes back.  Here these parts are told apart: what is handed over depends
on the chain alone, and settling makes no call and leaves the state as it is.

## Main definitions

* `Chain.queries` — what a chain hands to its executor.
* `Executor.Records` — every query of an executor shows as one call.

## Main results

* `Builder.run_settle_of_text`, `Builder.run_settle_of_refusal`, `Builder.run_settle_of_not_error` —
  what becomes of a failure of the executor that is no reported error.
* `Builder.run_resolve_of_compile` — the run of a builder whose chain compiles.
* `Builder.run_resolve_of_not_compile` — the run of one whose chain does not.
* `Builder.calls_resolve` — a builder hands its statement over once.
-/

set_option relaxedAutoImplicit false
set_option autoImplicit false

namespace QueryChain

/-- What a chain hands to its executor: its statement, if it has one. -/
def Chain.queries (rules : NameRules) (c : Chain) : List DriverCall :=
  match c.compile rules with
  | .ok compiled => [.query compiled.sql compiled.params]
  | .error _ => []

/-- A chain hands over one statement at most. -/
theorem Chain.length_queries_le (rules : NameRules) (c : Chain) :
    (c.queries rules).length ≤ 1 := by
  unfold queries
  cases c.compile rules with
  | ok compiled => exact Nat.le_refl 1
  | error f => exact Nat.zero_le 1

/-- Every query of an executor shows as one call, of the query as it is. -/
def Executor.Records {σ : Type} (e : Executor σ) : Prop :=
  ∀ (sql : String) (params : List Value) (s : σ),
    Event.calls ((e.query sql params).run s).events = [.query sql params]

/-- A scripted executor records its queries. -/
theorem Executor.records_scripted (name : String) (disposable : Bool) :
    (scripted name disposable).Records :=
  calls_scriptedQuery

namespace Builder

variable {σ : Type} {db : Database σ} {fetch : Fetch} {b : Builder}

section Settling

variable {f : Failure} {text : String} {r : Refusal}

/-- An error that is no reported one is wrapped with its text. -/
theorem run_settle_of_text (unreported : ∀ e, f ≠ .coded e) (error : f.isError = true)
    (said : f.text = .ok text) (table : Value) (sql : String) (s : σ) :
    let wrapped := executionFailure table sql f text
    (settle fetch table sql (.error f)).run s
      = ⟨QueryResult.failure wrapped, s, wrapped.events.map .log⟩ := by
  cases f with
  | coded e => exact absurd rfl (unreported e)
  | _ =>
    simp only [settle, if_pos error]
    rw [Action.run_bind_of_ok (Action.run_awaitText_of_text said s),
      Action.run_bind_of_ok (Action.run_emit _ _), Action.run_ofExcept, List.append_nil]
    rfl

/-- If it refuses its text, the refusal is passed on. -/
theorem run_settle_of_refusal (unreported : ∀ e, f ≠ .coded e) (error : f.isError = true)
    (mute : f.text = .error r) (table : Value) (sql : String) (s : σ) :
    (settle fetch table sql (.error f)).run s
      = ⟨.error (r.failure.leaving "coroutine"), s, []⟩ := by
  cases f with
  | coded e => exact absurd rfl (unreported e)
  | _ =>
    simp only [settle, if_pos error]
    rw [Action.run_bind_of_error (Action.run_awaitText_of_refusal mute s)]

/-- What is no error is passed on as it is. -/
theorem run_settle_of_not_error (error : f.isError = false) (table : Value) (sql : String) (s : σ) :
    (settle fetch table sql (.error f)).run s = ⟨.error f, s, []⟩ := by
  cases f with
  | coded e => cases error
  | _ =>
    simp only [settle, error, Bool.false_eq_true, if_false]
    rfl

end Settling

/-- Settling leaves the state as it is, and can only log the failure that it wraps. -/
theorem run_settle (fetch : Fetch) (table : Value) (sql : String) (ended : Except Failure Reply) (s : σ) :
    ∃ (outcome : Except Failure QueryResult) (logged : List LogEvent),
      (settle fetch table sql ended).run s = ⟨outcome, s, logged.map .log⟩ := by
  cases ended with
  | ok reply => exact ⟨_, [], rfl⟩
  | error f =>
    by_cases reported : ∃ e, f = .coded e
    · obtain ⟨e, rfl⟩ := reported
      exact ⟨_, [], rfl⟩
    have unreported : ∀ e, f ≠ .coded e := fun e same => reported ⟨e, same⟩
    cases error : f.isError with
    | false => exact ⟨_, [], run_settle_of_not_error error table sql s⟩
    | true =>
      cases said : f.text with
      | ok text => exact ⟨_, _, run_settle_of_text unreported error said table sql s⟩
      | error r => exact ⟨_, [], run_settle_of_refusal unreported error said table sql s⟩

/-- Settling leaves the state as it is. -/
theorem state_settle (table : Value) (sql : String) (ended : Except Failure Reply) (s : σ) :
    ((settle fetch table sql ended).run s).state = s := by
  obtain ⟨outcome, logged, ran⟩ := run_settle fetch table sql ended s
  rw [ran]

/-- Settling makes no call: it can only log the failure that it wraps. -/
theorem calls_settle (table : Value) (sql : String) (ended : Except Failure Reply) (s : σ) :
    Event.calls ((settle fetch table sql ended).run s).events = [] := by
  obtain ⟨outcome, logged, ran⟩ := run_settle fetch table sql ended s
  rw [ran, Event.calls_map_log]

/-- A builder that was resolved before fails, and asks nothing. -/
theorem run_resolve_of_resolved (spent : b.resolved = true) (s : σ) :
    (b.resolve db fetch).run s
      = ⟨.error (.coded (CodedError.consumed b.chain.table)), s,
        (Failure.coded (CodedError.consumed b.chain.table)).events.map .log⟩ := by
  rw [resolve, if_pos spent]
  exact Action.run_fail _ s

/-- A chain that does not compile fails a resolution before the executor is asked. -/
theorem run_resolve_of_not_compile {f : Failure} (fresh : b.resolved = false)
    (h : b.chain.compile db.rules = .error f) (s : σ) :
    (b.resolve db fetch).run s = ⟨.error f, s, f.events.map .log⟩ := by
  have unspent : ¬ b.resolved = true := by simp [fresh]
  rw [resolve, if_neg unspent]
  unfold Chain.compile at h
  cases recorded : b.chain.toOperation with
  | error e =>
    rw [recorded] at h
    cases h
    exact Action.run_bind_of_error rfl
  | ok op =>
    rw [recorded] at h
    have refused : db.rules.compile op = .error f := h
    rw [Action.check_ok_bind, refused]
    exact Action.run_bind_of_error rfl

/-- A chain that compiles is announced, handed to the executor, and settled. -/
theorem run_resolve_of_compile (db : Database σ) (fetch : Fetch) {compiled : Compiled}
    (fresh : b.resolved = false) (h : b.chain.compile db.rules = .ok compiled) (s : σ) :
    ∃ op : Operation, b.chain.toOperation = .ok op ∧
      (b.resolve db fetch).run s =
        let asked := (db.executor.query compiled.sql compiled.params).run s
        let settled := (settle fetch b.chain.table compiled.sql asked.outcome).run asked.state
        ⟨settled.outcome, asked.state,
          .log (announcement op compiled) :: (asked.events ++ settled.events)⟩ := by
  have unspent : ¬ b.resolved = true := by simp [fresh]
  obtain ⟨op, recorded, written⟩ := bind_eq_ok.1 h
  refine ⟨op, recorded, ?_⟩
  rw [resolve, if_neg unspent, recorded, Action.check_ok_bind, written, Action.check_ok_bind,
    Action.run_bind_of_ok (Action.run_log _ _), Action.run_bind_of_ok (Action.run_attempt _ _),
    state_settle]
  rfl

/-- **A builder hands its statement over once**: an executor that records its queries records the
statement of the chain if the builder is fresh, and nothing otherwise. -/
theorem calls_resolve (records : db.executor.Records) (s : σ) :
    Event.calls ((b.resolve db fetch).run s).events
      = if b.resolved then [] else b.chain.queries db.rules := by
  cases fresh : b.resolved with
  | true => exact calls_resolve_of_resolved db fetch fresh s
  | false =>
    unfold Chain.queries
    cases h : b.chain.compile db.rules with
    | error f =>
      rw [run_resolve_of_not_compile fresh h]
      exact Event.calls_map_log _
    | ok compiled =>
      obtain ⟨op, -, ran⟩ := run_resolve_of_compile db fetch fresh h s
      rw [ran]
      have announced (events : List Event) :
          Event.calls (.log (announcement op compiled) :: events) = Event.calls events := rfl
      rw [announced, Event.calls_append, records, calls_settle, List.append_nil]
      rfl

end Builder

end QueryChain
