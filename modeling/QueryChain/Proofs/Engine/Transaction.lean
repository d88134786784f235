import QueryChain.Database.Resolve
import QueryChain.Proofs.Database.Builder
import QueryChain.Proofs.Engine.Row

/-!
# Statements in transactions

Every statement runs in a transaction of its own.  The engine is found and the placeholders are
rewritten before the transaction begins, and the rows are collected before it ends, so whatever can
fail fails either without a transaction or in one that is rolled back.

## Main definitions

* `DriverCall.onEngine`, `Event.engineCalls` — the calls to an engine.
* `Pool.ending` — the call that ends a transaction.

## Main results

* `Pool.run_acquire` — an engine is found without a call to it, or the run ends in a failure.
* `Pool.run_inTransaction` — the run of a statement in its transaction.
* `Pool.run_runStatement` — a statement fails before its transaction begins, or runs in one.
* `Builder.run_resolve_pooled` — the ways to resolve a builder through a pool.
* `Builder.ok_iff_committed` — a result is a success exactly when its transaction was committed.
-/

set_option relaxedAutoImplicit false
set_option autoImplicit false

namespace QueryChain

/-! ### Calls to an engine -/

/-- A call to an engine, and not one that creates it. -/
def DriverCall.onEngine : DriverCall → Bool
  | .query .. | .connect .. => false
  | _ => true

namespace Event

/-- The calls to an engine among events. -/
def engineCalls (events : List Event) : List DriverCall := (calls events).filter DriverCall.onEngine

@[simp] theorem engineCalls_nil : engineCalls [] = [] := rfl

/-- A call comes first if it goes to an engine. -/
@[simp] theorem engineCalls_call (c : DriverCall) (events : List Event) :
    engineCalls (.call c :: events)
      = if c.onEngine then c :: engineCalls events else engineCalls events := by
  have first : calls (.call c :: events) = c :: calls events := rfl
  rw [engineCalls, first, List.filter_cons]
  rfl

/-- A log event makes no call. -/
@[simp] theorem engineCalls_log (e : LogEvent) (events : List Event) :
    engineCalls (.log e :: events) = engineCalls events := rfl

/-- A span makes no call. -/
@[simp] theorem engineCalls_span (s : Span) (events : List Event) :
    engineCalls (.span s :: events) = engineCalls events := rfl

/-- The calls of a run and those of the next one. -/
@[simp] theorem engineCalls_append (xs ys : List Event) :
    engineCalls (xs ++ ys) = engineCalls xs ++ engineCalls ys := by
  rw [engineCalls, calls_append, List.filter_append]
  rfl

/-- Log events make no calls. -/
@[simp] theorem engineCalls_map_log (es : List LogEvent) : engineCalls (es.map log) = [] := by
  rw [engineCalls, calls_map_log]
  rfl

/-- What makes no call makes none to an engine. -/
theorem engineCalls_of_calls {events : List Event} (h : calls events = []) :
    engineCalls events = [] := by
  rw [engineCalls, h]
  rfl

end Event

namespace Pool

/-! ### The engine -/

/-- An engine is created without a call to an engine, and only attempts to connect are counted. -/
theorem run_create (pool : Pool) :
    ∃ (outcome : Except Failure Engine) (attempts : Nat) (events : List Event),
      create.run pool = ⟨outcome, { pool with attempts }, events⟩
        ∧ Event.engineCalls events = [] := by
  rw [create, Action.run_bind_of_ok (Action.run_get pool)]
  cases address : pool.settings.address? with
  | none => exact ⟨_, pool.attempts, _, rfl, Event.engineCalls_map_log _⟩
  | some url =>
    have answered : connect.run pool
        = ⟨(pool.driver.connect pool.attempts).outcome, { pool with attempts := pool.attempts + 1 },
          (pool.driver.connect pool.attempts).logged.map .log⟩ := rfl
    simp only
    rw [Action.run_bind_of_ok (Action.run_call _ _), Action.run_bind_of_ok (Action.run_attempt _ _),
      answered]
    cases (pool.driver.connect pool.attempts).outcome with
    | ok engine =>
      refine ⟨.ok engine, pool.attempts + 1, _, rfl, ?_⟩
      simp [Action.run_bind, DriverCall.onEngine]
    | error f =>
      simp only
      split
      · refine ⟨_, pool.attempts + 1, _, rfl, ?_⟩
        simp [DriverCall.onEngine]
      · refine ⟨_, pool.attempts + 1, _, rfl, ?_⟩
        simp [DriverCall.onEngine]

/-- An engine is found without a call to an engine.  Nothing of the pool changes but the engine that
it holds and the number of attempts to connect. -/
theorem run_acquire (pool : Pool) :
    ∃ (outcome : Except Failure Engine) (held : Option Engine) (attempts : Nat)
        (events : List Event),
      acquire.run pool = ⟨outcome, { pool with engine := held, attempts }, events⟩
        ∧ Event.engineCalls events = [] ∧ ∀ engine, outcome = .ok engine → held = some engine := by
  rw [acquire, Action.run_bind_of_ok (Action.run_get pool)]
  cases held : pool.engine with
  | some engine =>
    have same : ({ pool with engine := some engine } : Pool) = pool := by rw [← held]
    refine ⟨.ok engine, some engine, pool.attempts, [], ?_, rfl, fun e h => ?_⟩
    · rw [same]
      rfl
    · cases h
      rfl
  | none =>
    obtain ⟨outcome, attempts, events, ran, silent⟩ := run_create pool
    cases outcome with
    | error f =>
      simp only
      rw [Action.run_bind_of_error ran]
      refine ⟨.error f, none, attempts, events, ?_, silent, fun e h => by cases h⟩
      rw [← held]
      rfl
    | ok engine =>
      simp only
      rw [Action.run_bind_of_ok ran]
      refine ⟨.ok engine, some engine, attempts, events ++ [], rfl, ?_, fun e h => ?_⟩
      · rw [List.append_nil]
        exact silent
      · cases h
        rfl

/-! ### One transaction -/

/-- The call that ends a transaction: it is committed when the statement ran and its rows were
collected, and rolled back otherwise. -/
def ending {α : Type} : Except Failure α → DriverCall
  | .ok _ => .commit
  | .error _ => .rollback

/-- What a pool collects of the next statement. -/
def collected (pool : Pool) : Except Failure (List Value × Int) :=
  (pool.driver.execute pool.statements).outcome >>= collect

/-- The run of a statement in its transaction: the calls that begin it, run the statement and end
it. -/
theorem run_inTransaction (text : String) (bound : Option BoundParams) (pool : Pool) :
    (inTransaction text bound).run pool =
      ⟨pool.collected, { pool with statements := pool.statements + 1 },
        [.call .begin, .call (.statement text bound)]
          ++ ((pool.driver.execute pool.statements).logged.map .log
            ++ [.call (ending pool.collected)])⟩ := by
  have ran : (execute >>= fun produced => Action.ofExcept (collect produced)).run pool
      = ⟨pool.collected, { pool with statements := pool.statements + 1 },
        (pool.driver.execute pool.statements).logged.map .log⟩ := by
    have executed : execute.run pool = ⟨(pool.driver.execute pool.statements).outcome,
        { pool with statements := pool.statements + 1 },
        (pool.driver.execute pool.statements).logged.map .log⟩ := rfl
    unfold collected
    cases outcome : (pool.driver.execute pool.statements).outcome with
    | error f =>
      rw [outcome] at executed
      exact Action.run_bind_of_error executed
    | ok produced =>
      rw [outcome] at executed
      rw [Action.run_bind_of_ok executed, Action.run_ofExcept, List.append_nil]
      rfl
  have taken := Action.run_attempt (execute >>= fun produced => Action.ofExcept (collect produced))
    pool
  rw [ran] at taken
  rw [inTransaction, Action.run_bind_of_ok (Action.run_call _ _),
    Action.run_bind_of_ok (Action.run_call _ _), Action.run_bind_of_ok taken,
    Action.run_bind_of_ok (Action.run_call _ _)]
  cases pool.collected <;> rfl

/-- A statement that failed ends with a failure, and makes no call: it can only log. -/
theorem run_failStatement (sql : String) (params : List Value) (f : Failure) (pool : Pool) :
    ∃ (g : Failure) (logged : List LogEvent),
      (failStatement sql params f).run pool = ⟨.error g, pool, logged.map .log⟩ := by
  cases error : f.isError with
  | false =>
    refine ⟨f, [], ?_⟩
    simp only [failStatement, error, Bool.false_eq_true, if_false]
    rfl
  | true =>
    simp only [failStatement, error, if_true]
    cases said : f.text with
    | error r =>
      exact ⟨_, [], Action.run_bind_of_error (Action.run_awaitText_of_refusal said pool)⟩
    | ok text =>
      rw [Action.run_bind_of_ok (Action.run_awaitText_of_text said pool),
        Action.run_bind_of_ok (Action.run_log _ _), Action.run_fail]
      exact ⟨_, _ :: _, rfl⟩

/-- A statement whose placeholders are rewritten for the engine that is found runs in a transaction,
which ends as the collection of its rows does, and the result has these rows. -/
theorem run_runStatement_of_translated {sql text : String} {params : List Value} {pool : Pool}
    {engine : Engine} {bound : BoundParams} (acquired : (acquire.run pool).outcome = .ok engine)
    (translated : translate sql (.list params) engine.styleName = .ok (text, bound)) :
    let ran := (runStatement sql params).run pool
    ran.state.engine = some engine
      ∧ Event.engineCalls ran.events
        = [.begin, .statement text (if params.isEmpty then none else some bound),
          ending pool.collected]
      ∧ match pool.collected with
        | .ok (rows, count) =>
          ran.outcome = DriverResult.ofRows (.list rows) (some (.int count))
        | .error _ => ∃ f, ran.outcome = .error f := by
  intro ran
  obtain ⟨outcome, held, attempts, events, found, silent, holds⟩ := run_acquire pool
  rw [found] at acquired
  cases acquired
  obtain rfl := holds engine rfl
  have next : ran = _ := Action.run_bind_of_ok found
  have taken := Action.run_attempt
    (inTransaction text (if params.isEmpty then none else some bound))
    { pool with engine := some engine, attempts }
  rw [run_inTransaction] at taken
  rw [next, translated, Action.check_ok_bind, Action.run_bind_of_ok taken]
  have same : collected { pool with engine := some engine, attempts } = pool.collected := rfl
  rw [same]
  cases pool.collected with
  | error f =>
    obtain ⟨g, logged, failed⟩ := run_failStatement sql params f
      { pool with engine := some engine, attempts, statements := pool.statements + 1 }
    simp only
    rw [failed]
    refine ⟨rfl, ?_, g, rfl⟩
    simp [DriverCall.onEngine, ending, silent]
  | ok rows =>
    refine ⟨rfl, ?_, rfl⟩
    simp [Action.run_bind, DriverCall.onEngine, ending, silent]

/-- **A statement fails before its transaction begins, or runs in one.**  The engine and the
rewritten placeholders are found first; then the transaction ends as the collection of its rows
does, and the result has these rows. -/
theorem run_runStatement (sql : String) (params : List Value) (pool : Pool) :
    let ran := (runStatement sql params).run pool
    (Event.engineCalls ran.events = [] ∧ ∃ f, ran.outcome = .error f)
      ∨ ∃ (engine : Engine) (text : String) (bound : BoundParams),
        ran.state.engine = some engine
          ∧ translate sql (.list params) engine.styleName = .ok (text, bound)
          ∧ Event.engineCalls ran.events
            = [.begin, .statement text (if params.isEmpty then none else some bound),
              ending pool.collected]
          ∧ match pool.collected with
            | .ok (rows, count) =>
              ran.outcome = DriverResult.ofRows (.list rows) (some (.int count))
            | .error _ => ∃ f, ran.outcome = .error f := by
  intro ran
  obtain ⟨outcome, held, attempts, events, acquired, silent, -⟩ := run_acquire pool
  cases outcome with
  | error f =>
    have failed : ran = ⟨.error f, _, events⟩ := Action.run_bind_of_error acquired
    rw [failed]
    exact .inl ⟨silent, f, rfl⟩
  | ok engine =>
    cases translated : translate sql (.list params) engine.styleName with
    | error f =>
      have next : ran = _ := Action.run_bind_of_ok acquired
      rw [next, translated, Action.run_bind_of_error (Action.run_check_error f _)]
      exact .inl ⟨by simp [silent], f, rfl⟩
    | ok rewritten =>
      obtain ⟨text, bound⟩ := rewritten
      obtain ⟨holds, called, ended⟩ :=
        run_runStatement_of_translated (by rw [acquired]) translated
      exact .inr ⟨engine, text, bound, holds, translated, called, ended⟩

/-- The attributes of a span are found, whatever the parameters are. -/
theorem run_spanAttributes (sql : String) (params : List Value) (pool : Pool) :
    ∃ entries : Value.Entries,
      (spanAttributes sql (.list params)).run pool = ⟨.ok (.map entries), pool, []⟩ := by
  cases params with
  | nil => exact ⟨_, rfl⟩
  | cons v vs => exact ⟨_, rfl⟩

/-- A query with a list of parameters runs its statement inside a span. -/
theorem query_eq_traced (sql : String) (params : List Value) :
    query sql (.list params)
      = Action.traced spanLabel (spanAttributes sql (.list params)) (runStatement sql params) := by
  cases params with
  | nil => rfl
  | cons v vs => rfl

/-- The span around a statement passes its failure on and adds no call. -/
theorem run_query (sql : String) (params : List Value) (pool : Pool) :
    let ran := (query sql (.list params)).run pool
    let inner := (runStatement sql params).run pool
    ran.outcome = inner.outcome.mapError Failure.passing ∧ ran.state = inner.state
      ∧ Event.engineCalls ran.events = Event.engineCalls inner.events := by
  obtain ⟨entries, found⟩ := run_spanAttributes sql params pool
  intro ran inner
  have spanned : ran = _ := (congrArg (Action.run · pool) (query_eq_traced sql params)).trans
    (Action.run_traced_of_attributes (Action.run_attributes_of_map found))
  rw [spanned]
  refine ⟨rfl, rfl, ?_⟩
  rw [List.nil_append, Event.engineCalls_append, Event.engineCalls_span]
  exact List.append_nil _

end Pool

/-- The pooled executor hands on what the statement ended with, behind its span. -/
theorem Executor.run_pooled (sql : String) (params : List Value) (pool : Pool) :
    let ran := (Executor.pooled.query sql params).run pool
    let inner := (Pool.runStatement sql params).run pool
    ran.outcome = (inner.outcome.mapError Failure.passing).map .result ∧ ran.state = inner.state
      ∧ Event.engineCalls ran.events = Event.engineCalls inner.events := by
  intro ran inner
  obtain ⟨outcome, state, calls⟩ := Pool.run_query sql params pool
  have mapped : ran = _ := Action.run_bind_pure (Pool.query sql (.list params)) Reply.result pool
  rw [mapped]
  exact ⟨congrArg (Except.map Reply.result) outcome, state, calls⟩

namespace Builder

/-! ### Results -/

/-- A failure is never settled as a success. -/
theorem ok_of_settle_error {σ : Type} {fetch : Fetch} {table : Value} {sql : String} {f : Failure}
    {s : σ} {r : QueryResult}
    (h : ((settle fetch table sql (.error f)).run s).outcome = .ok r) : r.ok = false := by
  have failed {f : Failure} (h : QueryResult.failure f = .ok r) : r.ok = false := by
    obtain ⟨e, -, rfl⟩ := map_eq_ok.1 h
    rfl
  by_cases reported : ∃ e, f = .coded e
  · obtain ⟨e, rfl⟩ := reported
    exact failed h
  have unreported : ∀ e, f ≠ .coded e := fun e same => reported ⟨e, same⟩
  cases error : f.isError with
  | false =>
    rw [run_settle_of_not_error error] at h
    cases h
  | true =>
    cases said : f.text with
    | ok text =>
      rw [run_settle_of_text unreported error said] at h
      exact failed (f := executionFailure table sql f text) h
    | error r =>
      rw [run_settle_of_refusal unreported error said] at h
      cases h

variable {rules : NameRules} {b : Builder} {compiled : Compiled}

/-- Resolving a builder through a pool runs its statement and settles what that ended with. -/
theorem run_resolve_statement (fetch : Fetch) (fresh : b.resolved = false)
    (h : b.chain.compile rules = .ok compiled) (pool : Pool) :
    let ran := (b.resolve ⟨Executor.pooled, rules⟩ fetch).run pool
    let inner := (Pool.runStatement compiled.sql compiled.params).run pool
    ran.outcome = ((settle fetch b.chain.table compiled.sql
        ((inner.outcome.mapError Failure.passing).map Reply.result)).run inner.state).outcome
      ∧ ran.state = inner.state
      ∧ Event.engineCalls ran.events = Event.engineCalls inner.events := by
  obtain ⟨op, -, resolved⟩ := run_resolve_of_compile ⟨Executor.pooled, rules⟩ fetch fresh h pool
  obtain ⟨outcome, state, calls⟩ := Executor.run_pooled compiled.sql compiled.params pool
  intro ran inner
  have same : ran = _ := resolved
  rw [same]
  refine ⟨?_, state, ?_⟩
  · simp only [outcome, state]
    rfl
  · rw [Event.engineCalls_log, Event.engineCalls_append,
      Event.engineCalls_of_calls (calls_settle _ _ _ _), List.append_nil]
    exact calls

/-- **The ways to resolve a builder through a pool.**  No transaction begins, or the transaction is
rolled back, and then the result is no success; or the transaction is committed, and the result has
the rows of the driver. -/
theorem run_resolve_pooled (fetch : Fetch) (fresh : b.resolved = false)
    (h : b.chain.compile rules = .ok compiled) (pool : Pool)
    (keyed : ∀ produced, (pool.driver.execute pool.statements).outcome = .ok produced →
      produced.Keyed) :
    let ran := (b.resolve ⟨Executor.pooled, rules⟩ fetch).run pool
    let fails := ∀ r, ran.outcome = .ok r → r.ok = false
    (Event.engineCalls ran.events = [] ∧ fails)
      ∨ ∃ (engine : Engine) (text : String) (bound : BoundParams) (last : DriverCall),
        ran.state.engine = some engine
          ∧ translate compiled.sql (.list compiled.params) engine.styleName = .ok (text, bound)
          ∧ Event.engineCalls ran.events
            = [.begin, .statement text (if compiled.params.isEmpty then none else some bound), last]
          ∧ (last = .rollback ∧ fails
            ∨ last = .commit ∧ ∃ produced rows,
              (pool.driver.execute pool.statements).outcome = .ok produced
                ∧ produced.Yields rows ∧ ran.outcome = .ok (.success (fetch.data rows))) := by
  intro ran fails
  obtain ⟨settled, state, calls⟩ := run_resolve_statement fetch fresh h pool
  have unsuccessful {f : Failure}
      (failed : ((Pool.runStatement compiled.sql compiled.params).run pool).outcome = .error f) :
      fails := by
    intro r ended
    rw [failed] at settled
    exact ok_of_settle_error (settled.symm.trans ended)
  rcases Pool.run_runStatement compiled.sql compiled.params pool with
    ⟨none, f, failed⟩ | ⟨engine, text, bound, held, translated, called, ended⟩
  · exact .inl ⟨calls.trans none, unsuccessful failed⟩
  · refine .inr ⟨engine, text, bound, _, (congrArg Pool.engine state).trans held, translated,
      calls.trans called, ?_⟩
    cases collected : pool.collected with
    | error e =>
      rw [collected] at ended
      obtain ⟨f, failed⟩ := ended
      exact .inl ⟨rfl, unsuccessful failed⟩
    | ok both =>
      obtain ⟨rows, count⟩ := both
      rw [collected] at ended
      obtain ⟨produced, answered, taken⟩ := bind_eq_ok.1 collected
      have yields := Pool.collect_eq_ok taken
      obtain ⟨result, made, kept⟩ :=
        DriverResult.ofRows_of_keyed (keyed produced answered) yields count
      refine .inr ⟨rfl, produced, rows, answered, yields, ?_⟩
      rw [ended, made] at settled
      rw [← kept]
      exact settled

/-- **A result is a success exactly when its transaction was committed.**  Let a fresh builder that
compiles be resolved through a pool, whatever the pool holds and however its driver answers, as long
as the rows that it produces have texts for keys.

* The engine gets no call, or three: a transaction begins, the statement runs in it, with the
  parameters that it binds if there are any, and the transaction ends.
* The result is a success if and only if the end is a commit, and then its data are the rows of the
  driver.
* The result is a failure only if the end is a rollback or no transaction began.

**Proof sketch.**  What can fail in front of the statement fails before the transaction begins, and
what can fail behind it, the collection of its rows included, fails before the transaction ends.
Rows that were collected pass into the result as they are. -/
theorem ok_iff_committed (fetch : Fetch) (fresh : b.resolved = false)
    (h : b.chain.compile rules = .ok compiled) (pool : Pool)
    (keyed : ∀ produced, (pool.driver.execute pool.statements).outcome = .ok produced →
      produced.Keyed) :
    let ran := (b.resolve ⟨Executor.pooled, rules⟩ fetch).run pool
    let calls := Event.engineCalls ran.events
    (calls = [] ∨ ∃ (engine : Engine) (text : String) (bound : BoundParams) (last : DriverCall),
        ran.state.engine = some engine
          ∧ translate compiled.sql (.list compiled.params) engine.styleName = .ok (text, bound)
          ∧ calls
            = [.begin, .statement text (if compiled.params.isEmpty then none else some bound), last]
          ∧ (last = .commit ∨ last = .rollback))
      ∧ ((∃ r, ran.outcome = .ok r ∧ r.ok = true) ↔ DriverCall.commit ∈ calls)
      ∧ (DriverCall.commit ∈ calls → ∃ produced rows,
        (pool.driver.execute pool.statements).outcome = .ok produced ∧ produced.Yields rows
          ∧ ran.outcome = .ok (.success (fetch.data rows)))
      ∧ ∀ r, ran.outcome = .ok r → r.ok = false →
        calls = [] ∨ DriverCall.rollback ∈ calls := by
  intro ran calls
  have unsuccessful (fails : ∀ r, ran.outcome = .ok r → r.ok = false) :
      ¬ ∃ r, ran.outcome = .ok r ∧ r.ok = true := by
    rintro ⟨r, ended, ok⟩
    rw [fails r ended] at ok
    cases ok
  rcases run_resolve_pooled fetch fresh h pool keyed with ⟨none, fails⟩
    | ⟨engine, text, bound, last, held, translated, called, ⟨rfl, fails⟩
      | ⟨rfl, produced, rows, answered, yields, succeeds⟩⟩
  · have uncommitted : DriverCall.commit ∉ calls := by simp [calls, ran, none]
    exact ⟨.inl none, iff_of_false (unsuccessful fails) uncommitted,
      fun ends => absurd ends uncommitted, fun _ _ _ => .inl none⟩
  · have uncommitted : DriverCall.commit ∉ calls := by simp [calls, ran, called]
    have undone : DriverCall.rollback ∈ calls := by simp [calls, ran, called]
    exact ⟨.inr ⟨engine, text, bound, _, held, translated, called, .inr rfl⟩,
      iff_of_false (unsuccessful fails) uncommitted, fun ends => absurd ends uncommitted,
      fun _ _ _ => .inr undone⟩
  · have committed : DriverCall.commit ∈ calls := by simp [calls, ran, called]
    refine ⟨.inr ⟨engine, text, bound, _, held, translated, called, .inl rfl⟩,
      iff_of_true ⟨_, succeeds, rfl⟩ committed,
      fun _ => ⟨produced, rows, answered, yields, succeeds⟩, fun r ended failed => ?_⟩
    cases succeeds.symm.trans ended
    cases failed

/-- A pool that holds an engine for question marks: a query with one parameter answers one row. -/
theorem ok_iff_committed_row :
    let rules : NameRules := ⟨63, "id"⟩
    let chain := Chain.run rules (Chain.start (.text "users")) [.filter .eq (.text "id") (.int 7)]
    let row : Value := .map [(.text "id", .int 7), (.text "name", .text "Ada")]
    let driver : Driver :=
      ⟨fun _ => Answer.ok ⟨"qmark", "sqlite"⟩, fun _ => Answer.ok (.rows (.list [row]))⟩
    let pool : Pool := ⟨DatabaseSettings.default, driver, some ⟨"qmark", "sqlite"⟩, 0, 0⟩
    let ran := (resolve ⟨Executor.pooled, rules⟩ .many ⟨chain, false⟩).run pool
    DriverCall.commit ∈ Event.engineCalls ran.events
      ∧ ran.outcome = .ok (.success (.list [row])) := by
  intro rules chain row driver pool ran
  have compiles : (chain.compile rules).toOption.isSome = true := by decide +kernel
  have ended : (ran.outcome.toOption.map QueryResult.ok) = some true := by decide +kernel
  have keyed : ∀ produced, (pool.driver.execute pool.statements).outcome = .ok produced →
      produced.Keyed := by
    rintro produced ⟨⟩ xs ⟨⟩ x hx entries found
    rw [List.mem_singleton.1 hx] at found
    cases found
    refine ⟨?_, ?_⟩
    · rw [Value.Entries.Distinct]
      decide
    · simp
  obtain ⟨compiled, h⟩ : ∃ compiled, chain.compile rules = .ok compiled := by
    cases h : chain.compile rules with
    | ok compiled => exact ⟨compiled, rfl⟩
    | error f =>
      rw [h] at compiles
      cases compiles
  obtain ⟨-, committed, succeeds, -⟩ :=
    ok_iff_committed .many (b := ⟨chain, false⟩) rfl h pool keyed
  have commits : DriverCall.commit ∈ Event.engineCalls ran.events := by
    refine committed.1 ?_
    cases settled : ran.outcome with
    | ok r =>
      rw [settled] at ended
      exact ⟨r, rfl, Option.some.inj ended⟩
    | error f =>
      rw [settled] at ended
      cases ended
  obtain ⟨produced, rows, answered, yields, outcome⟩ := succeeds commits
  cases answered
  obtain ⟨xs, elements, each⟩ := yields
  cases elements
  obtain ⟨only, rfl, e⟩ := List.map_eq_singleton_iff.1 each.symm
  cases e
  exact ⟨commits, outcome⟩

end Builder

end QueryChain
