import QueryChain.Proofs.Engine.Transaction

/-!
# The life of an engine

A pool is used for statements, for its engine, and to release it.  Whoever asks for a statement or
for the engine gets the engine held, or a new one, which is then held until it is released; if none
can be created nothing is held, and the next use tries again.  So engines and releases balance along
every run, and between two releases all work goes to one engine.

An engine that cannot be created is a failure of connecting.  Who looks at the engine ends with this
failure.  A statement ends with it behind its span, which asks for its text, and so for the text of
what the driver raised.

The engines that a driver hands out are values and may be equal.  What tells them apart is the
attempt that created each, and while an engine is held there is no further attempt.

## Main definitions

* `Pool.Use`, `Pool.use` — one use of a pool; `Pool.useAll`, `Pool.after` — one after the other.
* `Pool.Turn` — what one use can do.
* `Pool.creations` — the attempts that yielded an engine.

## Main results

* `Pool.turn_use` — one use does what `Pool.Turn` lists.
* `Pool.balance` — engines created and engines released balance along a run.
* `Pool.kept_of_held` — an engine held stays until it is released.
* `Pool.lifecycle` — the life of an engine, over all runs.
-/

set_option relaxedAutoImplicit false
set_option autoImplicit false

namespace QueryChain

namespace Event

@[simp] theorem calls_nil : calls [] = [] := rfl

@[simp] theorem calls_cons_call (c : DriverCall) (events : List Event) :
    calls (.call c :: events) = c :: calls events := rfl

@[simp] theorem calls_cons_log (e : LogEvent) (events : List Event) :
    calls (.log e :: events) = calls events := rfl

@[simp] theorem calls_cons_span (s : Span) (events : List Event) :
    calls (.span s :: events) = calls events := rfl

end Event

/-- Behind an outcome that is a value. -/
theorem Action.ofExcept_ok_bind {σ α β : Type} (a : α) (f : α → Action σ β) :
    (ofExcept (.ok a) >>= f) = f a := rfl

/-- Inside a span whose attributes are looked for without a change of the state and without a call,
found or not, an action ends as it does alone, with its failure passed on, and makes the same
calls. -/
theorem Action.run_traced_of_pure {σ α : Type} {label : SpanLabel} {find : Action σ Value}
    {body : Action σ α} {s : σ} {found : Except Failure Value}
    (ran : find.run s = ⟨found, s, []⟩) (fits : ∀ v, found = .ok v → ∃ entries, v = .map entries)
    (failed : ∀ f, found = .error f → f.isError = true ∧ ∃ text, f.text = .ok text) :
    let outer := (traced label find body).run s
    outer.outcome = (body.run s).outcome.mapError Failure.passing
      ∧ outer.state = (body.run s).state
      ∧ Event.calls outer.events = Event.calls (body.run s).events := by
  intro outer
  have sought : ∃ (entries : Value.Entries) (logged : List LogEvent),
      (attributes find).run s = ⟨.ok entries, s, logged.map .log⟩ := by
    cases found with
    | ok v =>
      obtain ⟨entries, rfl⟩ := fits v rfl
      exact ⟨_, [], run_attributes_of_map ran⟩
    | error f =>
      obtain ⟨error, text, said⟩ := failed f rfl
      exact ⟨[], [attributesFailed text], run_attributes_of_error ran error said⟩
  obtain ⟨entries, logged, sought⟩ := sought
  have spanned : outer = _ := run_traced_of_attributes sought
  rw [spanned]
  exact ⟨rfl, rfl, by simp⟩

namespace DriverCall

/-- An attempt to connect. -/
def isConnect : DriverCall → Bool
  | connect .. => true
  | _ => false

/-- The release of an engine. -/
def isRelease : DriverCall → Bool
  | dispose => true
  | _ => false

end DriverCall

namespace Pool

/-! ### Uses -/

/-- One use of a pool: a statement with its parameters, a look at the engine, or its release. -/
inductive Use where
  | query (sql : String) (params : Value)
  | read
  | dispose

/-- What a use yields. -/
inductive Yield where
  | rows (result : DriverResult)
  | engine (engine : Engine)
  | released

/-- Uses a pool once. -/
def use : Use → Action Pool Yield
  | .query sql params => do return .rows (← query sql params)
  | .read => do return .engine (← acquire)
  | .dispose => do
    dispose
    return .released

/-- Uses a pool time after time; a use that fails does not keep the later ones from running. -/
def useAll : List Use → Action Pool Unit
  | [] => return ()
  | u :: uses => do
    let _ ← (use u).attempt
    useAll uses

/-- A pool after some uses. -/
def after (pool : Pool) (uses : List Use) : Pool := ((useAll uses).run pool).state

/-- The calls of some uses. -/
def callsOf (pool : Pool) (uses : List Use) : List DriverCall :=
  Event.calls ((useAll uses).run pool).events

/-- The list of parameters that a query is given. -/
def listed (params : Value) : Except Failure (List Value) :=
  (if params.truthy then params.elements else .ok []).mapError .fault

/-- A use that asks for an engine: a look at it, and a statement whose parameters can be listed. -/
def Use.NeedsEngine : Use → Prop
  | .query _ params => ∃ given, listed params = .ok given
  | .read => True
  | .dispose => False

/-- The calls to an engine in a use that has it.  A statement is rewritten for that engine and runs
in a transaction. -/
def work (engine : Engine) (pool : Pool) : Use → List DriverCall
  | .query sql params =>
    match listed params with
    | .error _ => []
    | .ok given =>
      match translate sql (.list given) engine.styleName with
      | .error _ => []
      | .ok (text, bound) =>
        [.begin, .statement text (if given.isEmpty then none else some bound),
          ending pool.collected]
  | .read | .dispose => []

/-- A failure as a use ends with it.  That of a statement passes the span of the statement. -/
def Use.failing : Use → Failure → Failure
  | .query .., f => f.passing
  | .read, f | .dispose, f => f

/-- What becomes of a failure of an attempt to connect: errors are wrapped, and what is none is
passed on. -/
def refusal (settings : DatabaseSettings) (f : Failure) : Failure :=
  if f.isError then unreachable settings f else f

/-- What one use can do to a pool, with what it ends with, the pool that it leaves and the calls
that it makes. -/
inductive Turn (pool : Pool) : Use → Except Failure Yield → Pool → List DriverCall → Prop where
  | idle (free : pool.engine = none) : Turn pool .dispose (.ok .released) pool []
  | released {engine : Engine} (held : pool.engine = some engine) :
      Turn pool .dispose (.ok .released) { pool with engine := none } [.dispose]
  | unlisted {sql : String} {params : Value} {f : Failure} (h : listed params = .error f) :
      Turn pool (.query sql params) (.error f) pool []
  | unconfigured {u : Use} (needs : u.NeedsEngine) (free : pool.engine = none)
      (nowhere : pool.settings.address? = none) :
      Turn pool u (.error unconfigured) pool []
  | refused {u : Use} {url : String} {f : Failure} (needs : u.NeedsEngine)
      (free : pool.engine = none) (address : pool.settings.address? = some url)
      (answered : (pool.driver.connect pool.attempts).outcome = .error f) :
      Turn pool u (.error (u.failing (refusal pool.settings f)))
        { pool with attempts := pool.attempts + 1 }
        [.connect url (connectOptions pool.settings)]
  | created {u : Use} {url : String} {engine : Engine} {outcome : Except Failure Yield}
      {statements : Nat} (needs : u.NeedsEngine) (free : pool.engine = none)
      (address : pool.settings.address? = some url)
      (answered : (pool.driver.connect pool.attempts).outcome = .ok engine)
      (yields : u = .read → outcome = .ok (.engine engine)) :
      Turn pool u outcome
        { pool with engine := some engine, attempts := pool.attempts + 1, statements }
        (.connect url (connectOptions pool.settings) :: work engine pool u)
  | kept {u : Use} {engine : Engine} {outcome : Except Failure Yield} {statements : Nat}
      (needs : u.NeedsEngine) (held : pool.engine = some engine)
      (yields : u = .read → outcome = .ok (.engine engine)) :
      Turn pool u outcome { pool with statements } (work engine pool u)

/-! ### One use -/

/-- A failure that refuses nothing is what a use ends with. -/
theorem Use.failing_of_none {f : Failure} (u : Use) (h : f.refusal? = none) : u.failing f = f := by
  cases u with
  | query => exact Failure.passing_of_none h
  | read | dispose => rfl

/-- A pool without an address says so. -/
theorem refusal?_unconfigured : unconfigured.refusal? = none := by
  have said : unconfigured.text = .ok _ := rfl
  exact Failure.refusal?_of_text said

section Unreachable

variable {f : Failure} (settings : DatabaseSettings)

/-- The failure of an attempt to connect shows the text of what is behind it. -/
theorem text_unreachable (f : Failure) :
    ∃ around : String → String, (unreachable settings f).text = f.text.map around :=
  ⟨_, CodedError.text_of_cause (c := f.toCause) rfl rfl⟩

/-- It has a text if what is behind it has one. -/
theorem refusal?_unreachable_of_text {text : String} (said : f.text = .ok text) :
    (unreachable settings f).refusal? = none := by
  obtain ⟨around, told⟩ := text_unreachable settings f
  rw [said] at told
  exact Failure.refusal?_of_text told

/-- What is behind it refuses the text for both. -/
theorem refusal?_unreachable_of_refusal {r : Refusal} (mute : f.text = .error r) :
    (unreachable settings f).refusal? = some r.failure := by
  obtain ⟨around, told⟩ := text_unreachable settings f
  rw [mute] at told
  exact Failure.refusal?_of_error rfl told

end Unreachable

/-- The engine held is handed out as it is. -/
theorem run_acquire_of_held {pool : Pool} {engine : Engine} (held : pool.engine = some engine) :
    acquire.run pool = ⟨.ok engine, pool, []⟩ := by
  rw [acquire, Action.run_bind_of_ok (Action.run_get pool), held]
  rfl

/-- Without an address no engine is created. -/
theorem run_acquire_of_nowhere {pool : Pool} (free : pool.engine = none)
    (nowhere : pool.settings.address? = none) :
    acquire.run pool = ⟨.error unconfigured, pool, unconfigured.events.map .log⟩ := by
  have failed : create.run pool = ⟨.error unconfigured, pool, unconfigured.events.map .log⟩ := by
    rw [create, Action.run_bind_of_ok (Action.run_get pool), nowhere]
    rfl
  rw [acquire, Action.run_bind_of_ok (Action.run_get pool), free]
  simp only
  rw [Action.run_bind_of_error failed]
  rfl

/-- With an address there is one attempt to connect. -/
theorem run_create_of_address {pool : Pool} {url : String}
    (address : pool.settings.address? = some url) :
    ∃ events, Event.calls events = [.connect url (connectOptions pool.settings)]
      ∧ create.run pool =
        ⟨(pool.driver.connect pool.attempts).outcome.mapError (refusal pool.settings),
          { pool with attempts := pool.attempts + 1 }, events⟩ := by
  have connected : connect.attempt.run pool
      = ⟨.ok (pool.driver.connect pool.attempts).outcome,
        { pool with attempts := pool.attempts + 1 },
        (pool.driver.connect pool.attempts).logged.map .log⟩ := rfl
  rw [create, Action.run_bind_of_ok (Action.run_get pool), address]
  simp only
  rw [Action.run_bind_of_ok (Action.run_call _ _), Action.run_bind_of_ok connected]
  cases (pool.driver.connect pool.attempts).outcome with
  | ok engine =>
    refine ⟨_, ?_, rfl⟩
    simp [Action.run_bind]
  | error f =>
    simp only [Except.mapError, refusal]
    split
    · refine ⟨_, ?_, rfl⟩
      simp
    · refine ⟨_, ?_, rfl⟩
      simp

/-- With an address the engine that the attempt to connect yields is held from then on. -/
theorem run_acquire_of_address {pool : Pool} {url : String} (free : pool.engine = none)
    (address : pool.settings.address? = some url) :
    ∃ events, Event.calls events = [.connect url (connectOptions pool.settings)]
      ∧ acquire.run pool =
        match (pool.driver.connect pool.attempts).outcome with
        | .ok engine =>
          ⟨.ok engine, { pool with engine := some engine, attempts := pool.attempts + 1 }, events⟩
        | .error f =>
          ⟨.error (refusal pool.settings f), { pool with attempts := pool.attempts + 1 },
            events⟩ := by
  obtain ⟨events, connects, created⟩ := run_create_of_address address
  rw [acquire, Action.run_bind_of_ok (Action.run_get pool), free]
  simp only
  cases answered : (pool.driver.connect pool.attempts).outcome with
  | ok engine =>
    rw [answered] at created
    rw [Action.run_bind_of_ok created]
    refine ⟨_, ?_, rfl⟩
    simp [Action.run_bind, connects]
  | error f =>
    rw [answered] at created
    rw [Action.run_bind_of_error created, ← free]
    exact ⟨events, connects, rfl⟩

/-- Once an engine is found, a statement changes nothing of the pool but the number of statements,
and its calls are the work on that engine. -/
theorem run_runStatement_of_acquired (sql : String) (params : List Value) {pool held : Pool}
    {engine : Engine} {events : List Event}
    (acquired : acquire.run pool = ⟨.ok engine, held, events⟩) :
    let ran := (runStatement sql params).run pool
    (∃ statements, ran.state = { held with statements })
      ∧ Event.calls ran.events = Event.calls events ++
        match translate sql (.list params) engine.styleName with
        | .error _ => []
        | .ok (text, bound) =>
          [.begin, .statement text (if params.isEmpty then none else some bound),
            ending held.collected] := by
  intro ran
  have next : ran = _ := Action.run_bind_of_ok acquired
  cases translated : translate sql (.list params) engine.styleName with
  | error f =>
    rw [next, translated, Action.run_bind_of_error (Action.run_check_error f held)]
    exact ⟨⟨held.statements, rfl⟩, by simp⟩
  | ok rewritten =>
    obtain ⟨text, bound⟩ := rewritten
    have taken := Action.run_attempt
      (inTransaction text (if params.isEmpty then none else some bound)) held
    rw [run_inTransaction] at taken
    rw [next, translated, Action.check_ok_bind, Action.run_bind_of_ok taken]
    cases collects : held.collected with
    | ok rows => exact ⟨⟨held.statements + 1, rfl⟩, by simp [Action.run_bind]⟩
    | error f =>
      obtain ⟨g, logged, failed⟩ :=
        run_failStatement sql params f { held with statements := held.statements + 1 }
      simp only
      rw [failed]
      exact ⟨⟨held.statements + 1, rfl⟩, by simp⟩

/-- The span around a statement passes its failure on, and makes no call, whatever is given for the
parameters. -/
theorem run_query_listed (sql : String) (params : Value) (pool : Pool) :
    let ran := (query sql params).run pool
    let inner := (Action.ofExcept (listed params) >>= runStatement sql).run pool
    ran.outcome = inner.outcome.mapError Failure.passing ∧ ran.state = inner.state
      ∧ Event.calls ran.events = Event.calls inner.events := by
  have found : ∃ found, (spanAttributes sql params).run pool = ⟨found, pool, []⟩
      ∧ (∀ v, found = .ok v → ∃ entries, v = .map entries)
      ∧ ∀ f, found = .error f → f.isError = true ∧ ∃ text, f.text = .ok text := by
    rw [spanAttributes, Action.run_bind_of_ok (Action.run_get pool)]
    cases (if params.truthy then params.length else .ok 0) with
    | ok count =>
      exact ⟨.ok _, rfl, fun v h => ⟨_, (Except.ok.inj h).symm⟩, fun f h => by cases h⟩
    | error fault =>
      refine ⟨.error (.fault fault), rfl, fun v h => (by cases h), fun f h => ?_⟩
      cases h
      exact ⟨rfl, fault.message, rfl⟩
  obtain ⟨found, ran, fits, failed⟩ := found
  exact Action.run_traced_of_pure ran fits failed

/-- What keeps parameters from being listed tells its text. -/
theorem passing_of_unlisted {params : Value} {f : Failure} (h : listed params = .error f) :
    f.passing = f := by
  unfold listed at h
  cases fault : (if params.truthy then params.elements else .ok []) with
  | ok given =>
    rw [fault] at h
    cases h
  | error g =>
    rw [fault] at h
    cases h
    have said : (Failure.fault g).text = .ok g.message := rfl
    exact Failure.passing_of_none (Failure.refusal?_of_text said)

/-- A query whose parameters cannot be listed fails before it asks for an engine. -/
theorem run_use_of_unlisted {params : Value} {f : Failure} (h : listed params = .error f)
    (sql : String) (pool : Pool) :
    let ran := (use (.query sql params)).run pool
    ran.outcome = .error f ∧ ran.state = pool ∧ Event.calls ran.events = [] := by
  intro ran
  obtain ⟨outcome, state, calls⟩ := run_query_listed sql params pool
  have mapped : ran = _ := Action.run_bind_pure (query sql params) Yield.rows pool
  rw [h] at outcome state calls
  rw [mapped, outcome]
  exact ⟨congrArg Except.error (passing_of_unlisted h), state, calls⟩

/-- A use that asks for an engine in vain ends there. -/
theorem run_use_of_refused {u : Use} {pool held : Pool} {f : Failure} {events : List Event}
    (needs : u.NeedsEngine) (refused : acquire.run pool = ⟨.error f, held, events⟩) :
    let ran := (use u).run pool
    ran.outcome = .error (u.failing f) ∧ ran.state = held
      ∧ Event.calls ran.events = Event.calls events := by
  intro ran
  cases u with
  | dispose => exact needs.elim
  | read =>
    have ended : ran = _ := Action.run_bind_of_error refused
    rw [ended]
    exact ⟨rfl, rfl, rfl⟩
  | query sql params =>
    obtain ⟨given, h⟩ := needs
    obtain ⟨outcome, state, calls⟩ := run_query_listed sql params pool
    have mapped : ran = _ := Action.run_bind_pure (query sql params) Yield.rows pool
    have inner : (runStatement sql given).run pool = ⟨.error f, held, events⟩ :=
      Action.run_bind_of_error refused
    rw [h, Action.ofExcept_ok_bind, inner] at outcome state calls
    rw [mapped]
    exact ⟨congrArg (Except.map Yield.rows) outcome, state, calls⟩

/-- A use that asks for an engine and finds one does its work on it, and changes nothing else of the
pool than the number of statements. -/
theorem run_use_of_acquired {u : Use} {pool held : Pool} {engine : Engine} {events : List Event}
    (needs : u.NeedsEngine) (acquired : acquire.run pool = ⟨.ok engine, held, events⟩) :
    let ran := (use u).run pool
    (u = .read → ran.outcome = .ok (.engine engine))
      ∧ (∃ statements, ran.state = { held with statements })
      ∧ Event.calls ran.events = Event.calls events ++ work engine held u := by
  intro ran
  cases u with
  | dispose => exact needs.elim
  | read =>
    have ended : ran = _ := Action.run_bind_of_ok acquired
    rw [ended]
    exact ⟨fun _ => rfl, ⟨held.statements, rfl⟩, by simp [work]⟩
  | query sql params =>
    obtain ⟨given, h⟩ := needs
    obtain ⟨-, state, calls⟩ := run_query_listed sql params pool
    have mapped : ran = _ := Action.run_bind_pure (query sql params) Yield.rows pool
    obtain ⟨⟨statements, counted⟩, worked⟩ := run_runStatement_of_acquired sql given acquired
    rw [h, Action.ofExcept_ok_bind] at state calls
    rw [mapped, work, h]
    exact ⟨fun e => (by cases e), ⟨statements, state.trans counted⟩, calls.trans worked⟩

/-- One use of a pool does what is listed. -/
theorem turn_use (u : Use) (pool : Pool) :
    let ran := (use u).run pool
    Turn pool u ran.outcome ran.state (Event.calls ran.events) := by
  intro ran
  by_cases needs : u.NeedsEngine
  · cases held : pool.engine with
    | some engine =>
      obtain ⟨yields, ⟨statements, state⟩, calls⟩ :=
        run_use_of_acquired needs (run_acquire_of_held held)
      rw [state, calls]
      exact .kept needs held yields
    | none =>
      cases address : pool.settings.address? with
      | none =>
        obtain ⟨outcome, state, calls⟩ :=
          run_use_of_refused needs (run_acquire_of_nowhere held address)
        rw [outcome, state, calls, Event.calls_map_log]
        rw [u.failing_of_none refusal?_unconfigured]
        exact .unconfigured needs held address
      | some url =>
        obtain ⟨events, connects, acquired⟩ := run_acquire_of_address held address
        cases answered : (pool.driver.connect pool.attempts).outcome with
        | error f =>
          rw [answered] at acquired
          obtain ⟨outcome, state, calls⟩ := run_use_of_refused needs acquired
          rw [outcome, state, calls, connects]
          exact .refused needs held address answered
        | ok engine =>
          rw [answered] at acquired
          obtain ⟨yields, ⟨statements, state⟩, calls⟩ := run_use_of_acquired needs acquired
          rw [state, calls, connects]
          exact .created needs held address answered yields
  · cases u with
    | read => exact absurd trivial needs
    | query sql params =>
      cases h : listed params with
      | ok given => exact absurd ⟨given, h⟩ needs
      | error f =>
        obtain ⟨outcome, state, calls⟩ := run_use_of_unlisted h sql pool
        rw [outcome, state, calls]
        exact .unlisted h
    | dispose =>
      have got := Action.run_get pool
      cases held : pool.engine with
      | none =>
        have released : dispose.run pool = ⟨.ok (), pool, []⟩ := by
          rw [dispose, Action.run_bind_of_ok got, held]
          rfl
        have ended : ran = _ := Action.run_bind_of_ok released
        rw [ended]
        exact .idle held
      | some engine =>
        have released : dispose.run pool = ⟨.ok (), { pool with engine := none },
            [.call .dispose, .log (event .info "Disposed database engine" [] .unasked)]⟩ := by
          rw [dispose, Action.run_bind_of_ok got, held]
          rfl
        have ended : ran = _ := Action.run_bind_of_ok released
        rw [ended]
        exact .released held

/-! ### What one use preserves -/

/-- The engines held: one, or none. -/
def held (pool : Pool) : Nat := pool.engine.toList.length

/-- The attempts to connect between two states of a pool that yielded an engine. -/
def creations (pool later : Pool) : Nat :=
  (List.range' pool.attempts (later.attempts - pool.attempts)).countP fun n =>
    (pool.driver.connect n).outcome.isOk

/-- Work on an engine neither connects nor releases. -/
theorem onEngine_of_mem_work {engine : Engine} {pool : Pool} {u : Use} {c : DriverCall}
    (h : c ∈ work engine pool u) :
    c.onEngine = true ∧ c.isConnect = false ∧ c.isRelease = false := by
  cases u with
  | read => cases h
  | dispose => cases h
  | query sql params =>
    rw [work] at h
    split at h
    · cases h
    · split at h
      · cases h
      · simp only [List.mem_cons, List.not_mem_nil, or_false] at h
        rcases h with rfl | rfl | rfl
        · exact ⟨rfl, rfl, rfl⟩
        · exact ⟨rfl, rfl, rfl⟩
        · cases pool.collected <;> exact ⟨rfl, rfl, rfl⟩

@[simp] theorem countP_isConnect_work (engine : Engine) (pool : Pool) (u : Use) :
    (work engine pool u).countP DriverCall.isConnect = 0 :=
  List.countP_eq_zero.2 fun _ hc => by simp [(onEngine_of_mem_work hc).2.1]

@[simp] theorem countP_isRelease_work (engine : Engine) (pool : Pool) (u : Use) :
    (work engine pool u).countP DriverCall.isRelease = 0 :=
  List.countP_eq_zero.2 fun _ hc => by simp [(onEngine_of_mem_work hc).2.2]

namespace Turn

variable {pool later : Pool} {u : Use} {outcome : Except Failure Yield} {calls : List DriverCall}

/-- The settings and the driver stay as they are. -/
theorem same (h : Turn pool u outcome later calls) :
    later.settings = pool.settings ∧ later.driver = pool.driver := by
  cases h <;> exact ⟨rfl, rfl⟩

/-- Every attempt to connect is a call. -/
theorem attempts_eq (h : Turn pool u outcome later calls) :
    later.attempts = pool.attempts + calls.countP DriverCall.isConnect := by
  cases h <;> simp [List.countP_cons, DriverCall.isConnect]

/-- Engines created and engines released balance. -/
theorem balance (h : Turn pool u outcome later calls) :
    pool.held + pool.creations later = calls.countP DriverCall.isRelease + later.held := by
  cases h with
  | idle free => simp [held, creations, free]
  | released occupied => simp [held, creations, occupied, DriverCall.isRelease]
  | unlisted => simp [creations]
  | unconfigured _ free => simp [creations]
  | refused _ free _ answered =>
    simp [held, creations, free, answered, DriverCall.isRelease, Except.isOk, Except.toBool]
  | created _ free _ answered =>
    simp [held, creations, free, answered, DriverCall.isRelease, Except.isOk, Except.toBool]
  | kept _ occupied => simp [held, creations]

/-- Every attempt to connect has the address and the options of the settings. -/
theorem of_connect_mem {url : String} {options : Fields} (h : Turn pool u outcome later calls)
    (mem : .connect url options ∈ calls) :
    pool.settings.address? = some url ∧ options = connectOptions pool.settings := by
  have working {engine : Engine} (mem : .connect url options ∈ work engine pool u) : False := by
    cases (onEngine_of_mem_work mem).2.1
  cases h with
  | idle | unlisted | unconfigured => cases mem
  | released => cases List.mem_singleton.1 mem
  | refused _ _ address =>
    cases List.mem_singleton.1 mem
    exact ⟨address, rfl⟩
  | created _ _ address =>
    rcases List.mem_cons.1 mem with e | mem
    · cases e
      exact ⟨address, rfl⟩
    · exact (working mem).elim
  | kept => exact (working mem).elim

/-- Without a release an engine held stays, and there is no further attempt. -/
theorem kept_of_held {engine : Engine} (h : Turn pool u outcome later calls) (keeps : u ≠ .dispose)
    (occupied : pool.engine = some engine) :
    later.engine = some engine ∧ later.attempts = pool.attempts := by
  have free_not (free : pool.engine = none) : False := by
    rw [occupied] at free
    cases free
  cases h with
  | idle | released => exact absurd rfl keeps
  | unlisted | kept => exact ⟨occupied, rfl⟩
  | unconfigured _ free | refused _ free | created _ free => exact (free_not free).elim

/-- A use without a release releases nothing. -/
theorem countP_isRelease_eq_zero (h : Turn pool u outcome later calls) (keeps : u ≠ .dispose) :
    calls.countP DriverCall.isRelease = 0 := by
  cases h with
  | idle | released => exact absurd rfl keeps
  | unlisted | unconfigured => rfl
  | refused => rfl
  | created => simp [DriverCall.isRelease]
  | kept => simp

end Turn

/-! ### Runs -/

section Runs

variable {pool : Pool} {uses : List Use}

@[simp] theorem after_nil (pool : Pool) : pool.after [] = pool := rfl

theorem after_cons (pool : Pool) (u : Use) (uses : List Use) :
    pool.after (u :: uses) = ((use u).run pool).state.after uses := rfl

@[simp] theorem callsOf_nil (pool : Pool) : pool.callsOf [] = [] := rfl

theorem callsOf_cons (pool : Pool) (u : Use) (uses : List Use) :
    pool.callsOf (u :: uses)
      = Event.calls ((use u).run pool).events ++ ((use u).run pool).state.callsOf uses := by
  rw [callsOf, useAll, Action.run_bind_of_ok (Action.run_attempt (use u) pool), Event.calls_append]
  rfl

theorem after_append (pool : Pool) (uses others : List Use) :
    pool.after (uses ++ others) = (pool.after uses).after others := by
  induction uses generalizing pool with
  | nil => rfl
  | cons u uses ih => rw [List.cons_append, after_cons, after_cons, ih]

/-- The settings and the driver stay as they are along a run. -/
theorem after_same (pool : Pool) (uses : List Use) :
    (pool.after uses).settings = pool.settings ∧ (pool.after uses).driver = pool.driver := by
  induction uses generalizing pool with
  | nil => exact ⟨rfl, rfl⟩
  | cons u uses ih =>
    obtain ⟨settings, driver⟩ := (turn_use u pool).same
    rw [after_cons, (ih _).1, (ih _).2]
    exact ⟨settings, driver⟩

/-- Every attempt to connect is a call of the run. -/
theorem attempts_after (pool : Pool) (uses : List Use) :
    (pool.after uses).attempts
      = pool.attempts + (pool.callsOf uses).countP DriverCall.isConnect := by
  induction uses generalizing pool with
  | nil => rfl
  | cons u uses ih =>
    rw [after_cons, ih, (turn_use u pool).attempts_eq, callsOf_cons, List.countP_append,
      Nat.add_assoc]

/-- Attempts of a stretch and of the next one are those of both. -/
theorem creations_add {pool mid later : Pool} (driver : mid.driver = pool.driver)
    (first : pool.attempts ≤ mid.attempts) (second : mid.attempts ≤ later.attempts) :
    pool.creations mid + mid.creations later = pool.creations later := by
  have split : later.attempts - pool.attempts
      = (mid.attempts - pool.attempts) + (later.attempts - mid.attempts) := by omega
  have joint : pool.attempts + (mid.attempts - pool.attempts) = mid.attempts := by omega
  rw [creations, creations, creations, driver, split, ← List.range'_append_1, joint,
    List.countP_append]

/-- **Engines created and engines released balance along a run.** -/
theorem balance (pool : Pool) (uses : List Use) :
    pool.held + pool.creations (pool.after uses)
      = (pool.callsOf uses).countP DriverCall.isRelease + (pool.after uses).held := by
  induction uses generalizing pool with
  | nil => simp [creations]
  | cons u uses ih =>
    have turn := turn_use u pool
    have now := turn.balance
    have attempted := turn.attempts_eq
    have driver := turn.same.2
    rw [after_cons, callsOf_cons, List.countP_append]
    generalize ((use u).run pool).state = mid at now attempted driver ⊢
    have later := ih mid
    have attempted' := attempts_after mid uses
    have added : pool.creations mid + mid.creations (mid.after uses)
        = pool.creations (mid.after uses) := creations_add driver (by omega) (by omega)
    omega

/-- An engine held stays until it is released, and there is no further attempt to connect. -/
theorem kept_of_held {engine : Engine} (keeps : Use.dispose ∉ uses)
    (occupied : pool.engine = some engine) :
    (pool.after uses).engine = some engine ∧ (pool.after uses).attempts = pool.attempts := by
  induction uses generalizing pool with
  | nil => exact ⟨occupied, rfl⟩
  | cons u uses ih =>
    obtain ⟨first, rest⟩ := not_or.1 (List.mem_cons.not.1 keeps)
    obtain ⟨stays, attempts⟩ := (turn_use u pool).kept_of_held (Ne.symm first) occupied
    obtain ⟨stays', attempts'⟩ := ih rest stays
    rw [after_cons]
    exact ⟨stays', attempts'.trans attempts⟩

/-- Without a release nothing is released. -/
theorem countP_isRelease_callsOf (keeps : Use.dispose ∉ uses) :
    (pool.callsOf uses).countP DriverCall.isRelease = 0 := by
  induction uses generalizing pool with
  | nil => rfl
  | cons u uses ih =>
    obtain ⟨first, rest⟩ := not_or.1 (List.mem_cons.not.1 keeps)
    rw [callsOf_cons, List.countP_append, ih rest,
      (turn_use u pool).countP_isRelease_eq_zero (Ne.symm first)]

/-- Every attempt to connect along a run has the address and the options of the settings. -/
theorem of_connect_mem_callsOf {url : String} {options : Fields}
    (mem : .connect url options ∈ pool.callsOf uses) :
    pool.settings.address? = some url ∧ options = connectOptions pool.settings := by
  induction uses generalizing pool with
  | nil => cases mem
  | cons u uses ih =>
    have turn := turn_use u pool
    rw [callsOf_cons, List.mem_append] at mem
    rcases mem with now | later
    · exact turn.of_connect_mem now
    · rw [← turn.same.1]
      exact ih later

/-- At most one engine is held. -/
theorem held_le_one (pool : Pool) : pool.held ≤ 1 := by
  cases engine : pool.engine <;> simp [held, engine]

end Runs

/-! ### The life of an engine -/

/-- The sizes of a pool are among the options of an engine exactly when its address is not that of
an embedded database. -/
theorem has_connectOptions_iff {settings : DatabaseSettings} {url name : String}
    (address : settings.address? = some url)
    (size : name ∈ ["pool_size", "max_overflow", "pool_timeout"]) :
    (connectOptions settings).has name = true ↔ ¬ "sqlite".toList <+: url.toList := by
  have embedded : settings.isSqlite = "sqlite".toList.isPrefixOf url.toList := by
    rw [DatabaseSettings.isSqlite, address]
    rfl
  rw [← List.isPrefixOf_iff_prefix, ← embedded]
  cases embedded : settings.isSqlite
  all_goals
    simp only [List.mem_cons, List.not_mem_nil, or_false] at size
    rcases size with rfl | rfl | rfl <;> simp [connectOptions, embedded, Fields.has]

/-- A use behind others without a release works on the engine that is held in the end, or it fails
without one. -/
theorem works_or_fails {now : Pool} {earlier later : List Use} {u : Use}
    (keeps : Use.dispose ∉ u :: later) :
    let mid := now.after earlier
    let ran := (use u).run mid
    let last := now.after (earlier ++ u :: later)
    (∃ engine, ran.state.engine = some engine ∧ last.engine = some engine
        ∧ last.attempts = ran.state.attempts
        ∧ Event.engineCalls ran.events = work engine mid u
        ∧ (u = .read → ran.outcome = .ok (.engine engine)))
      ∨ ((∃ f, ran.outcome = .error f) ∧ Event.engineCalls ran.events = []
        ∧ (¬ u.NeedsEngine ∨ mid.engine = none ∧ ran.state.engine = none)) := by
  intro mid ran last
  obtain ⟨first, rest⟩ := not_or.1 (List.mem_cons.not.1 keeps)
  have turn : Turn mid u ran.outcome ran.state (Event.calls ran.events) := turn_use u mid
  have ends : last = ran.state.after later := by
    show now.after (earlier ++ u :: later) = _
    rw [after_append, after_cons]
  rw [ends, Event.engineCalls]
  generalize ran.outcome = outcome, ran.state = state, Event.calls ran.events = calls at turn ⊢
  have onEngine {engine : Engine} : (work engine mid u).filter DriverCall.onEngine
      = work engine mid u := List.filter_eq_self.2 fun _ hc => (onEngine_of_mem_work hc).1
  have working {engine : Engine} (held : state.engine = some engine)
      := kept_of_held rest held
  cases turn with
  | idle | released => exact absurd rfl first
  | unlisted unreadable =>
    refine .inr ⟨⟨_, rfl⟩, rfl, .inl ?_⟩
    rintro ⟨given, listed⟩
    rw [unreadable] at listed
    cases listed
  | unconfigured _ free => exact .inr ⟨⟨_, rfl⟩, rfl, .inr ⟨free, free⟩⟩
  | refused _ free => exact .inr ⟨⟨_, rfl⟩, rfl, .inr ⟨free, free⟩⟩
  | created _ free _ _ yields =>
    obtain ⟨stays, attempts⟩ := working rfl
    exact .inl ⟨_, rfl, stays, attempts, onEngine, yields⟩
  | kept _ held yields =>
    obtain ⟨stays, attempts⟩ := working held
    exact .inl ⟨_, held, stays, attempts, onEngine, yields⟩

/-- A release makes one call if an engine is held, and none otherwise. -/
theorem run_dispose (pool : Pool) :
    let ran := (use .dispose).run pool
    ran.outcome = .ok .released ∧ ran.state = { pool with engine := none }
      ∧ Event.calls ran.events = if pool.engine.isSome then [.dispose] else [] := by
  intro ran
  have turn : Turn pool .dispose ran.outcome ran.state (Event.calls ran.events) :=
    turn_use .dispose pool
  generalize ran.outcome = outcome, ran.state = state, Event.calls ran.events = calls at turn ⊢
  cases turn with
  | idle free =>
    refine ⟨rfl, ?_, by simp [free]⟩
    rw [← free]
  | released held => exact ⟨rfl, rfl, by simp [held]⟩
  | unconfigured needs | refused needs | created needs | kept needs => exact needs.elim

/-- Without an engine, a use that asks for one tries to create it. -/
theorem run_use_of_free {pool : Pool} {u : Use} (needs : u.NeedsEngine)
    (free : pool.engine = none) :
    let ran := (use u).run pool
    match pool.settings.address? with
    | none =>
      (∃ e : CodedError, ran.outcome = .error (.coded e) ∧ e.code = .config)
        ∧ ran.state = pool ∧ Event.calls ran.events = []
    | some url =>
      match (pool.driver.connect pool.attempts).outcome with
      | .error f =>
        (f.isError = true →
            ∃ e : CodedError, e.code = .connection ∧ (create.run pool).outcome = .error (.coded e)
              ∧ ((u = .read ∨ ∃ text, f.text = .ok text) → ran.outcome = .error (.coded e))
              ∧ ∀ r, u ≠ .read → f.text = .error r →
                ran.outcome = .error (r.failure.leaving "generator"))
          ∧ (f.isError = false → ran.outcome = .error f)
          ∧ ran.state = { pool with attempts := pool.attempts + 1 }
          ∧ Event.calls ran.events = [.connect url (connectOptions pool.settings)]
      | .ok engine =>
        ran.state.engine = some engine ∧ ran.state.attempts = pool.attempts + 1
          ∧ Event.calls ran.events
            = .connect url (connectOptions pool.settings) :: work engine pool u := by
  intro ran
  have turn : Turn pool u ran.outcome ran.state (Event.calls ran.events) := turn_use u pool
  generalize ran.outcome = outcome, ran.state = state, Event.calls ran.events = calls at turn ⊢
  cases turn with
  | idle | released => exact needs.elim
  | unlisted unreadable =>
    obtain ⟨given, listed⟩ := needs
    rw [unreadable] at listed
    cases listed
  | unconfigured _ _ nowhere =>
    rw [nowhere]
    exact ⟨⟨_, rfl, rfl⟩, rfl, rfl⟩
  | @refused _ _ f _ _ address answered =>
    rw [address, answered]
    refine ⟨fun error => ?_, fun passed => ?_, rfl, rfl⟩
    · have wrapped : refusal pool.settings f = unreachable pool.settings f := if_pos error
      obtain ⟨events, -, created⟩ := run_create_of_address address
      rw [answered, Except.mapError, wrapped] at created
      rw [wrapped]
      refine ⟨_, rfl, congrArg Ran.outcome created, fun told => ?_, fun r asked mute => ?_⟩
      · rcases told with rfl | ⟨text, said⟩
        · rfl
        · rw [u.failing_of_none (refusal?_unreachable_of_text _ said)]
          rfl
      · cases u with
        | query =>
          exact congrArg Except.error
            (Failure.passing_of_some (refusal?_unreachable_of_refusal _ mute))
        | read => exact absurd rfl asked
        | dispose => exact needs.elim
    · have kept : refusal pool.settings f = f := if_neg (by simp [passed])
      rw [kept, u.failing_of_none (Failure.refusal?_of_not_isError passed)]
  | created _ _ address answered =>
    rw [address, answered]
    exact ⟨rfl, rfl, rfl⟩
  | kept _ held =>
    rw [free] at held
    cases held

/-- **The life of an engine.**  Take any pool, with an engine or without, and any uses of it, and
look at the pool that these leave behind.

* Its settings and its driver are those of the start, and every attempt to connect was a call.
* Engines held at the start or created since are those that were released and the one held now, if
  there is one; so at most one engine is open at any time.
* Every attempt to connect had the address and the options of the settings, and these have the sizes
  of the pool unless the address is that of an embedded database.
* In a further stretch without a release, at most one engine is held or created.  Every use works on
  the engine that is held in the end, which no later attempt replaces, or it fails before it has an
  engine: because its parameters are no list, or because none can be created.
* A release makes one call if an engine is held and none otherwise, and no engine is held then.
* Without an engine, the next use that asks for one tries to create it.  Without an address it fails
  as a matter of configuration.  If the driver answers with an error, the creation fails as a matter
  of connecting, and so does the use: a look at the engine in any case, and a statement if the error
  tells its text, for which the span of the statement asks; otherwise the statement ends with the
  refusal.  What is no error is passed on.  Whatever it is, no engine is held and no statement runs,
  so that the same holds for the use behind it. -/
theorem lifecycle (pool : Pool) (before : List Use) :
    let now := pool.after before
    let released := (use .dispose).run now
    (now.settings = pool.settings ∧ now.driver = pool.driver
      ∧ now.attempts = pool.attempts + (pool.callsOf before).countP DriverCall.isConnect)
    ∧ (pool.held + pool.creations now
        = (pool.callsOf before).countP DriverCall.isRelease + now.held ∧ now.held ≤ 1)
    ∧ (∀ url options, .connect url options ∈ pool.callsOf before →
        pool.settings.address? = some url ∧ options = connectOptions pool.settings
          ∧ ∀ name ∈ ["pool_size", "max_overflow", "pool_timeout"],
            options.has name = true ↔ ¬ "sqlite".toList <+: url.toList)
    ∧ (∀ stretch, Use.dispose ∉ stretch →
        now.held + now.creations (now.after stretch) ≤ 1
          ∧ ∀ earlier u later, stretch = earlier ++ u :: later →
            let mid := now.after earlier
            let ran := (use u).run mid
            let last := now.after stretch
            (∃ engine, ran.state.engine = some engine ∧ last.engine = some engine
                ∧ last.attempts = ran.state.attempts
                ∧ Event.engineCalls ran.events = work engine mid u
                ∧ (u = .read → ran.outcome = .ok (.engine engine)))
              ∨ ((∃ f, ran.outcome = .error f) ∧ Event.engineCalls ran.events = []
                ∧ (¬ u.NeedsEngine ∨ mid.engine = none ∧ ran.state.engine = none)))
    ∧ (released.outcome = .ok .released ∧ released.state = { now with engine := none }
        ∧ Event.calls released.events = if now.engine.isSome then [.dispose] else [])
    ∧ ∀ u : Use, u.NeedsEngine → now.engine = none →
        let ran := (use u).run now
        match pool.settings.address? with
        | none =>
          (∃ e : CodedError, ran.outcome = .error (.coded e) ∧ e.code = .config)
            ∧ ran.state = now ∧ Event.calls ran.events = []
        | some url =>
          match (pool.driver.connect now.attempts).outcome with
          | .error f =>
            (f.isError = true →
                ∃ e : CodedError, e.code = .connection
                  ∧ (create.run now).outcome = .error (.coded e)
                  ∧ ((u = .read ∨ ∃ text, f.text = .ok text) → ran.outcome = .error (.coded e))
                  ∧ ∀ r, u ≠ .read → f.text = .error r →
                    ran.outcome = .error (r.failure.leaving "generator"))
              ∧ (f.isError = false → ran.outcome = .error f)
              ∧ ran.state = { now with attempts := now.attempts + 1 }
              ∧ Event.calls ran.events = [.connect url (connectOptions pool.settings)]
          | .ok engine =>
            ran.state.engine = some engine ∧ ran.state.attempts = now.attempts + 1
              ∧ Event.calls ran.events
                = .connect url (connectOptions pool.settings) :: work engine now u := by
  intro now released
  obtain ⟨settings, driver⟩ : now.settings = pool.settings ∧ now.driver = pool.driver :=
    after_same pool before
  refine ⟨⟨settings, driver, attempts_after pool before⟩, ⟨balance pool before, held_le_one now⟩,
    fun url options mem => ?_, fun stretch keeps => ⟨?_, ?_⟩, run_dispose now,
    fun u needs free => ?_⟩
  · obtain ⟨address, rfl⟩ := of_connect_mem_callsOf mem
    exact ⟨address, rfl, fun name size => has_connectOptions_iff address size⟩
  · have balanced := balance now stretch
    rw [countP_isRelease_callsOf keeps, Nat.zero_add] at balanced
    exact balanced ▸ held_le_one (now.after stretch)
  · rintro earlier u later rfl
    exact works_or_fails fun mem => keeps (List.mem_append_right earlier mem)
  · rw [← settings, ← driver]
    exact run_use_of_free needs free

/-- The first attempt to connect to an embedded database times out.  The second one yields an
engine, which takes no sizes, and a third use reads the same. -/
theorem lifecycle_second_attempt :
    let slow : Driver := ⟨fun n => if n = 0 then ⟨[], .error (.raised .timeout [])⟩
      else .ok ⟨"qmark", "sqlite"⟩, fun _ => .ok (.count 0)⟩
    let address := "sqlite+aiosqlite:///fleet.db"
    let pool := start { DatabaseSettings.default with url := some address } slow
    (∃ e : CodedError, ((use .read).run pool).outcome = .error (.coded e) ∧ e.code = .connection)
      ∧ ((use .read).run (pool.after [.read])).state.engine = some ⟨"qmark", "sqlite"⟩
      ∧ ((connectOptions pool.settings).has "pool_size" = true
        ↔ ¬ "sqlite".toList <+: address.toList)
      ∧ ((use .read).run ((pool.after [.read]).after [.read])).outcome
        = .ok (.engine ⟨"qmark", "sqlite"⟩) := by
  intro slow address pool
  obtain ⟨-, -, -, -, -, first⟩ := lifecycle pool []
  obtain ⟨-, -, connects, stretches, -, second⟩ := lifecycle pool [.read]
  obtain ⟨e, connecting, -, ended, -⟩ := (first .read trivial rfl).1 rfl
  have created := (second .read trivial rfl).1
  have alike := connects address (connectOptions pool.settings) (List.mem_singleton.2 rfl)
  refine ⟨⟨e, ended (.inl rfl), connecting⟩, created, alike.2.2 "pool_size" List.mem_cons_self, ?_⟩
  rcases (stretches [.read, .read] (by simp)).2 [.read] .read [] rfl with held | ⟨-, -, none⟩
  · obtain ⟨engine, holds, -, -, -, yields⟩ := held
    rw [yields rfl]
    cases holds
    rfl
  · rcases none with asked | ⟨none, -⟩
    · exact absurd trivial asked
    · cases none

end Pool

end QueryChain
