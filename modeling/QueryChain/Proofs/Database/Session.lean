import QueryChain.Database.Session
import QueryChain.Proofs.Chain.Reading
import QueryChain.Proofs.Database.Builder

/-!
# Builders of a session

A session works with many builders, with one executor behind them.  What a step does to a builder
depends on the steps on this builder alone: the calls on it make up its chain, and the first
resolution spends it, whatever comes of the resolution.

## Main definitions

* `SessionStep.callOn?`, `SessionStep.resolves` — what a step does to the builder of a name.
* `SessionStep.Keeps` — a step leaves the builder of a name in its place.
* `Opened.after` — a builder after steps, by the steps on it alone.
* `Session.callsOf` — the calls to the executor that the steps on a builder make.

## Main results

* `Session.state_step` — everything that a step can do to a session.
* `Session.opened?_runAll` — a builder after a run.
* `Session.callsOf_eq` — a builder makes one call at most, in its first resolution.
* `Session.resolved_once` — the same for every moment of a session.
-/

set_option relaxedAutoImplicit false
set_option autoImplicit false

namespace QueryChain

namespace SessionStep

/-- The call that a step makes on the builder of a name. -/
def callOn? (name : String) : SessionStep → Option Call
  | .call n c => if n = name then some c else none
  | _ => none

/-- Whether a step resolves the builder of a name. -/
def resolves (name : String) : SessionStep → Bool
  | .resolve n _ => n == name
  | _ => false

/-- Whether a step works with the builder of a name. -/
def isOn (name : String) : SessionStep → Bool
  | .start n _ | .startShared n _ | .call n _ | .compile n | .operation n | .resolve n _ =>
    n == name
  | .probe | .close | .share _ => false

/-- A step leaves the builder of a name in its place.  It starts no other builder under the name,
and does not dump the operation of the builder, which would run its generators to their end. -/
def Keeps (name : String) : SessionStep → Prop
  | .start n _ | .startShared n _ | .operation n => n ≠ name
  | _ => True

variable {name : String} {x : SessionStep}

/-- Only a step on a builder calls it. -/
theorem callOn?_of_isOn (h : x.isOn name = false) : x.callOn? name = none := by
  cases x with
  | call n c =>
    have other : n ≠ name := by simpa [isOn] using h
    exact if_neg other
  | _ => rfl

/-- Only a step on a builder resolves it. -/
theorem resolves_of_isOn (h : x.isOn name = false) : x.resolves name = false := by
  cases x with
  | resolve n fetch => exact h
  | _ => rfl

/-- A step on a builder that leaves it in its place calls it, compiles it or resolves it. -/
theorem Keeps.eq_of_isOn (kept : x.Keeps name) (on : x.isOn name = true) :
    (∃ c, x = .call name c) ∨ x = .compile name ∨ ∃ fetch, x = .resolve name fetch := by
  cases x with
  | start n table => exact absurd (beq_iff_eq.1 on) kept
  | startShared n table => exact absurd (beq_iff_eq.1 on) kept
  | operation n => exact absurd (beq_iff_eq.1 on) kept
  | call n c =>
    obtain rfl : n = name := beq_iff_eq.1 on
    exact .inl ⟨c, rfl⟩
  | compile n =>
    obtain rfl : n = name := beq_iff_eq.1 on
    exact .inr (.inl rfl)
  | resolve n fetch =>
    obtain rfl : n = name := beq_iff_eq.1 on
    exact .inr (.inr ⟨fetch, rfl⟩)
  | probe => cases on
  | close => cases on
  | share own => cases on

end SessionStep

/-! ### One builder -/

section Opened

variable {σ : Type}

/-- A builder after steps: the calls on it make up its chain, and a resolution spends it. -/
def Opened.after (name : String) (o : Opened σ) (steps : List SessionStep) : Opened σ where
  database := o.database
  builder :=
    ⟨Chain.run o.database.rules o.builder.chain (steps.filterMap (SessionStep.callOn? name)),
      o.builder.resolved || steps.any (SessionStep.resolves name)⟩

/-- The first step comes first. -/
theorem Opened.after_cons (name : String) (o : Opened σ) (x : SessionStep)
    (steps : List SessionStep) :
    o.after name (x :: steps) = (o.after name [x]).after name steps := by
  cases called : x.callOn? name with
  | none => simp [after, called, Chain.run, Bool.or_assoc]
  | some c => simp [after, called, Chain.run, Bool.or_assoc]

/-- A step that neither calls nor resolves a builder leaves it alone. -/
theorem Opened.after_of_idle {name : String} (o : Opened σ) {x : SessionStep}
    (uncalled : x.callOn? name = none) (unresolved : x.resolves name = false) :
    o.after name [x] = o := by
  simp [after, uncalled, unresolved, Chain.run]

/-- A call changes the chain of a builder, also when it fails. -/
theorem Opened.after_call (name : String) (o : Opened σ) (c : Call) :
    o.after name [.call name c]
      = { o with builder :=
          { o.builder with chain := (o.builder.chain.apply o.database.rules c).1 } } := by
  have called : SessionStep.callOn? name (.call name c) = some c := if_pos rfl
  have unresolved : SessionStep.resolves name (.call name c) = false := rfl
  simp [after, called, unresolved, Chain.run]

/-- A resolution spends a builder. -/
theorem Opened.after_resolve (name : String) (o : Opened σ) (fetch : Fetch) :
    o.after name [.resolve name fetch] = { o with builder := o.builder.spent } := by
  have uncalled : SessionStep.callOn? name (.resolve name fetch) = none := rfl
  have resolved : SessionStep.resolves name (.resolve name fetch) = true := beq_self_eq_true name
  simp [after, uncalled, resolved, Chain.run, Builder.spent]

end Opened

namespace Session

variable {σ : Type} {s : Session σ} {name : String} {o : Opened σ}

/-! ### What one step does -/

/-- Storing a builder leaves the builders of other names alone. -/
theorem opened?_store_of_ne {other : String} (h : other ≠ name) (o : Opened σ) :
    (s.store other o).opened? name = s.opened? name := by
  have differs : (name == other) = false := by simpa using fun e => h e.symm
  have kept (entries : List (String × Opened σ)) :
      (entries.filter fun entry => entry.1 != other).lookup name = entries.lookup name := by
    induction entries with
    | nil => rfl
    | cons entry entries ih =>
      obtain ⟨n, found⟩ := entry
      by_cases same : n = other
      · subst same
        have dropped : (n != n) = false := by simp
        rw [List.filter_cons_of_neg (by simp), ih, List.lookup_cons, differs]
      · rw [List.filter_cons_of_pos (by simpa using same), List.lookup_cons, List.lookup_cons, ih]
  unfold opened? store
  rw [List.lookup_cons, differs]
  exact kept s.builders

/-- A name with a builder is found. -/
theorem run_find (h : s.opened? name = some o) : (find name).run s = ⟨.ok o, s, []⟩ := by
  show find name s = _
  unfold find
  rw [h]

/-- A name without a builder is a fault. -/
theorem run_find_of_none (h : s.opened? name = none) :
    (find name).run s = ⟨.error (.fault (.missingKey (Value.text name).literal)), s, []⟩ := by
  show find name s = _
  unfold find
  rw [h]

/-- Changing the session. -/
theorem run_modify (f : Session σ → Session σ) (s : Session σ) :
    (modify f).run s = ⟨.ok (), f s, []⟩ := rfl

/-- A call on a builder changes its chain as the call does, also when it fails. -/
theorem run_call (h : s.opened? name = some o) (c : Call) :
    (call name c).run s =
      let applied := o.builder.chain.apply o.database.rules c
      let next := { o.builder with chain := applied.1 }
      ⟨match applied.2 with
        | none => .ok (.builder next)
        | some f => .error f,
        s.store name { o with builder := next },
        match applied.2 with
        | none => []
        | some f => f.events.map .log⟩ := by
  rw [call, Action.run_bind_of_ok (run_find h)]
  cases failed : (o.builder.chain.apply o.database.rules c).2 with
  | none =>
    simp only [failed]
    rfl
  | some f =>
    simp only [failed]
    rfl

/-- Compiling a builder leaves the session as it is. -/
theorem run_compile (h : s.opened? name = some o) :
    (step (.compile name)).run s =
      ⟨(o.builder.chain.compile o.database.rules).map .compiled, s,
        match o.builder.chain.compile o.database.rules with
        | .ok _ => []
        | .error f => f.events.map .log⟩ := by
  rw [step, Action.run_bind_of_ok (run_find h)]
  cases o.builder.chain.compile o.database.rules <;> rfl

/-- Resolving a builder spends it, and ends as the resolution does. -/
theorem run_resolve (h : s.opened? name = some o) (fetch : Fetch) :
    (resolve name fetch).run s =
      let ran := (o.builder.resolve o.database fetch).run s.state
      ⟨ran.outcome.map .result,
        { s.store name { o with builder := o.builder.spent } with state := ran.state },
        ran.events⟩ := by
  rw [resolve, Action.run_bind_of_ok (run_find h), Action.run_bind_of_ok (run_modify _ _)]
  exact Action.run_bind_pure _ _ _

/-- **Everything that a step can do to a session**: it changes the state of the executors and what
is shared, or it stores one builder, of the name that it works with. -/
theorem state_step (x : SessionStep) (s : Session σ) :
    (∃ (state : σ) (shared : Bool), ((step x).run s).state = { s with state, shared })
      ∨ ∃ (name : String) (o : Opened σ) (state : σ), x.isOn name = true
        ∧ ((step x).run s).state = { s.store name o with state } := by
  have absent {α : Type} {name : String} {f : Opened σ → Action (Session σ) α}
      (h : s.opened? name = none) : ((find name >>= f).run s).state = s := by
    rw [Action.run_bind_of_error (run_find_of_none h)]
  cases x with
  | start name table => exact .inr ⟨name, _, _, beq_self_eq_true name, rfl⟩
  | startShared name table => exact .inr ⟨name, _, _, beq_self_eq_true name, rfl⟩
  | call name c =>
    cases h : s.opened? name with
    | none => exact .inl ⟨_, _, absent h⟩
    | some o =>
      exact .inr ⟨name, _, s.state, beq_self_eq_true name, congrArg Ran.state (run_call h c)⟩
  | compile name =>
    cases h : s.opened? name with
    | none => exact .inl ⟨_, _, absent h⟩
    | some o => exact .inl ⟨s.state, s.shared, congrArg Ran.state (run_compile h)⟩
  | operation name =>
    cases h : s.opened? name with
    | none => exact .inl ⟨_, _, absent h⟩
    | some o =>
      rw [step, operation, Action.run_bind_of_ok (run_find h)]
      cases o.builder.chain.toOperation with
      | error f => exact .inl ⟨_, _, rfl⟩
      | ok op =>
        rw [Action.check_ok_bind]
        cases op.dump with
        | error f => exact .inl ⟨_, _, rfl⟩
        | ok dump => exact .inr ⟨name, _, _, beq_self_eq_true name, rfl⟩
  | resolve name fetch =>
    cases h : s.opened? name with
    | none => exact .inl ⟨_, _, absent h⟩
    | some o =>
      exact .inr ⟨name, _, _, beq_self_eq_true name, congrArg Ran.state (run_resolve h fetch)⟩
  | probe =>
    rw [step, Action.run_bind_of_ok (Action.run_get s), Action.run_bind_pure]
    exact .inl ⟨_, s.shared, rfl⟩
  | close =>
    rw [step, Action.run_bind_of_ok (Action.run_get s), Action.run_bind_pure]
    exact .inl ⟨_, s.shared, rfl⟩
  | share own => exact .inl ⟨s.state, own, rfl⟩

/-- A step leaves the database of a session alone. -/
theorem own_step (x : SessionStep) (s : Session σ) : ((step x).run s).state.own = s.own := by
  obtain ⟨state, shared, e⟩ | ⟨name, o, state, -, e⟩ := state_step x s
  · rw [e]
  · rw [e]
    rfl

/-- A step leaves the builders that it does not work with alone. -/
theorem opened?_step_of_isOn {x : SessionStep} (idle : x.isOn name = false) :
    ((step x).run s).state.opened? name = s.opened? name := by
  obtain ⟨state, shared, e⟩ | ⟨other, o, state, on, e⟩ := state_step x s
  · rw [e]
    rfl
  · rw [e]
    refine opened?_store_of_ne (fun same => ?_) o
    rw [same, idle] at on
    cases on

/-- **What a step does to a builder**: nothing, unless it calls or resolves this builder. -/
theorem opened?_step {x : SessionStep} (kept : x.Keeps name) (h : s.opened? name = some o) :
    ((step x).run s).state.opened? name = some (o.after name [x]) := by
  cases on : x.isOn name with
  | false =>
    rw [opened?_step_of_isOn on, h,
      o.after_of_idle (SessionStep.callOn?_of_isOn on) (SessionStep.resolves_of_isOn on)]
  | true =>
    obtain ⟨c, rfl⟩ | rfl | ⟨fetch, rfl⟩ := kept.eq_of_isOn on
    · rw [step, run_call h, Opened.after_call]
      exact opened?_store_self s name _
    · rw [run_compile h, h, o.after_of_idle rfl rfl]
    · rw [step, run_resolve h, Opened.after_resolve]
      exact opened?_store_self s name _

/-- The calls that a step on a builder makes: the statement of the builder, in its first
resolution. -/
theorem calls_step {x : SessionStep} (on : x.isOn name = true) (kept : x.Keeps name)
    (h : s.opened? name = some o) (records : o.database.executor.Records) :
    Event.calls ((step x).run s).events
      = if x.resolves name && !o.builder.resolved then o.builder.chain.queries o.database.rules
        else [] := by
  obtain ⟨c, rfl⟩ | rfl | ⟨fetch, rfl⟩ := kept.eq_of_isOn on
  · rw [step, run_call h]
    simp only
    cases (o.builder.chain.apply o.database.rules c).2 with
    | none => rfl
    | some f => exact Event.calls_map_log _
  · rw [run_compile h]
    simp only
    cases o.builder.chain.compile o.database.rules with
    | ok compiled => rfl
    | error f => exact Event.calls_map_log _
  · have resolved : SessionStep.resolves name (.resolve name fetch) = true := on
    rw [step, run_resolve h, Builder.calls_resolve records, resolved, Bool.true_and]
    cases o.builder.resolved <;> rfl

/-! ### Runs -/

/-- Steps one after the other. -/
theorem runAll_append (s : Session σ) (xs ys : List SessionStep) :
    (s.runAll (xs ++ ys)).1 = ((s.runAll xs).1.runAll ys).1 := by
  induction xs generalizing s with
  | nil => rfl
  | cons x xs ih => exact ih ((step x).run s).state

/-- A run leaves the database of a session alone. -/
theorem own_runAll (s : Session σ) (steps : List SessionStep) : (s.runAll steps).1.own = s.own := by
  induction steps generalizing s with
  | nil => rfl
  | cons x xs ih => exact (ih ((step x).run s).state).trans (own_step x s)

/-- **What a run does to a builder** depends on the steps on this builder alone. -/
theorem opened?_runAll {steps : List SessionStep} (kept : ∀ x ∈ steps, x.Keeps name)
    (h : s.opened? name = some o) :
    (s.runAll steps).1.opened? name = some (o.after name steps) := by
  induction steps generalizing s o with
  | nil =>
    have idle : o.after name [] = o := by simp [Opened.after, Chain.run]
    rw [idle]
    exact h
  | cons x xs ih =>
    obtain ⟨first, rest⟩ := List.forall_mem_cons.1 kept
    rw [Opened.after_cons]
    exact ih rest (opened?_step first h)

/-- The calls that the steps on the builder of a name make, one step after the other. -/
def callsOf (name : String) (s : Session σ) : List SessionStep → List DriverCall
  | [] => []
  | x :: xs =>
    let ran := (step x).run s
    (if x.isOn name then Event.calls ran.events else []) ++ callsOf name ran.state xs

/-- **A builder makes one call at most**: it hands over the statement of the calls before its first
resolution.

**Proof sketch.**  Induction on the steps.  The steps of other builders do not count, and the steps
on this one make no call, but for a resolution while the builder is fresh; behind it the builder is
spent for good. -/
theorem callsOf_eq {steps : List SessionStep} (kept : ∀ x ∈ steps, x.Keeps name)
    (h : s.opened? name = some o) (records : o.database.executor.Records) :
    callsOf name s steps
      = if steps.any (SessionStep.resolves name) && !o.builder.resolved then
          (o.after name (steps.takeWhile fun x => !x.resolves name)).builder.chain.queries
            o.database.rules
        else [] := by
  induction steps generalizing s o with
  | nil => rfl
  | cons x xs ih =>
    obtain ⟨first, rest⟩ := List.forall_mem_cons.1 kept
    have later := ih rest (opened?_step first h) records
    have now : (if x.isOn name then Event.calls ((step x).run s).events else [])
        = if x.resolves name && !o.builder.resolved then o.builder.chain.queries o.database.rules
          else [] := by
      cases on : x.isOn name with
      | true =>
        rw [if_pos rfl]
        exact calls_step on first h records
      | false =>
        rw [SessionStep.resolves_of_isOn on]
        rfl
    rw [callsOf, later, now]
    cases resolves : x.resolves name with
    | true =>
      -- the first resolution, unless the builder is spent already
      have spent : (o.after name [x]).builder.resolved = true := by simp [Opened.after, resolves]
      rw [spent, List.any_cons, resolves, List.takeWhile_cons, resolves]
      simp [Opened.after, Chain.run]
    | false =>
      have same : (o.after name [x]).builder.resolved = o.builder.resolved := by
        simp [Opened.after, resolves]
      rw [same, List.any_cons, resolves, List.takeWhile_cons, resolves, Bool.not_false, if_pos rfl,
        Opened.after_cons name o x (xs.takeWhile fun x => !x.resolves name)]
      rfl

/-! ### Sessions -/

/-- A builder that was just started is fresh, on the database of the session. -/
theorem opened?_begun (s : Session σ) (before : List SessionStep) (name : String) (table : Value) :
    (s.runAll (before ++ [.start name table])).1.opened? name
      = some ⟨s.own, Builder.start table⟩ := by
  rw [runAll_append]
  have started (t : Session σ) : (t.runAll [.start name table]).1
      = t.store name ⟨t.own, Builder.start table⟩ := rfl
  rw [started, opened?_store_self, own_runAll]

/-- **A builder is resolved once, and its own calls say to what.**  Take any moment of a session,
and a builder that was started on its database.  Whatever was done with other builders, and whatever
the executor answered, the chain of the builder is made by the calls on it alone.

* Calling or compiling the builder asks nothing of the executor; compiling answers what the chain
  says.
* The first resolution hands over the statement that compiling would have answered, or fails as
  compiling would have.
* Every later resolution fails as that of a spent builder, and asks nothing.
* All that was asked for the builder so far is the statement of the calls before its first
  resolution.

**Proof sketch.**  A step changes a builder only by a call on it or by a resolution of it, so after
any steps the builder is what the steps on it say.  A resolution spends the builder before anything
else happens. -/
theorem resolved_once (own fallback : Database σ) (records : own.executor.Records) (state : σ)
    (before past : List SessionStep) (name : String) (table : Value)
    (kept : ∀ x ∈ past, x.Keeps name) :
    let begun := ((start own fallback state).runAll (before ++ [.start name table])).1
    let s := (begun.runAll past).1
    let chainOf (steps : List SessionStep) :=
      Chain.run own.rules (Chain.start table) (steps.filterMap (SessionStep.callOn? name))
    let chain := chainOf past
    (∀ c : Call, Event.calls ((step (.call name c)).run s).events = [])
      ∧ Event.calls ((step (.compile name)).run s).events = []
      ∧ ((step (.compile name)).run s).outcome = (chain.compile own.rules).map .compiled
      ∧ (∀ fetch : Fetch, past.any (SessionStep.resolves name) = false →
        Event.calls ((step (.resolve name fetch)).run s).events = chain.queries own.rules
          ∧ ∀ f : Failure, chain.compile own.rules = .error f →
            ((step (.resolve name fetch)).run s).outcome = .error f)
      ∧ (∀ fetch : Fetch, past.any (SessionStep.resolves name) = true →
        Event.calls ((step (.resolve name fetch)).run s).events = []
          ∧ ((step (.resolve name fetch)).run s).outcome
            = .error (.coded (CodedError.consumed table)))
      ∧ callsOf name begun past
        = (if past.any (SessionStep.resolves name) then
            (chainOf (past.takeWhile fun x => !x.resolves name)).queries own.rules
          else [])
      ∧ (callsOf name begun past).length ≤ 1 := by
  intro begun s chainOf chain
  have fresh : begun.opened? name = some ⟨own, Builder.start table⟩ :=
    opened?_begun (start own fallback state) before name table
  have now : s.opened? name
      = some ⟨own, ⟨chain, false || past.any (SessionStep.resolves name)⟩⟩ :=
    opened?_runAll kept fresh
  rw [Bool.false_or] at now
  have asked := callsOf_eq kept fresh records
  have named : chain.table = table := Chain.table_run own.rules (Chain.start table) _
  have calls (x : SessionStep) (on : x.isOn name = true) (keeps : x.Keeps name) :=
    calls_step on keeps now records
  have here : (name == name) = true := beq_self_eq_true name
  refine ⟨fun c => calls (.call name c) here trivial, calls (.compile name) here trivial, ?_,
    fun fetch unresolved => ⟨?_, fun f h => ?_⟩, fun fetch resolved => ⟨?_, ?_⟩, ?_, ?_⟩
  · rw [run_compile now]
  · rw [calls (.resolve name fetch) here trivial, unresolved, SessionStep.resolves, here]
    rfl
  · rw [step, run_resolve now, unresolved, Builder.run_resolve_of_not_compile rfl h]
    rfl
  · rw [calls (.resolve name fetch) here trivial, resolved, Bool.not_true, Bool.and_false]
    rfl
  · rw [step, run_resolve now, resolved, Builder.run_resolve_of_resolved rfl, named]
    rfl
  · rw [asked, Builder.start, Bool.not_false, Bool.and_true]
    rfl
  · rw [asked]
    split
    · exact Chain.length_queries_le _ _
    · exact Nat.zero_le 1

/-- Two builders take turns on one executor.  The second one gets an answer; the resolution of the
first one is cancelled, and the builder is spent all the same. -/
theorem resolved_once_cancelled :
    let db : Database Executor.Script := ⟨Executor.scripted "executor" false, ⟨63, "id"⟩⟩
    let script : Executor.Script := [Executor.noRows, ⟨[], .error (.raised .cancelled [])⟩]
    let past : List SessionStep :=
      [.call "first" (.filter .eq (.text "id") (.int 1)), .start "second" (.text "orders"),
        .resolve "second" .many, .call "second" .delete, .resolve "first" .one,
        .call "first" (.limit (.int (-1))), .compile "first"]
    let begun := ((start db db script).runAll ([] ++ [.start "first" (.text "users")])).1
    db.executor.Records ∧ (∀ x ∈ past, x.Keeps "first")
      ∧ callsOf "first" begun past = [.query "SELECT * FROM users WHERE id = $1" [.int 1]]
      ∧ ∀ fetch : Fetch, ((step (.resolve "first" fetch)).run (begun.runAll past).1).outcome
        = .error (.coded (CodedError.consumed (.text "users"))) := by
  have statement : (Chain.run ⟨63, "id"⟩ (Chain.start (.text "users"))
      [.filter .eq (.text "id") (.int 1)]).queries ⟨63, "id"⟩
      = [.query "SELECT * FROM users WHERE id = $1" [.int 1]] := by rfl
  intro db script past begun
  have records : db.executor.Records := Executor.records_scripted "executor" false
  have kept : ∀ x ∈ past, x.Keeps "first" := by
    simp [past, SessionStep.Keeps]
  obtain ⟨-, -, -, -, later, asked, -⟩ :=
    resolved_once db db records script [] past "first" (.text "users") kept
  have resolved : past.any (SessionStep.resolves "first") = true := by decide
  have earlier : (past.takeWhile fun x => !x.resolves "first").filterMap
      (SessionStep.callOn? "first") = [.filter .eq (.text "id") (.int 1)] := by
    simp [past, SessionStep.resolves, SessionStep.callOn?]
  refine ⟨records, kept, ?_, fun fetch => (later fetch resolved).2⟩
  rw [asked, if_pos resolved]
  simp only [earlier]
  exact statement

end Session

end QueryChain
