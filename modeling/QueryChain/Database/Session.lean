import QueryChain.Chain.Method
import QueryChain.Database.Resolve

/-!
# Sessions

A session works with any number of builders by name, on a database of its own and on the database
that the process shares.  The shared database is the session's own one once that was installed, and
a default one otherwise.

## Main definitions

* `Session` — the databases, the state of their executors, and the builders.
* `SessionStep`, `SessionAnswer` — what can be done, and what comes of it.
* `Session.step`, `Session.runAll` — one step, and several one after the other.
-/

set_option relaxedAutoImplicit false
set_option autoImplicit false

namespace QueryChain

/-- Runs the executor of a part of the state: the first one. -/
def Executor.onFirst {σ : Type} (τ : Type) (e : Executor σ) : Executor (σ × τ) where
  name := e.name
  query sql params := (e.query sql params).onFirst
  dispose := e.dispose.map Action.onFirst

/-- Runs the executor of a part of the state: the second one. -/
def Executor.onSecond {τ : Type} (σ : Type) (e : Executor τ) : Executor (σ × τ) where
  name := e.name
  query sql params := (e.query sql params).onSecond
  dispose := e.dispose.map Action.onSecond

/-- A builder with the database it was started on. -/
structure Opened (σ : Type) where
  database : Database σ
  builder : Builder

/-- The databases of a session, whether its own one is shared, the state of the executors, and the
builders by name. -/
structure Session (σ : Type) where
  own : Database σ
  fallback : Database σ
  shared : Bool
  state : σ
  builders : List (String × Opened σ)

/-- What can be done in a session. -/
inductive SessionStep where
  | start (name : String) (table : Value)
  | startShared (name : String) (table : Value)
  | call (name : String) (call : Call)
  | compile (name : String)
  | operation (name : String)
  | resolve (name : String) (fetch : Fetch)
  | probe
  | close
  | share (own : Bool)
deriving Repr

/-- What comes of a step. -/
inductive SessionAnswer where
  | builder (b : Builder)
  | compiled (c : Compiled)
  | operation (op : Operation) (dump : Value)
  | result (r : QueryResult)
  | healthy (h : Bool)
  | done
deriving Repr

namespace Session

variable {σ : Type}

/-- A session without builders. -/
def start (own fallback : Database σ) (state : σ) : Session σ := ⟨own, fallback, false, state, []⟩

/-- The database that the process shares. -/
def sharedDatabase (s : Session σ) : Database σ := if s.shared then s.own else s.fallback

/-- The builder of a name. -/
def opened? (s : Session σ) (name : String) : Option (Opened σ) := s.builders.lookup name

/-- Stores a builder under a name, in the place of an earlier one. -/
def store (s : Session σ) (name : String) (o : Opened σ) : Session σ :=
  { s with builders := (name, o) :: s.builders.filter fun entry => entry.1 != name }

/-- The builder of a name; a name without a builder is a fault. -/
def find (name : String) : Action (Session σ) (Opened σ) := fun s =>
  match s.opened? name with
  | some o => ⟨.ok o, s, []⟩
  | none => ⟨.error (.fault (.missingKey (Value.text name).literal)), s, []⟩

/-- Changes the session. -/
def modify (f : Session σ → Session σ) : Action (Session σ) Unit := fun s => ⟨.ok (), f s, []⟩

/-- Runs an action of an executor. -/
def execute {α : Type} (x : Action σ α) : Action (Session σ) α := fun s =>
  let ran := x s.state
  ⟨ran.outcome, { s with state := ran.state }, ran.events⟩

/-- Starts a builder on a database. -/
def openOn (database : Database σ) (name : String) (table : Value) :
    Action (Session σ) SessionAnswer := do
  modify fun s => s.store name ⟨database, Builder.start table⟩
  return .builder (Builder.start table)

/-- One call on a builder.  The builder is stored also when the call fails. -/
def call (name : String) (c : Call) : Action (Session σ) SessionAnswer := do
  let o ← find name
  let (chain, failed) := o.builder.chain.apply o.database.rules c
  let next := { o.builder with chain := chain }
  modify fun s => s.store name { o with builder := next }
  match failed with
  | none => return .builder next
  | some f => Action.fail f

/-- Resolves a builder, which is spent from then on. -/
def resolve (name : String) (fetch : Fetch) : Action (Session σ) SessionAnswer := do
  let o ← find name
  modify fun s => s.store name { o with builder := o.builder.spent }
  return .result (← execute (o.builder.resolve o.database fetch))

/-- The operation of a builder with its dump.  Dumping runs the generators in the builder to their
end. -/
def operation (name : String) : Action (Session σ) SessionAnswer := do
  let o ← find name
  let op ← Action.check o.builder.chain.toOperation
  let dump ← Action.ofExcept op.dump
  let next := { o.builder with chain := o.builder.chain.drained }
  modify fun s => s.store name { o with builder := next }
  return .operation op dump

/-- One step. -/
def step (x : SessionStep) : Action (Session σ) SessionAnswer :=
  match x with
  | .start name table => do openOn (← Action.get).own name table
  | .startShared name table => do openOn (← Action.get).sharedDatabase name table
  | .call name c => call name c
  | .compile name => do
    let o ← find name
    return .compiled (← Action.check (o.builder.chain.compile o.database.rules))
  | .operation name => operation name
  | .resolve name fetch => resolve name fetch
  | .probe => do return .healthy (← execute (← Action.get).own.isHealthy)
  | .close => do
    execute (← Action.get).own.close
    return .done
  | .share own => do
    modify fun s => { s with shared := own }
    return .done

/-- Steps one after the other, whether they fail or not: the session afterwards, and all events. -/
def runAll (s : Session σ) : List SessionStep → Session σ × List Event
  | [] => (s, [])
  | x :: xs =>
    let ran := (step x).run s
    let rest := runAll ran.state xs
    (rest.1, ran.events ++ rest.2)

/-- A builder that was stored is found. -/
@[simp] theorem opened?_store_self (s : Session σ) (name : String) (o : Opened σ) :
    (s.store name o).opened? name = some o := by
  simp [store, opened?]

end Session

end QueryChain
