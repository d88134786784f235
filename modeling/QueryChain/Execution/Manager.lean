import QueryChain.Execution.Action

/-!
# Blocks under a manager

A manager stands around a block.  It is entered before the block runs, and left when the block has
ended, and then it is told of the failure with which the block ended, if any.  The failure goes on
once the manager is left, unless the manager keeps it.

A program that pauses makes a manager.  It runs up to its pause when the manager is entered.  When
the manager is left, the program goes on from the pause, or the failure of the block is thrown in
there: a failure that leaves the program again goes on, and one that does not is kept.

## Main definitions

* `Manager`, `Manager.around` — a manager, and a block under it.
* `Pausing`, `Pausing.manager` — a program that pauses once, and the manager that it makes.
* `Manager.pausing` — a program that pauses as the block under a manager.
-/

set_option relaxedAutoImplicit false
set_option autoImplicit false

namespace QueryChain

/-- The failure of a manager whose program came to its end before it paused. -/
def Failure.noPause : Failure := .raised .runtime [.text "generator didn\x27t yield"]

/-- What stands around a block: what entering it hands out, and whether it keeps the failure of the
block when it is left. -/
structure Manager (σ β : Type) where
  enter : Action σ β
  leave : β → Option Failure → Action σ Bool

/-- A program that pauses once.  It hands something out at its pause; then it goes on, or a failure
is thrown in, and it tells whether this very failure leaves it again. -/
structure Pausing (σ β : Type) where
  start : Action σ β
  goOn : β → Action σ Unit
  throwIn : β → Failure → Action σ Bool

namespace Manager

variable {σ β γ α : Type}

/-- Leaves a manager with a failure, which goes on unless it is kept. -/
def release (m : Manager σ β) (held : β) (f : Failure) (kept : Action σ α) : Action σ α := do
  if ← m.leave held (some f) then kept else Action.ofExcept (.error f)

/-- A block under a manager.  There is no value if the block failed and its failure is kept. -/
def around (m : Manager σ β) (block : β → Action σ α) : Action σ (Option α) := do
  let held ← m.enter
  match ← (block held).attempt with
  | .ok a =>
    let _ ← m.leave held none
    return some a
  | .error f => m.release held f (pure none)

/-- A program that pauses as the block under a manager: the manager is entered before the program
starts, and left when the program ends.  If the program fails before its pause and the failure is
kept, nothing is handed out. -/
def pausing (m : Manager σ β) (p : β → Pausing σ γ) : Pausing σ (β × γ) where
  start := do
    let held ← m.enter
    match ← (p held).start.attempt with
    | .ok c => return (held, c)
    | .error f => m.release held f (Action.ofExcept (.error .noPause))
  goOn held := do
    match ← ((p held.1).goOn held.2).attempt with
    | .ok () =>
      let _ ← m.leave held.1 none
    | .error f => m.release held.1 f (pure ())
  throwIn held f := do
    match ← ((p held.1).throwIn held.2 f).attempt with
    | .ok true => return !(← m.leave held.1 (some f))
    | .ok false =>
      let _ ← m.leave held.1 none
      return false
    | .error g => m.release held.1 g (pure false)

end Manager

/-- The manager that a program makes.  A signal that was thrown in leaves the program as an error
about it, and the manager knows it by that error. -/
def Pausing.manager {σ β : Type} (p : Pausing σ β) : Manager σ β where
  enter := p.start.leaving "generator"
  leave held failure :=
    match failure with
    | none => do
      (p.goOn held).leaving "generator"
      return false
    | some f => do return !(← (p.throwIn held f).leaving "generator")

end QueryChain
