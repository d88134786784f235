import QueryChain.Execution.Manager
import QueryChain.Proofs.Execution.Action

/-!
# Managers that keep no failure

A block under a manager that keeps no failure ends as it does by itself, between what happens when
the manager is entered and when it is left.  This is so however the manager is made: a program that
pauses makes one if it goes on to its end, and if what is thrown in leaves it again; and such a
program is made from another one inside a further manager.  A signal that ends an iteration is no
exception, although it becomes an error on its way out of a program.

If a manager fails when it is left, its own failure takes the place of what the block ended with.

## Main definitions

* `Manager.told` — what a manager is told of the outcome of its block.

## Main results

* `Manager.run_around`, `Manager.run_around_of_leave_error` — a block under a manager.
* `Manager.run_start_pausing`, `Manager.run_goOn_pausing`, `Manager.run_throwIn_pausing` — a program
  that pauses as the block under a manager.
* `Pausing.run_enter_manager`, `Pausing.run_leave_manager`, `Pausing.run_leave_manager_of_error` —
  the manager that a program makes.
* `Action.run_leaving`, `Action.isStop_of_run_leaving` — what leaves a program.
-/

set_option relaxedAutoImplicit false
set_option autoImplicit false

namespace QueryChain

variable {σ α β γ : Type} {s s₁ s₂ s₃ : σ} {before inside behind : List Event}

/-! ### Actions -/

namespace Action

variable {x : Action σ α} {outcome : Except Failure α} {program : String} {f : Failure}

/-- The outcome of a run, taken as a value. -/
theorem run_attempt_of (h : x.run s = ⟨outcome, s₁, inside⟩) :
    x.attempt.run s = ⟨.ok outcome, s₁, inside⟩ := by
  rw [run_attempt, h]

/-- A program that does not fail with a signal ends as it does by itself. -/
theorem run_leaving (h : ∀ f, (x.run s).outcome = .error f → f.isStop = false) :
    (x.leaving program).run s = x.run s := by
  have same : (x.run s).outcome.mapError (Failure.leaving program) = (x.run s).outcome := by
    cases outcome : (x.run s).outcome with
    | ok a => rfl
    | error f => exact congrArg Except.error (Failure.leaving_of_not_isStop program (h f outcome))
  have ran : (x.leaving program).run s
      = ⟨(x.run s).outcome.mapError (Failure.leaving program), (x.run s).state,
        (x.run s).events⟩ := rfl
  rw [ran, same]

/-- A program that ends with a value. -/
theorem run_leaving_of_ok {a : α} (h : x.run s = ⟨.ok a, s₁, inside⟩) :
    (x.leaving program).run s = ⟨.ok a, s₁, inside⟩ := by
  have same : (x.leaving program).run s = x.run s := run_leaving fun f failed => by
    rw [h] at failed
    cases failed
  rw [same, h]

/-- What leaves a program is no signal. -/
theorem isStop_of_run_leaving (h : ((x.leaving program).run s).outcome = .error f) :
    f.isStop = false := by
  have ran : ((x.leaving program).run s).outcome
      = (x.run s).outcome.mapError (Failure.leaving program) := rfl
  rw [ran] at h
  cases outcome : (x.run s).outcome with
  | ok a =>
    rw [outcome] at h
    cases h
  | error g =>
    rw [outcome] at h
    cases h
    exact Failure.isStop_leaving program g

/-- A program that ends with a failure. -/
theorem run_leaving_of_error (h : x.run s = ⟨.error f, s₁, inside⟩) :
    (x.leaving program).run s = ⟨.error (f.leaving program), s₁, inside⟩ := by
  have ran : x s = ⟨.error f, s₁, inside⟩ := h
  simp only [run, leaving, ran]
  rfl

end Action

/-! ### Blocks -/

namespace Manager

variable {m : Manager σ β} {held : β}

/-- What a manager is told of the outcome of its block. -/
def told : Except Failure α → Option Failure
  | .ok _ => none
  | .error f => some f

/-- A failure that is not kept goes on. -/
theorem run_release {f : Failure} {kept : Action σ α}
    (left : (m.leave held (some f)).run s = ⟨.ok false, s₁, behind⟩) :
    (m.release held f kept).run s = ⟨.error f, s₁, behind⟩ := by
  rw [release, Action.run_bind_of_ok left, if_neg Bool.false_ne_true, Action.run_ofExcept,
    List.append_nil]

/-- **A block under a manager that keeps no failure** ends as it does by itself. -/
theorem run_around {b : β → Action σ α} {outcome : Except Failure α}
    (entered : m.enter.run s = ⟨.ok held, s₁, before⟩)
    (ended : (b held).run s₁ = ⟨outcome, s₂, inside⟩)
    (left : (m.leave held (told outcome)).run s₂ = ⟨.ok false, s₃, behind⟩) :
    (m.around b).run s = ⟨outcome.map some, s₃, before ++ (inside ++ behind)⟩ := by
  rw [around, Action.run_bind_of_ok entered, Action.run_bind_of_ok (Action.run_attempt_of ended)]
  cases outcome with
  | ok a =>
    have left : (m.leave held none).run s₂ = ⟨.ok false, s₃, behind⟩ := left
    simp only [Action.run_bind_of_ok left, Action.run_pure, List.append_nil, Except.map]
  | error f => simp only [run_release left, Except.map]

/-- If the manager fails when it is told of the failure of a block, its own failure goes on. -/
theorem run_around_of_leave_error {b : β → Action σ α} {f g : Failure}
    (entered : m.enter.run s = ⟨.ok held, s₁, before⟩)
    (failed : (b held).run s₁ = ⟨.error f, s₂, inside⟩)
    (left : (m.leave held (some f)).run s₂ = ⟨.error g, s₃, behind⟩) :
    (m.around b).run s = ⟨.error g, s₃, before ++ (inside ++ behind)⟩ := by
  have released : (m.release held f (pure none) : Action σ (Option α)).run s₂
      = ⟨.error g, s₃, behind⟩ := by
    rw [release, Action.run_bind_of_error left]
  rw [around, Action.run_bind_of_ok entered, Action.run_bind_of_ok (Action.run_attempt_of failed)]
  simp only [released]

/-- A block does not run if its manager is not entered. -/
theorem run_around_of_error {b : β → Action σ α} {f : Failure}
    (entered : m.enter.run s = ⟨.error f, s₁, before⟩) :
    (m.around b).run s = ⟨.error f, s₁, before⟩ := by
  rw [around, Action.run_bind_of_error entered]

/-! ### Programs under a manager -/

variable {p : β → Pausing σ γ} {c : γ} {f : Failure}

/-- The manager is entered before the program starts. -/
theorem run_start_pausing (entered : m.enter.run s = ⟨.ok held, s₁, before⟩)
    (started : (p held).start.run s₁ = ⟨.ok c, s₂, inside⟩) :
    (m.pausing p).start.run s = ⟨.ok (held, c), s₂, before ++ inside⟩ := by
  simp only [pausing]
  rw [Action.run_bind_of_ok entered, Action.run_bind_of_ok (Action.run_attempt_of started)]
  simp only [Action.run_pure, List.append_nil]

/-- A failure before the pause goes on once the manager is left. -/
theorem run_start_pausing_of_error (entered : m.enter.run s = ⟨.ok held, s₁, before⟩)
    (failed : (p held).start.run s₁ = ⟨.error f, s₂, inside⟩)
    (left : (m.leave held (some f)).run s₂ = ⟨.ok false, s₃, behind⟩) :
    (m.pausing p).start.run s = ⟨.error f, s₃, before ++ (inside ++ behind)⟩ := by
  simp only [pausing]
  rw [Action.run_bind_of_ok entered, Action.run_bind_of_ok (Action.run_attempt_of failed)]
  simp only [run_release left]

/-- The manager is left when the program has gone on to its end. -/
theorem run_goOn_pausing (goneOn : ((p held).goOn c).run s = ⟨.ok (), s₁, inside⟩)
    (left : (m.leave held none).run s₁ = ⟨.ok false, s₂, behind⟩) :
    ((m.pausing p).goOn (held, c)).run s = ⟨.ok (), s₂, inside ++ behind⟩ := by
  simp only [pausing]
  rw [Action.run_bind_of_ok (Action.run_attempt_of goneOn)]
  simp only [Action.run_bind_of_ok left, Action.run_pure, List.append_nil]

/-- A failure that was thrown in leaves the program, and then the manager. -/
theorem run_throwIn_pausing (thrown : ((p held).throwIn c f).run s = ⟨.ok true, s₁, inside⟩)
    (left : (m.leave held (some f)).run s₁ = ⟨.ok false, s₂, behind⟩) :
    ((m.pausing p).throwIn (held, c) f).run s = ⟨.ok true, s₂, inside ++ behind⟩ := by
  simp only [pausing]
  rw [Action.run_bind_of_ok (Action.run_attempt_of thrown)]
  simp only [Action.run_bind_of_ok left, Action.run_pure, List.append_nil, Bool.not_false]

/-- A failure of the program takes the place of the one that was thrown in. -/
theorem run_throwIn_pausing_of_error {g : Failure}
    (thrown : ((p held).throwIn c f).run s = ⟨.error g, s₁, inside⟩)
    (left : (m.leave held (some g)).run s₁ = ⟨.ok false, s₂, behind⟩) :
    ((m.pausing p).throwIn (held, c) f).run s = ⟨.error g, s₂, inside ++ behind⟩ := by
  simp only [pausing]
  rw [Action.run_bind_of_ok (Action.run_attempt_of thrown)]
  simp only [run_release left]

end Manager

/-! ### Managers of programs -/

namespace Pausing

variable {p : Pausing σ β} {held : β}

/-- The manager of a program is entered when the program pauses. -/
theorem run_enter_manager (started : p.start.run s = ⟨.ok held, s₁, before⟩) :
    p.manager.enter.run s = ⟨.ok held, s₁, before⟩ :=
  Action.run_leaving_of_ok started

/-- The manager of a program is not entered when the program fails before its pause. -/
theorem run_enter_manager_of_error {f : Failure} (failed : p.start.run s = ⟨.error f, s₁, before⟩) :
    p.manager.enter.run s = ⟨.error (f.leaving "generator"), s₁, before⟩ :=
  Action.run_leaving_of_error failed

/-- **The manager of a program** keeps no failure, if the program goes on to its end when nothing is
thrown in, and what is thrown in leaves it. -/
theorem run_leave_manager {told : Option Failure}
    (goneOn : told = none → (p.goOn held).run s = ⟨.ok (), s₁, behind⟩)
    (thrown : ∀ f, told = some f → (p.throwIn held f).run s = ⟨.ok true, s₁, behind⟩) :
    (p.manager.leave held told).run s = ⟨.ok false, s₁, behind⟩ := by
  cases told with
  | none =>
    have gone : ((p.goOn held).leaving "generator").run s = ⟨.ok (), s₁, behind⟩ :=
      Action.run_leaving_of_ok (goneOn rfl)
    simp only [manager]
    rw [Action.run_bind_of_ok gone, Action.run_pure, List.append_nil]
  | some f =>
    have left : ((p.throwIn held f).leaving "generator").run s = ⟨.ok true, s₁, behind⟩ :=
      Action.run_leaving_of_ok (thrown f rfl)
    simp only [manager]
    rw [Action.run_bind_of_ok left, Bool.not_true, Action.run_pure, List.append_nil]

/-- If the program fails otherwise when a failure is thrown in, its manager fails so. -/
theorem run_leave_manager_of_error {f g : Failure}
    (thrown : (p.throwIn held f).run s = ⟨.error g, s₁, behind⟩) :
    (p.manager.leave held (some f)).run s = ⟨.error (g.leaving "generator"), s₁, behind⟩ := by
  simp only [manager]
  rw [Action.run_bind_of_error (Action.run_leaving_of_error thrown)]

end Pausing

end QueryChain
