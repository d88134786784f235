import QueryChain.Failure.Report

/-!
# Binding values while a statement is written

Values never enter the text of a statement.  While the text is written from left to right, each
value is appended to the parameters and a placeholder for its position is written instead, so the
placeholders of the text are numbered in the order in which they stand.

## Main definitions

* `Binder` — how placeholders are spelled, and the values bound so far.
* `Binder.dollar` — the spelling `$1`, `$2`, ….
* `Rendering` — writing with a binder; what was bound before a failure stays bound.
* `bindValue`, `bindValues` — binding one value and several.
-/

set_option relaxedAutoImplicit false
set_option autoImplicit false

namespace QueryChain

/-- How placeholders are spelled, and the values bound so far. -/
structure Binder where
  mark : Nat → String
  bound : List Value

/-- The placeholder `$n`. -/
def Binder.dollarMark (n : Nat) : String := "$" ++ natText n

/-- A binder for the spelling `$1`, `$2`, …, with nothing bound. -/
def Binder.dollar : Binder := ⟨dollarMark, []⟩

/-- Writing a part of a statement: its result or a failure, and the binder afterwards. -/
def Rendering (α : Type) : Type := Binder → Except Failure α × Binder

namespace Rendering

variable {α β : Type}

/-- Writes with a binder. -/
def run (x : Rendering α) (b : Binder) : Except Failure α × Binder := x b

instance : Monad Rendering where
  pure a := fun b => (.ok a, b)
  bind x f := fun b =>
    match x b with
    | (.ok a, b') => f a b'
    | (.error e, b') => (.error e, b')

/-- A part that binds nothing. -/
def ofExcept (x : Except Failure α) : Rendering α := fun b => (x, b)

@[simp] theorem run_pure (a : α) (b : Binder) : (pure a : Rendering α).run b = (.ok a, b) := rfl

@[simp] theorem run_bind (x : Rendering α) (f : α → Rendering β) (b : Binder) :
    (x >>= f).run b =
      match x.run b with
      | (.ok a, b') => (f a).run b'
      | (.error e, b') => (.error e, b') := rfl

@[simp] theorem run_ofExcept (x : Except Failure α) (b : Binder) :
    (ofExcept x).run b = (x, b) := rfl

end Rendering

/-- Binds one value and writes its placeholder. -/
def bindValue (v : Value) : Rendering String := fun b =>
  (.ok (b.mark (b.bound.length + 1)), { b with bound := b.bound ++ [v] })

/-- Binds values in order and writes their placeholders. -/
def bindValues : List Value → Rendering (List String)
  | [] => pure []
  | v :: vs => do
    let mark ← bindValue v
    let marks ← bindValues vs
    return mark :: marks

/-- Binding appends the value and writes the placeholder of its position. -/
@[simp] theorem run_bindValue (v : Value) (b : Binder) :
    (bindValue v).run b
      = (.ok (b.mark (b.bound.length + 1)), { b with bound := b.bound ++ [v] }) := rfl

/-- Binding several values appends them in order and numbers them consecutively. -/
@[simp] theorem run_bindValues (vs : List Value) (b : Binder) :
    (bindValues vs).run b
      = (.ok ((List.range' (b.bound.length + 1) vs.length).map b.mark),
          { b with bound := b.bound ++ vs }) := by
  induction vs generalizing b with
  | nil => simp [bindValues]
  | cons v vs ih => simp [bindValues, ih, List.range'_succ]

end QueryChain
