import QueryChain.Statement.Binder

/-!
# Pieces of statements

A statement whose placeholders are not numbered yet is a list of pieces: text that enters it
verbatim, and values that are bound.  Writing pieces numbers the values from left to right, so the
text of a statement and its parameters are two views of one list.

A rendering interleaves checks with writing.  `Rendering.Writes` takes the two apart: the rendering
fails exactly when a check does, and otherwise writes given pieces, for every binder.

## Main definitions

* `Piece` — verbatim text, or a value to bind.
* `Piece.values`, `Piece.write` — the values of pieces, and their text with numbered marks.
* `Piece.joined` — lists of pieces with a separator between neighbours.
* `Rendering.Yields`, `Rendering.Writes` — a rendering as a check and what it writes.

## Main results

* `Piece.write_append`, `Piece.write_joined` — how text is put together from the text of parts.
* `Rendering.Yields.bind`, `Rendering.Yields.ofExcept_bind` — renderings one after the other.
-/

set_option relaxedAutoImplicit false
set_option autoImplicit false

namespace QueryChain

/-- A part of a statement whose placeholders are not numbered yet. -/
inductive Piece where
  | verbatim (s : String)
  | value (v : Value)

namespace Piece

/-- The value of a piece that is bound. -/
def value? : Piece → Option Value
  | verbatim _ => none
  | value v => some v

/-- The values of pieces, in order. -/
def values (ps : List Piece) : List Value := ps.filterMap value?

/-- The text of pieces behind `k` bound values: every value is written as the mark of its
position. -/
def write (mark : Nat → String) (k : Nat) : List Piece → String
  | [] => ""
  | verbatim s :: ps => s ++ write mark k ps
  | value _ :: ps => mark (k + 1) ++ write mark (k + 1) ps

/-- The texts of lists of pieces that follow each other. -/
def writeEach (mark : Nat → String) (k : Nat) : List (List Piece) → List String
  | [] => []
  | ps :: pss => write mark k ps :: writeEach mark (k + (values ps).length) pss

/-- Lists of pieces in one list, with a separator between neighbours. -/
def joined (sep : String) : List (List Piece) → List Piece
  | [] => []
  | [ps] => ps
  | ps :: pss => ps ++ verbatim sep :: joined sep pss

@[simp] theorem values_nil : values [] = [] := rfl

@[simp] theorem values_verbatim (s : String) (ps : List Piece) :
    values (verbatim s :: ps) = values ps := rfl

@[simp] theorem values_value (v : Value) (ps : List Piece) :
    values (value v :: ps) = v :: values ps := rfl

@[simp] theorem values_append (ps qs : List Piece) : values (ps ++ qs) = values ps ++ values qs :=
  List.filterMap_append

/-- The values of joined lists are those of the lists. -/
@[simp] theorem values_joined (sep : String) (pss : List (List Piece)) :
    values (joined sep pss) = pss.flatMap values := by
  induction pss with
  | nil => rfl
  | cons ps pss ih =>
    cases pss with
    | nil => simp [joined]
    | cons qs qss => simp [joined, ih]

/-- Text of two lists one after the other: the second is numbered behind the values of the
first. -/
theorem write_append (mark : Nat → String) (k : Nat) (ps qs : List Piece) :
    write mark k (ps ++ qs) = write mark k ps ++ write mark (k + (values ps).length) qs := by
  induction ps generalizing k with
  | nil => simp [write]
  | cons p ps ih =>
    cases p with
    | verbatim s => simp [write, ih, String.append_assoc]
    | value v =>
      have shift : k + 1 + (values ps).length = k + ((values ps).length + 1) := by omega
      simp [write, ih, String.append_assoc, shift]

/-- The text of joined lists is the text of the lists with the separator between neighbours. -/
theorem write_joined (mark : Nat → String) (k : Nat) (sep : String) (pss : List (List Piece)) :
    write mark k (joined sep pss) = String.intercalate sep (writeEach mark k pss) := by
  induction pss generalizing k with
  | nil => simp [joined, write, writeEach]
  | cons ps pss ih =>
    cases pss with
    | nil => simp [joined, writeEach]
    | cons qs qss =>
      have rest := ih (k + (values ps).length)
      simp only [writeEach] at rest ⊢
      rw [String.intercalate_cons_cons, ← rest]
      simp [joined, write_append, write, String.append_assoc]

end Piece

namespace Rendering

variable {α β : Type}

/-- Renderings one after the other may be grouped at will. -/
instance : LawfulMonad Rendering :=
  LawfulMonad.mk' Rendering
    (fun x => by
      funext b
      show (x >>= fun a => Pure.pure a).run b = x.run b
      rw [run_bind]
      obtain ⟨outcome, b'⟩ : Except Failure _ × Binder := x.run b
      cases outcome <;> rfl)
    (fun _ _ => rfl)
    (fun x f g => by
      funext b
      show ((x >>= f) >>= g).run b = (x >>= fun a => f a >>= g).run b
      simp only [run_bind]
      obtain ⟨outcome, b'⟩ : Except Failure _ × Binder := x.run b
      cases outcome <;> rfl)

/-- A rendering fails as a check does.  If the check passes, it binds given values, and its result
is given by the spelling of the marks and the number of values bound before. -/
def Yields (x : Rendering α) (check : Except Failure Unit) (result : (Nat → String) → Nat → α)
    (bound : List Value) : Prop :=
  ∀ b : Binder,
    match check with
    | .ok () =>
      x.run b = (.ok (result b.mark b.bound.length), { b with bound := b.bound ++ bound })
    | .error e => ∃ b' : Binder, x.run b = (.error e, b')

/-- A rendering fails as a check does, and otherwise writes pieces. -/
def Writes (x : Rendering String) (check : Except Failure Unit) (ps : List Piece) : Prop :=
  x.Yields check (fun mark k => Piece.write mark k ps) (Piece.values ps)

/-- A result alone binds nothing. -/
theorem Yields.pure (a : α) : (Pure.pure a : Rendering α).Yields (.ok ()) (fun _ _ => a) [] := by
  intro b
  simp

/-- Binding a value writes one piece. -/
theorem bindValue_writes (v : Value) : (bindValue v).Writes (.ok ()) [.value v] := by
  intro b
  simp [Piece.write]

/-- A check that passed has no effect on what follows. -/
@[simp] theorem ofExcept_ok_bind (a : α) (f : α → Rendering β) : (ofExcept (.ok a) >>= f) = f a :=
  rfl

/-- A check, with what its success says, in front of a rendering. -/
theorem Yields.ofExcept_bind {x : Except Failure α} {f : α → Rendering β}
    {check : Except Failure Unit} {result : (Nat → String) → Nat → β} {bound : List Value}
    (h : ∀ a, x = .ok a → (f a).Yields check result bound) :
    (ofExcept x >>= f).Yields (x >>= fun _ => check) result bound := by
  intro b
  cases x with
  | error e => exact ⟨b, rfl⟩
  | ok a => exact h a rfl b

/-- One rendering after the other. -/
theorem Yields.bind {x : Rendering α} {f : α → Rendering β} {check check' : Except Failure Unit}
    {result : (Nat → String) → Nat → α} {result' : α → (Nat → String) → Nat → β}
    {bound bound' : List Value} (hx : x.Yields check result bound)
    (hf : ∀ a, (f a).Yields check' (result' a) bound') :
    (x >>= f).Yields (check >>= fun _ => check')
      (fun mark k => result' (result mark k) mark (k + bound.length)) (bound ++ bound') := by
  intro b
  have first := hx b
  cases check with
  | error e =>
    obtain ⟨b', hb⟩ := first
    exact ⟨b', by rw [run_bind, hb]⟩
  | ok u =>
    have second := hf (result b.mark b.bound.length) { b with bound := b.bound ++ bound }
    cases check' with
    | error e =>
      obtain ⟨b', hb⟩ := second
      exact ⟨b', by rw [run_bind, first]; exact hb⟩
    | ok u' =>
      show (x >>= f).run b = _
      rw [run_bind, first]
      simpa using second

/-- The parts of what a rendering yields may be replaced by equal ones. -/
theorem Yields.congr {x : Rendering α} {check check' : Except Failure Unit}
    {result result' : (Nat → String) → Nat → α} {bound bound' : List Value}
    (h : x.Yields check result bound) (hc : check = check')
    (hr : ∀ mark k, result mark k = result' mark k) (hb : bound = bound') :
    x.Yields check' result' bound' := by
  obtain rfl : result = result' := funext fun mark => funext (hr mark)
  subst hc hb
  exact h

/-- A rendering fails exactly as its check does. -/
theorem Yields.run_eq_error_iff {x : Rendering α} {check : Except Failure Unit}
    {result : (Nat → String) → Nat → α} {bound : List Value} (h : x.Yields check result bound)
    (b : Binder) {f : Failure} : (x.run b).1 = .error f ↔ check = .error f := by
  have ran := h b
  cases check with
  | ok u =>
    have ran : x.run b = _ := ran
    rw [ran]
    exact iff_of_false (fun e => by cases e) fun e => by cases e
  | error e =>
    obtain ⟨after, ran⟩ := ran
    rw [ran, Except.error.injEq, Except.error.injEq]

end Rendering

end QueryChain
