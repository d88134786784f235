import QueryChain.Statement.Render
import QueryChain.Value.Access

/-!
# Writing parts of statements

The parts of a statement by the names of their methods, written from values of any kind.

## Main definitions

* `LoosePredicate.ofValue?` — a predicate given as a list of its parts.
* `NameRules.renderNamed?` — the part that a method writes.
-/

set_option relaxedAutoImplicit false
set_option autoImplicit false

namespace QueryChain

/-- A predicate given as a list of its parts: a column, an operator and an operand. -/
def LoosePredicate.ofValue? : Value → Option LoosePredicate
  | .list [column, operator, operand] => some ⟨column, operator, operand⟩
  | _ => none

/-- A part that binds nothing and may end with a fault. -/
def Rendering.ofFault {α : Type} (x : Except Fault α) : Rendering α :=
  .ofExcept (x.mapError .fault)

namespace NameRules

/-- The parts of a row under several keys. -/
def looseParts (row : Value) : List Value → Except Fault (List Value)
  | [] => .ok []
  | key :: keys => do
    let x ← row.part key
    return x :: (← looseParts row keys)

/-- Writes rows of placeholders.  The columns are gone through once for every row. -/
def renderLooseRowList (columns : Value) : List Value → Rendering (List String)
  | [] => pure []
  | row :: rows => do
    let keys ← .ofFault columns.elements
    let values ← .ofFault (looseParts row keys)
    let marks ← bindValues values
    let texts ← renderLooseRowList columns.drained rows
    return ("(" ++ commaList marks ++ ")") :: texts

/-- Writes the rows of `VALUES`. -/
def renderLooseRows (rows columns : Value) : Rendering String := do
  return commaList (← renderLooseRowList columns (← .ofFault rows.elements))

/-- Writes the assignments of `SET`, which have to be a mapping. -/
def renderLooseAssignments (rules : NameRules) (values : Value) : Rendering String :=
  match values with
  | .map entries => rules.renderAssignments entries
  | v => .ofFault (.error (.noMember v.qualifiedKindName "items"))

/-- The part that a method writes; nothing for the name of no method, or for arguments that it does
not take. -/
def renderNamed? (rules : NameRules) (method : String) (args : List Value) :
    Option (Rendering Value) :=
  let textOf (x : Rendering String) : Rendering Value := do return .text (← x)
  let textsOf (x : Rendering (List String)) : Rendering Value := do
    return .list ((← x).map .text)
  match method, args with
  | "render_where", _ =>
    (args.mapM LoosePredicate.ofValue?).map fun ps => textOf (rules.renderWhere ps)
  | "render_condition", _ =>
    (args.mapM LoosePredicate.ofValue?).map fun ps => textsOf (rules.renderPredicates ps)
  | "format_values_rows", [rows, columns] => some (textOf (renderLooseRows rows columns))
  | "format_set_clause", [values] => some (textOf (rules.renderLooseAssignments values))
  | "format_returning", [returning] => some (textOf (renderReturning returning))
  | "format_column_list", [columns] => some (textOf (.ofFault (columns.joined ", ")))
  | "bind_many", [values] =>
    some (textsOf (do bindValues (← Rendering.ofFault values.elements)))
  | _, _ => none

end NameRules

end QueryChain
