import QueryChain.Statement.Name
import QueryChain.Value.Order

/-!
# Payloads

A payload is one row or a list of rows.  All rows of a payload have the same columns, and every
column is a plain name.

## Main definitions

* `payloadRows?` — the rows of a payload, if it has the shape of one.
* `NameRules.checkPayload` — the rows of a payload whose columns pass the rules.
* `NameRules.checkAssignments` — the columns that an update sets.
-/

set_option relaxedAutoImplicit false
set_option autoImplicit false

namespace QueryChain

/-- The entries of mappings, if all the values are mappings. -/
def allEntries? : List Value → Option (List Value.Entries)
  | [] => some []
  | .map entries :: rest => (allEntries? rest).map (entries :: ·)
  | _ :: _ => none

/-- The rows of a payload: a mapping is one row, and a list or tuple of mappings is several. -/
def payloadRows? : Value → Option (List Value.Entries)
  | .map entries => some [entries]
  | .list xs | .tuple xs => allEntries? xs
  | _ => none

namespace NameRules

/-- Checks that every key is a plain name, in order. -/
def checkKeys (rules : NameRules) : Value.Entries → Except Failure Fields
  | [] => .ok []
  | (key, value) :: rest => do
    let name ← rules.checkPlain (.text "column") key
    return (name, value) :: (← rules.checkKeys rest)

/-- A row under the columns of the first row: its fields in its own order, if it has exactly these
columns. -/
def matchRow? (columns : List String) (row : Value.Entries) : Option Fields :=
  if row.length = columns.length then
    row.mapM fun entry =>
      entry.1.text?.bind fun name => if columns.contains name then some (name, entry.2) else none
  else none

/-- The failure of a row with other columns than the first; its keys are shown in order. -/
def mismatch (index : Nat) (row : Value.Entries) : Failure :=
  match Value.sortKeys row.keys with
  | .error f => .fault f
  | .ok keys =>
    .rejected ("Row " ++ natText index ++ " does not have the same columns as row 0")
      (.text "data") (.list keys) .invalidPayload

/-- Checks the rows after the first against its columns. -/
def checkRest (columns : List String) (index : Nat) :
    List Value.Entries → Except Failure (List Fields)
  | [] => .ok []
  | row :: rows =>
    match matchRow? columns row with
    | none => .error (mismatch index row)
    | some fields => (checkRest columns (index + 1) rows).map (fields :: ·)

/-- Checks a payload: rows, at least one of them with at least one column, and the columns of the
first row in all of them. -/
def checkPayload (rules : NameRules) (data : Value) : Except Failure (List Fields) :=
  match payloadRows? data with
  | none =>
    .error (.rejected "Payload must be a mapping or a list of mappings" (.text "data")
      (.text data.kindName) .invalidPayload)
  | some [] | some ([] :: _) =>
    .error (.rejected "Payload must contain at least one row with at least one column"
      (.text "data") .null .invalidPayload)
  | some (first :: rest) => do
    let fields ← rules.checkKeys first
    return fields :: (← checkRest (fields.map Prod.fst) 1 rest)

/-- Checks the columns that an update sets: a mapping that is not empty, with plain names. -/
def checkAssignments (rules : NameRules) (data : Value) : Except Failure Fields :=
  match data with
  | .map (entry :: rest) => rules.checkKeys (entry :: rest)
  | _ =>
    .error (.rejected "update() requires a non-empty mapping of column values"
      (.text "data") (.text data.kindName) .invalidPayload)

end NameRules

end QueryChain
