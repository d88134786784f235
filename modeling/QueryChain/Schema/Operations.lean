import QueryChain.Schema.Reader
import QueryChain.Statement.Operation
import QueryChain.Value.Order

/-!
# Checking operations

Operations built from loose fields are checked field by field, and all issues are reported in field
order.  A field of an operation can be assigned later; the new value passes the same check as at the
start, and an assignment that fails leaves the operation as it was.

## Main definitions

* `Condition.ofFields`, `OrderBy.ofFields` — the parts of an operation.
* `checkRows`, `checkAssigned` — the payloads of inserts and updates.
* `Select.assemble`, …, `Delete.assemble` — an operation from its checked fields.
* `Operation.ofFields` — an operation of a kind from loose fields.
* `Condition.assign`, `OrderBy.assign`, `Operation.assign` — one field replaced.
-/

set_option relaxedAutoImplicit false
set_option autoImplicit false

namespace QueryChain

/-! ### Conditions and orders -/

namespace Condition

/-- Reads an operator from its text. -/
def readOperator (v : Value) : Checked Operator :=
  match Reader.text v with
  | .ok s =>
    match Operator.ofText? s with
    | some o => .ok o
    | none => .fail (.choice (Operator.all.map Operator.sql))
  | .error _ => .fail (.choice (Operator.all.map Operator.sql))

/-- Reads an operand.  The operand of `IN` is turned into a list; every other operand is kept. -/
def readOperand (operator : Option Operator) (v : Value) : Checked Value :=
  match operator with
  | some .isIn =>
    match v with
    | .text _ | .bytes _ => .fail (.refused "IN requires a list of values")
    | _ =>
      match v.elements? with
      | some xs => .ok (.list xs)
      | none => .fail (.refused "IN requires a list of values")
  | _ => .ok v

/-- A condition from loose fields.  The operand is read in the light of the operator, if that could
be read, and is null when it is left out. -/
def ofFields (given : Fields) : Checked Condition :=
  let column := Reader.required given "column" Reader.nonemptyText
  let operator := Reader.required given "operator" readOperator
  let operand := Reader.optional given "value" .null (readOperand operator.toOption)
  (column.and (operator.and operand)).map fun (c, o, v) => ⟨c, o, v⟩

/-- Reads a condition given as a mapping. -/
def read (v : Value) : Checked Condition := Reader.record "Condition" v >>= ofFields

/-- A condition with one field replaced. -/
def assign (c : Condition) (name : String) (v : Value) : Checked Condition :=
  match name with
  | "column" => ((Reader.nonemptyText v).under (.name name)).map fun s => { c with column := s }
  | "operator" => ((readOperator v).under (.name name)).map fun o => { c with operator := o }
  | "value" =>
    ((readOperand (some c.operator) v).under (.name name)).map fun x => { c with operand := x }
  | _ => (Checked.fail (.noSuchField name)).under (.name name)

end Condition

namespace OrderBy

/-- An order from loose fields; ascending unless said otherwise. -/
def ofFields (given : Fields) : Checked OrderBy :=
  ((Reader.required given "column" Reader.nonemptyText).and
    (Reader.optional given "ascending" true Reader.bool)).map fun (c, a) => ⟨c, a⟩

/-- Reads an order given as a mapping. -/
def read (v : Value) : Checked OrderBy := Reader.record "OrderBy" v >>= ofFields

/-- Reads an order that may be null. -/
def readNullable : Value → Checked (Option OrderBy)
  | .null => .ok none
  | v => (read v).map some

/-- An order with one field replaced. -/
def assign (o : OrderBy) (name : String) (v : Value) : Checked OrderBy :=
  match name with
  | "column" => ((Reader.nonemptyText v).under (.name name)).map fun s => { o with column := s }
  | "ascending" => ((Reader.bool v).under (.name name)).map fun b => { o with ascending := b }
  | _ => (Checked.fail (.noSuchField name)).under (.name name)

end OrderBy

/-! ### Payloads -/

/-- Whether two rows have the same columns, in whatever order. -/
def sameColumns (row other : Fields) : Bool :=
  row.length == other.length && row.all fun field => other.has field.1

/-- Whether one name does not come after another. -/
def nameLe (name other : String) : Bool := !Value.lessNats (Text.codes other) (Text.codes name)

/-- Column names in order, as a list literal. -/
def sortedNames (row : Fields) : String :=
  (Value.list (((row.map Prod.fst).mergeSort nameLe).map Value.text)).literal

/-- The first row, from `index` on, that does not have the columns of the first row. -/
def firstMismatch? (first : Fields) (index : Nat) : List Fields → Option (Nat × Fields)
  | [] => none
  | row :: rows =>
    if sameColumns row first then firstMismatch? first (index + 1) rows else some (index, row)

/-- Checks a payload: at least one row, at least one column, and the same columns in every row. -/
def checkRows (rows : List Fields) : Checked (List Fields) :=
  match rows with
  | [] => .fail (.refused "at least one row is required")
  | first :: rest =>
    if first.isEmpty then .fail (.refused "rows must contain at least one column")
    else
      match firstMismatch? first 1 rest with
      | none => .ok rows
      | some (index, row) =>
        .fail (.refused ("row " ++ natText index ++ " has columns " ++ sortedNames row
          ++ ", expected " ++ sortedNames first))

/-- Reads a payload. -/
def readRows (v : Value) : Checked (List Fields) := Reader.listOf Reader.fields v >>= checkRows

/-- Checks the columns to set: at least one. -/
def checkAssigned (fields : Fields) : Checked Fields :=
  if fields.isEmpty then .fail (.refused "values cannot be empty") else .ok fields

/-- Reads the columns to set. -/
def readAssigned (v : Value) : Checked Fields := Reader.fields v >>= checkAssigned

/-- Refuses an empty list of conflict columns. -/
def checkConflictColumns (columns : List String) : Checked (List String) :=
  if columns.isEmpty then .fail (.listTooShort 1 0) else .ok columns

/-- Reads the conflict columns of an upsert. -/
def readConflictColumns (v : Value) : Checked (List String) :=
  Reader.listOf Reader.text v >>= checkConflictColumns

/-- Reads a number of rows that may be null. -/
def readLimit : Value → Checked (Option Nat)
  | .null => .ok none
  | v => (Reader.int v >>= Reader.atLeast 0).map fun n => some n.toNat

/-- Reads conditions. -/
def readConditions (v : Value) : Checked (List Condition) := Reader.listOf Condition.read v

/-! ### Operations from checked fields -/

/-- A query for rows from its checked fields. -/
def Select.assemble (table columns : Checked String) (conditions : Checked (List Condition))
    (orderBy : Checked (Option OrderBy)) (limit : Checked (Option Nat)) : Checked Select :=
  (table.and (columns.and (conditions.and (orderBy.and limit)))).map
    fun (t, c, w, o, l) => ⟨t, c, w, o, l⟩

/-- An insert from its checked fields. -/
def Insert.assemble (table : Checked String) (rows : Checked (List Fields))
    (returning : Checked (Option String)) : Checked Insert :=
  (table.and (rows.and returning)).map fun (t, r, x) => ⟨t, r, x⟩

/-- An upsert from its checked fields. -/
def Upsert.assemble (table : Checked String) (rows : Checked (List Fields))
    (returning : Checked (Option String)) (conflict : Checked (List String)) : Checked Upsert :=
  (table.and (rows.and (returning.and conflict))).map fun (t, r, x, c) => ⟨t, r, x, c⟩

/-- An update from its checked fields. -/
def Update.assemble (table : Checked String) (values : Checked Fields)
    (conditions : Checked (List Condition)) (returning : Checked (Option String)) :
    Checked Update :=
  (table.and (values.and (conditions.and returning))).map fun (t, v, c, r) => ⟨t, v, c, r⟩

/-- A deletion from its checked fields. -/
def Delete.assemble (table : Checked String) (conditions : Checked (List Condition))
    (returning : Checked (Option String)) : Checked Delete :=
  (table.and (conditions.and returning)).map fun (t, c, r) => ⟨t, c, r⟩

namespace Operation

/-- A kind of statement as issues show it. -/
def shownKind (kind : StatementKind) : String :=
  "<QueryType." ++ kind.name ++ ": \x27" ++ kind.name ++ "\x27>"

/-- Reads the kind of an operation, which can only be its own. -/
def readKind (kind : StatementKind) : Value → Checked Unit
  | .text s => if s = kind.name then .ok () else .fail (.constant (shownKind kind))
  | _ => .fail (.constant (shownKind kind))

/-- An operation of a kind from loose fields. -/
def ofFields (kind : StatementKind) (given : Fields) : Checked Operation :=
  let own := Reader.optional given "operation_type" () (readKind kind)
  let table := Reader.required given "table" Reader.nonemptyText
  let conditions := Reader.optional given "conditions" [] readConditions
  let rows := Reader.required given "rows" readRows
  let returning (default : Option String) :=
    Reader.optional given "returning" default Reader.nullableText
  let body : Checked Operation :=
    match kind with
    | .select =>
      (Select.assemble table (Reader.optional given "columns" "*" Reader.nonemptyText) conditions
        (Reader.optional given "order_by" none OrderBy.readNullable)
        (Reader.optional given "limit" none readLimit)).map .select
    | .insert => (Insert.assemble table rows (returning none)).map .insert
    | .upsert =>
      (Upsert.assemble table rows (returning (some "*"))
        (Reader.required given "conflict_columns" readConflictColumns)).map .upsert
    | .update =>
      (Update.assemble table (Reader.required given "values" readAssigned) conditions
        (returning (some "*"))).map .update
    | .delete => (Delete.assemble table conditions (returning (some "*"))).map .delete
  (own.and body).map Prod.snd

/-- An operation with its table replaced. -/
def withTable (op : Operation) (t : String) : Operation :=
  match op with
  | select s => select { s with table := t }
  | insert s => insert { s with table := t }
  | upsert s => upsert { s with table := t }
  | update s => update { s with table := t }
  | delete s => delete { s with table := t }

/-- An operation with one field replaced.  The kind of an operation is frozen. -/
def assign (op : Operation) (name : String) (v : Value) : Checked Operation :=
  match name, op with
  | "operation_type", _ => (Checked.fail .frozenField).under (.name name)
  | "table", _ => ((Reader.nonemptyText v).under (.name name)).map op.withTable
  | "columns", select s =>
    ((Reader.nonemptyText v).under (.name name)).map fun x => select { s with columns := x }
  | "order_by", select s =>
    ((OrderBy.readNullable v).under (.name name)).map fun x => select { s with orderBy := x }
  | "limit", select s =>
    ((readLimit v).under (.name name)).map fun x => select { s with limit := x }
  | "conditions", select s =>
    ((readConditions v).under (.name name)).map fun x => select { s with conditions := x }
  | "conditions", update s =>
    ((readConditions v).under (.name name)).map fun x => update { s with conditions := x }
  | "conditions", delete s =>
    ((readConditions v).under (.name name)).map fun x => delete { s with conditions := x }
  | "rows", insert s => ((readRows v).under (.name name)).map fun x => insert { s with rows := x }
  | "rows", upsert s => ((readRows v).under (.name name)).map fun x => upsert { s with rows := x }
  | "values", update s =>
    ((readAssigned v).under (.name name)).map fun x => update { s with values := x }
  | "conflict_columns", upsert s =>
    ((readConflictColumns v).under (.name name)).map fun x => upsert { s with conflictColumns := x }
  | "returning", insert s =>
    ((Reader.nullableText v).under (.name name)).map fun x => insert { s with returning := x }
  | "returning", upsert s =>
    ((Reader.nullableText v).under (.name name)).map fun x => upsert { s with returning := x }
  | "returning", update s =>
    ((Reader.nullableText v).under (.name name)).map fun x => update { s with returning := x }
  | "returning", delete s =>
    ((Reader.nullableText v).under (.name name)).map fun x => delete { s with returning := x }
  | _, _ => (Checked.fail (.noSuchField name)).under (.name name)

end Operation

end QueryChain
