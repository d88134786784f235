import QueryChain.Schema.Operations
import QueryChain.Schema.Results

/-!
# Records as plain data

Records are dumped to data that a JSON document can hold: tuples become lists, bytes and the kinds
with a text of their own become texts, and floating values that have no numeral become null.

## Main definitions

* `Value.plain`, `Value.plainKey` — a value as plain data, and the text of a key.
* `Condition.dump`, `OrderBy.dump`, `Operation.dump`, `QueryError.dump`, `QueryResult.dump`,
  `DriverResult.dump` — the fields of a record as plain data, in the order of the record.
* `Operation.drained`, `QueryResult.drained`, … — a record after it was dumped once: dumping runs
  the generators in it to their end.
-/

set_option relaxedAutoImplicit false
set_option autoImplicit false

namespace QueryChain

namespace Value

/-- The text that bytes encode, or the fault of the first bytes that encode none. -/
def bytesText (bs : List UInt8) : Except Failure String :=
  match Text.ofUtf8? bs with
  | some s => .ok s
  | none =>
    let (start, stop) := (Text.firstBroken? bs).getD (0, bs.length)
    .error (.fault (.undecodable (bs.getD start 0).toNat start stop "invalid utf-8"))

/-- A value without parts as plain data. -/
def plainAtom : Value → Except Failure Value
  | float x => .ok (if x.isFinite then float x else null)
  | bytes bs => (bytesText bs).map text
  | decimal d => .ok (text d.text)
  | uuid n => .ok (text (Text.uuidText n))
  | moment m => .ok (text m.isoMinutes)
  | date d => .ok (text d.iso)
  | problem p => .error (.fault (.unknownKind p.qualified))
  | v => .ok v

/-- The text of a key without parts as plain data. -/
def plainAtomKey : Value → Except Failure String
  | null => .ok "None"
  | bool b => .ok (if b then "true" else "false")
  | float x => .ok x.text
  | int n => .ok (intText n)
  | text s =>
    match Fault.requireEncodable (fun _ => false) s with
    | .ok _ => .ok s
    | .error f => .error (.fault f)
  | bytes bs => bytesText bs
  | decimal d => .ok d.text
  | uuid n => .ok (Text.uuidText n)
  | moment m => .ok m.isoMinutes
  | date d => .ok d.iso
  | problem p => .error (.fault (.unknownKind p.qualified))
  | v => .error (.fault (.plainKeyKind v.kindName))

mutual

/-- The text of the key of a mapping as plain data. -/
def plainKey : Value → Except Failure String
  | tuple xs => (plainKeys xs).map (String.intercalate ",")
  | v => plainAtomKey v

/-- The texts of the parts of a key. -/
def plainKeys : List Value → Except Failure (List String)
  | [] => .ok []
  | x :: xs => do
    let s ← plainKey x
    return s :: (← plainKeys xs)

end

mutual

/-- A value as plain data. -/
def plain : Value → Except Failure Value
  | list xs | tuple xs | generator xs => (plainList xs).map list
  | map entries => (plainEntries entries).map fun es => map (Entries.ofList es)
  | v => plainAtom v

/-- The elements of a sequence as plain data. -/
def plainList : List Value → Except Failure (List Value)
  | [] => .ok []
  | x :: xs => do
    let y ← plain x
    return y :: (← plainList xs)

/-- The entries of a mapping as plain data.  Keys that become the same text share an entry. -/
def plainEntries : List (Value × Value) → Except Failure (List (Value × Value))
  | [] => .ok []
  | (k, v) :: rest => do
    let name ← plainKey k
    let v' ← plain v
    return (text name, v') :: (← plainEntries rest)

end

end Value

/-- Fields as plain data. -/
def Fields.plain (fields : Fields) : Except Failure Value := fields.toValue.plain

/-- A text that may be absent. -/
def optionalValue : Option String → Value
  | some s => .text s
  | none => .null

namespace Condition

/-- The fields of a condition. -/
def toFields (c : Condition) : Fields :=
  [("column", .text c.column), ("operator", .text c.operator.sql), ("value", c.operand)]

/-- A condition as plain data. -/
def dump (c : Condition) : Except Failure Value := c.toFields.plain

/-- A condition after all generators in its operand were run to their end. -/
def drained (c : Condition) : Condition := { c with operand := c.operand.drained }

end Condition

namespace OrderBy

/-- The fields of an order. -/
def toFields (o : OrderBy) : Fields :=
  [("column", .text o.column), ("ascending", .bool o.ascending)]

/-- An order as plain data. -/
def dump (o : OrderBy) : Except Failure Value := o.toFields.plain

end OrderBy

namespace Operation

/-- The fields of an operation, in the order of its record. -/
def toFields (op : Operation) : Fields :=
  [("operation_type", .text op.kind.name), ("table", .text op.table)] ++
    match op with
    | select s =>
      [("columns", .text s.columns), ("conditions", conditionList s.conditions),
        ("order_by", (s.orderBy.map fun o => o.toFields.toValue).getD .null),
        ("limit", (s.limit.map fun n => Value.int n).getD .null)]
    | insert s => [("rows", rowList s.rows), ("returning", optionalValue s.returning)]
    | upsert s =>
      [("rows", rowList s.rows), ("returning", optionalValue s.returning),
        ("conflict_columns", .list (s.conflictColumns.map .text))]
    | update s =>
      [("values", s.values.toValue), ("conditions", conditionList s.conditions),
        ("returning", optionalValue s.returning)]
    | delete s =>
      [("conditions", conditionList s.conditions), ("returning", optionalValue s.returning)]
where
  conditionList (cs : List Condition) : Value := .list (cs.map fun c => c.toFields.toValue)
  rowList (rows : List Fields) : Value := .list (rows.map Fields.toValue)

/-- An operation as plain data. -/
def dump (op : Operation) : Except Failure Value := op.toFields.plain

/-- An operation after all generators in it were run to their end. -/
def drained : Operation → Operation
  | select s => select { s with conditions := s.conditions.map Condition.drained }
  | insert s => insert { s with rows := s.rows.map Fields.drained }
  | upsert s => upsert { s with rows := s.rows.map Fields.drained }
  | update s =>
    update { s with
      values := s.values.drained
      conditions := s.conditions.map Condition.drained }
  | delete s => delete { s with conditions := s.conditions.map Condition.drained }

/-- The columns that an operation inserts, for the kinds that insert. -/
def insertedColumns? : Operation → Option (List String)
  | insert s => (columnNames s.rows).toOption
  | upsert s => (columnNames s.rows).toOption
  | _ => none

end Operation

namespace QueryError

/-- The fields of an error. -/
def toFields (e : QueryError) : Fields :=
  [("message", .text e.message), ("code", .text e.code), ("details", e.details.toValue)]

/-- An error as plain data. -/
def dump (e : QueryError) : Except Failure Value := e.toFields.plain

/-- An error after all generators in its details were run to their end. -/
def drained (e : QueryError) : QueryError := { e with details := e.details.drained }

end QueryError

/-- A result as plain data. -/
def QueryResult.dump (r : QueryResult) : Except Failure Value :=
  Fields.plain [("data", r.data), ("error", (r.error.map fun e => e.toFields.toValue).getD .null)]

/-- A result after all generators in it were run to their end. -/
def QueryResult.drained (r : QueryResult) : QueryResult :=
  ⟨r.data.drained, r.error.map QueryError.drained⟩

/-- A driver result as plain data. -/
def DriverResult.dump (r : DriverResult) : Except Failure Value :=
  Fields.plain [("rows", .list r.rowValues), ("row_count", .int r.rowCount)]

/-- A driver result after all generators in its rows were run to their end. -/
def DriverResult.drained (r : DriverResult) : DriverResult :=
  { r with rows := r.rows.map Fields.drained }

end QueryChain
