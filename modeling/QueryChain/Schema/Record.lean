import QueryChain.Schema.Dump

/-!
# Records of every kind

Records are built from loose fields, can be changed field by field, and are dumped as plain data,
whatever their kind.

## Main definitions

* `RecordKind` — the kinds of record, with `RecordKind.name` and `RecordKind.ofName?`.
* `Record` — a record of any kind, with `Record.ofFields`, `Record.assign` and `Record.dump`.

## Main results

* `RecordKind.ofName?_name` — every kind has a name of its own.
-/

set_option relaxedAutoImplicit false
set_option autoImplicit false

namespace QueryChain

/-- The kinds of record. -/
inductive RecordKind where
  | condition
  | order
  | operation (kind : StatementKind)
  | error
  | result
  | driverResult
deriving DecidableEq, Repr

namespace RecordKind

/-- The name of a kind. -/
def name : RecordKind → String
  | condition => "Condition"
  | order => "OrderBy"
  | operation .select => "Select"
  | operation .insert => "Insert"
  | operation .upsert => "Upsert"
  | operation .update => "Update"
  | operation .delete => "Delete"
  | error => "QueryError"
  | result => "QueryResult"
  | driverResult => "DriverResult"

/-- All kinds. -/
def all : List RecordKind :=
  [condition, order, operation .select, operation .insert, operation .upsert, operation .update,
    operation .delete, error, result, driverResult]

/-- The kind of a name. -/
def ofName? (s : String) : Option RecordKind := all.find? fun kind => kind.name == s

/-- The parts of a record of a kind that are computed from the others. -/
def computed (kind : RecordKind) : List String :=
  ["model_fields_set", "model_extra", "__fields_set__"] ++
    match kind with
    | operation .insert | operation .upsert => ["column_names"]
    | result => ["ok"]
    | _ => []

/-- Every kind has a name of its own. -/
theorem ofName?_name (kind : RecordKind) : ofName? kind.name = some kind := by
  rcases kind with _ | _ | kind | _ | _ | _ <;> first | rfl | (cases kind <;> rfl)

end RecordKind

/-- A record of any kind. -/
inductive Record where
  | condition (c : Condition)
  | order (o : OrderBy)
  | operation (op : Operation)
  | error (e : QueryError)
  | result (r : QueryResult)
  | driverResult (r : DriverResult)

namespace Record

/-- A record of a kind from loose fields. -/
def ofFields (kind : RecordKind) (given : Fields) : Checked Record :=
  match kind with
  | .condition => (Condition.ofFields given).map .condition
  | .order => (OrderBy.ofFields given).map .order
  | .operation kind => (Operation.ofFields kind given).map .operation
  | .error => (QueryError.ofFields given).map .error
  | .result => (QueryResult.ofFields given).map .result
  | .driverResult => (DriverResult.ofFields given).map .driverResult

/-- The kind of a record. -/
def kind : Record → RecordKind
  | condition _ => .condition
  | order _ => .order
  | operation op => .operation op.kind
  | error _ => .error
  | result _ => .result
  | driverResult _ => .driverResult

/-- Changes one field of a record, which is checked again. -/
def change (r : Record) (name : String) (v : Value) : Checked Record :=
  match r with
  | condition c => (c.assign name v).map condition
  | order o => (o.assign name v).map order
  | operation op => (op.assign name v).map operation
  | error e => (e.assign name v).map error
  | result r => (r.assign name v).map result
  | driverResult r => (r.assign name v).map driverResult

/-- Attaches a value to a record under a name that is no field.  A record cannot become a thing of
another class. -/
def attach (r : Record) (name : String) (v : Value) : Except Failure Record :=
  match name, v with
  | "__class__", v => .error (.fault (.classRequired v.qualifiedKindName))
  | "__dict__", .map _ => .ok r
  | "__dict__", v => .error (.fault (.mappingRequired v.qualifiedKindName))
  | _, _ => .ok r

/-- Assigns a value to a part of a record.  Parts that are computed cannot be assigned, names that
start with an underscore are no fields, and every other name is that of a field. -/
def assign (r : Record) (name : String) (v : Value) : Except Failure Record :=
  if r.kind.computed.contains name then .error (.fault (.noSetter name r.kind.name))
  else if name.startsWith "_" then r.attach name v
  else
    match r.change name v with
    | .ok next => .ok next
    | .error issues => .error (.invalid r.kind.name issues)

/-- The fields of a record as plain data. -/
def dump : Record → Except Failure Value
  | condition c => c.dump
  | order o => o.dump
  | operation op => op.dump
  | error e => e.dump
  | result r => r.dump
  | driverResult r => r.dump

/-- A record after it was dumped once. -/
def drained : Record → Record
  | condition c => condition c.drained
  | order o => order o
  | operation op => operation op.drained
  | error e => error e.drained
  | result r => result r.drained
  | driverResult r => driverResult r.drained

end Record

end QueryChain
