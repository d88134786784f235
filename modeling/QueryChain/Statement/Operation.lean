import QueryChain.Statement.Name

/-!
# Operations

An operation says what statement to run, and nothing about how the statement is written: its kind,
its table, the rows or columns it writes, the conditions that select rows, and what it returns.

## Main definitions

* `StatementKind`, `Operator` — the kinds of statement and the comparison operators.
* `Condition`, `OrderBy` — one predicate, and an order on one column.
* `Select`, `Insert`, `Upsert`, `Update`, `Delete`, `Operation` — the operations.
* `Operation.telemetry` — the fields that describe an operation in logs.
-/

set_option relaxedAutoImplicit false
set_option autoImplicit false

namespace QueryChain

/-- The kinds of statement. -/
inductive StatementKind where
  | select
  | insert
  | upsert
  | update
  | delete
deriving DecidableEq, Repr

namespace StatementKind

/-- The name of a kind. -/
def name : StatementKind → String
  | select => "SELECT"
  | insert => "INSERT"
  | upsert => "UPSERT"
  | update => "UPDATE"
  | delete => "DELETE"

/-- The name of a kind in lower case. -/
def lowerName : StatementKind → String
  | select => "select"
  | insert => "insert"
  | upsert => "upsert"
  | update => "update"
  | delete => "delete"

/-- All kinds. -/
def all : List StatementKind := [select, insert, upsert, update, delete]

/-- The part of an operation that writing its statement needs first. -/
def firstPart : StatementKind → String
  | select => "columns"
  | insert | upsert => "column_names"
  | update | delete => "table"

/-- The failure to write something that names a kind of statement and has no parts: the first part
is missed, unless there is no such kind. -/
def missingParts (holder name : String) : Failure :=
  match all.find? fun k => k.name == name with
  | some k => .fault (.noMember holder k.firstPart)
  | none => .fault (.unsupportedStatement name)

end StatementKind

/-- The comparison operators of a condition. -/
inductive Operator where
  | eq
  | neq
  | gt
  | gte
  | lt
  | lte
  | like
  | ilike
  | is
  | isNot
  | isIn
deriving DecidableEq, Repr

namespace Operator

/-- The text of an operator in a statement. -/
def sql : Operator → String
  | eq => "="
  | neq => "!="
  | gt => ">"
  | gte => ">="
  | lt => "<"
  | lte => "<="
  | like => "LIKE"
  | ilike => "ILIKE"
  | is => "IS"
  | isNot => "IS NOT"
  | isIn => "IN"

/-- All operators. -/
def all : List Operator := [eq, neq, gt, gte, lt, lte, like, ilike, is, isNot, isIn]

/-- The operator of a text. -/
def ofText? (s : String) : Option Operator := all.find? fun o => o.sql == s

/-- The operator that a value names. -/
def ofValue (v : Value) : Except Failure Operator :=
  match v.text?.bind ofText? with
  | some o => .ok o
  | none => .error (.fault (.unknownOperator v.literal))

/-- Every operator has a text of its own. -/
@[simp] theorem ofText?_sql (o : Operator) : ofText? o.sql = some o := by cases o <;> rfl

/-- The text of an operator names it. -/
@[simp] theorem ofValue_text_sql (o : Operator) : ofValue (.text o.sql) = .ok o := by
  simp [ofValue, Value.text?]

end Operator

/-- One predicate: a column, an operator and an operand. -/
structure Condition where
  column : String
  operator : Operator
  operand : Value
deriving Repr

/-- An order on one column. -/
structure OrderBy where
  column : String
  ascending : Bool
deriving DecidableEq, Repr

/-- Reads rows. -/
structure Select where
  table : String
  columns : String
  conditions : List Condition
  orderBy : Option OrderBy
  limit : Option Nat
deriving Repr

/-- Inserts rows; the first row gives the columns and their order. -/
structure Insert where
  table : String
  rows : List Fields
  returning : Option String
deriving Repr

/-- Inserts rows, and overwrites the rows that collide on the conflict columns. -/
structure Upsert where
  table : String
  rows : List Fields
  returning : Option String
  conflictColumns : List String
deriving Repr

/-- Sets columns of the rows that the conditions select. -/
structure Update where
  table : String
  values : Fields
  conditions : List Condition
  returning : Option String
deriving Repr

/-- Deletes the rows that the conditions select, every row if there are none. -/
structure Delete where
  table : String
  conditions : List Condition
  returning : Option String
deriving Repr

/-- A statement to run. -/
inductive Operation where
  | select (s : Select)
  | insert (s : Insert)
  | upsert (s : Upsert)
  | update (s : Update)
  | delete (s : Delete)
deriving Repr

/-- The columns of the rows of a payload, in the order of the first row. -/
def columnNames (rows : List Fields) : Except Failure (List String) :=
  match rows with
  | [] => .error (.fault .listIndex)
  | row :: _ => .ok (row.map Prod.fst)

namespace Operation

/-- The kind of an operation. -/
def kind : Operation → StatementKind
  | select _ => .select
  | insert _ => .insert
  | upsert _ => .upsert
  | update _ => .update
  | delete _ => .delete

/-- The table of an operation. -/
def table : Operation → String
  | select s => s.table
  | insert s => s.table
  | upsert s => s.table
  | update s => s.table
  | delete s => s.table

/-- The conditions of an operation; inserts have none. -/
def conditions : Operation → List Condition
  | select s => s.conditions
  | insert _ | upsert _ => []
  | update s => s.conditions
  | delete s => s.conditions

/-- The fields that describe an operation in logs: its kind, its table, and how many conditions it
has, if it has any. -/
def telemetry (op : Operation) : Fields :=
  [("operation.type", .text op.kind.name), ("operation.table", .text op.table)]
    ++ (if op.conditions.isEmpty then []
        else [("operation.conditions", .text (natText op.conditions.length))])

end Operation

end QueryChain
