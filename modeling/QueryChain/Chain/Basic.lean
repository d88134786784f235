import QueryChain.Chain.Payload
import QueryChain.Schema.Operations
import QueryChain.Statement.Render

/-!
# Chains

A chain collects one statement against one table, call by call.  Every call checks its arguments and
either changes the chain or fails; the statement is put together when the chain is compiled.

* The kind starts as a query for rows; a write replaces it, and the last write wins.  Selecting
  columns never turns a write back into a query: after a write it chooses what is returned.
* Filters accumulate in call order.
* The last order and the last limit count, and only for queries.

## Main definitions

* `Chain`, `Chain.start` — the state of a chain, and a chain without calls.
* `Comparison`, `Call` — the calls.
* `Chain.apply` — one call: the chain afterwards, and the failure if there was one.
* `Chain.run` — several calls one after the other.
* `Chain.toOperation`, `Chain.compile` — the operation and the statement of a chain.
-/

set_option relaxedAutoImplicit false
set_option autoImplicit false

namespace QueryChain

/-- The state of a chain. -/
structure Chain where
  table : Value
  kind : StatementKind
  columns : String
  selected : Bool
  conditions : List Condition
  orderBy : Option OrderBy
  limit : Option Nat
  insertRows : Option (List Fields)
  upsertRows : Option (List Fields)
  assignments : Option Fields
  conflictColumns : Option (List String)
deriving Repr

/-- The comparisons that a filter can make. -/
inductive Comparison where
  | eq
  | neq
  | gt
  | gte
  | lt
  | lte
  | like
  | ilike
  | is
  | isIn
deriving DecidableEq, Repr

/-- One call on a chain, with its arguments as given. -/
inductive Call where
  | select (columns : Value)
  | insert (data : Value)
  | upsert (data onConflict : Value)
  | update (data : Value)
  | delete
  | filter (comparison : Comparison) (column operand : Value)
  | order (column ascending : Value)
  | limit (count : Value)
deriving Repr

namespace Chain

/-- A chain without calls. -/
def start (table : Value) : Chain where
  table := table
  kind := .select
  columns := "*"
  selected := false
  conditions := []
  orderBy := none
  limit := none
  insertRows := none
  upsertRows := none
  assignments := none
  conflictColumns := none

/-- What a chain shows of itself. -/
def shown (c : Chain) : String :=
  "QueryBuilder(table=" ++ c.table.literal ++ ", operation=" ++ c.kind.name ++ ")"

/-- Adds a condition on a checked column. -/
def addCondition (rules : NameRules) (c : Chain) (column : Value) (operator : Operator)
    (operand : Value) : Except Failure Chain := do
  let name ← rules.checkColumn column
  return { c with conditions := c.conditions ++ [⟨name, operator, operand⟩] }

/-- The condition operator of a comparison with an operand: comparing with null asks whether the
column is null. -/
def comparisonOperator (comparison : Comparison) (operand : Value) : Operator :=
  match comparison, operand with
  | .eq, .null => .is
  | .eq, _ => .eq
  | .neq, .null => .isNot
  | .neq, _ => .neq
  | .gt, _ => .gt
  | .gte, _ => .gte
  | .lt, _ => .lt
  | .lte, _ => .lte
  | .like, _ => .like
  | .ilike, _ => .ilike
  | .is, _ => .is
  | .isIn, _ => .isIn

/-- The values that a filter looks among: the elements of anything that can be iterated, except
texts, bytes and mappings. -/
def memberList (values : Value) : Except Failure (List Value) :=
  match values with
  | .list xs | .tuple xs | .generator xs => .ok xs
  | _ =>
    .error (.rejected "in_() requires a list of values" (.text "values") values .invalidArgument)

/-- Adds the filter of a comparison. -/
def addFilter (rules : NameRules) (c : Chain) (comparison : Comparison) (column operand : Value) :
    Except Failure Chain :=
  match comparison with
  | .is => do
    let _ ← NameRules.checkKeyword operand
    c.addCondition rules column .is operand
  | .isIn => do
    let values ← memberList operand
    c.addCondition rules column .isIn (.list values)
  | _ => c.addCondition rules column (comparisonOperator comparison operand) operand

/-- One call: the chain afterwards, and the failure if the call failed.  An upsert keeps its
conflict target even when its payload is then refused; every other call that fails changes
nothing. -/
def apply (rules : NameRules) (c : Chain) (call : Call) : Chain × Option Failure :=
  match call with
  | .select columns =>
    settle (do
      let text ← NameRules.checkColumnList columns
      return { c with columns := text, selected := true })
  | .insert data =>
    settle (do
      let rows ← rules.checkPayload data
      return { c with insertRows := some rows, kind := .insert })
  | .upsert data onConflict =>
    match rules.checkConflictTarget onConflict with
    | .error f => (c, some f)
    | .ok target =>
      let kept := { c with conflictColumns := some target }
      match rules.checkPayload data with
      | .error f => (kept, some f)
      | .ok rows => ({ kept with upsertRows := some rows, kind := .upsert }, none)
  | .update data =>
    settle (do
      let fields ← rules.checkAssignments data
      return { c with assignments := some fields, kind := .update })
  | .delete => ({ c with kind := .delete }, none)
  | .filter comparison column operand => settle (c.addFilter rules comparison column operand)
  | .order column ascending =>
    settle (do
      let name ← rules.checkColumn column
      return { c with orderBy := some ⟨name, isAscending ascending⟩ })
  | .limit count =>
    settle (do
      let n ← NameRules.checkLimit count
      return { c with limit := some n })
where
  /-- The chain of a call that changes nothing when it fails. -/
  settle : Except Failure Chain → Chain × Option Failure
    | .ok next => (next, none)
    | .error f => (c, some f)
  /-- Every argument but false orders upwards. -/
  isAscending : Value → Bool
    | .bool false => false
    | _ => true

/-- Calls one after the other, whether they fail or not. -/
def run (rules : NameRules) (c : Chain) (calls : List Call) : Chain :=
  calls.foldl (fun c call => (c.apply rules call).1) c

/-! ### The operation of a chain -/

/-- A payload that was given, as a value; none is null. -/
def rowsValue : Option (List Fields) → Value
  | some rows => .list (rows.map Fields.toValue)
  | none => .null

/-- The operation of a chain, with all its parts checked once more. -/
def record (c : Chain) : Checked Operation :=
  let table := (Reader.nonemptyText c.table).under (.name "table")
  let returning : Checked (Option String) := .ok (some c.columns)
  match c.kind with
  | .insert =>
    (Insert.assemble table ((readRows (rowsValue c.insertRows)).under (.name "rows"))
      (.ok (if c.selected then some c.columns else none))).map .insert
  | .upsert =>
    (Upsert.assemble table ((readRows (rowsValue c.upsertRows)).under (.name "rows")) returning
      ((readConflictColumns
        ((c.conflictColumns.map fun cs => Value.list (cs.map .text)).getD .null)).under
          (.name "conflict_columns"))).map .upsert
  | .update =>
    (Update.assemble table
      ((readAssigned ((c.assignments.map Fields.toValue).getD .null)).under (.name "values"))
      (.ok c.conditions) returning).map .update
  | .delete => (Delete.assemble table (.ok c.conditions) returning).map .delete
  | .select =>
    (Select.assemble table (.ok c.columns) (.ok c.conditions) (.ok c.orderBy)
      (.ok c.limit)).map .select

/-- The failure of a chain whose parts do not make an operation. -/
def malformed (c : Chain) (issues : List Issue) : Failure :=
  let first := (issues.head?.map fun issue => issue.kind.message).getD ""
  .coded (CodedError.rejecting
    ("Invalid " ++ c.kind.name ++ " on \x27" ++ c.table.display ++ "\x27: " ++ first)
    (.text c.kind.lowerName) .null .invalidPayload []
    (some (.invalid c.kind.name issues)))

/-- The operation of a chain.  An insert returns columns only if some were selected; the other
writes return the selected columns, all of them by default. -/
def toOperation (c : Chain) : Except Failure Operation :=
  match c.record with
  | .ok op => .ok op
  | .error issues => .error (c.malformed issues)

/-- The statement of a chain. -/
def compile (rules : NameRules) (c : Chain) : Except Failure Compiled :=
  c.toOperation >>= rules.compile

end Chain

end QueryChain
