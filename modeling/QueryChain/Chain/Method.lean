import QueryChain.Chain.Basic
import QueryChain.Schema.Dump
import QueryChain.Value.Signature

/-!
# Calls by name

The calls on a chain by the names of its methods, with arguments by position.

## Main definitions

* `Comparison.ofName?` — the comparison of a filter method.
* `Call.signature?` — the parameters of a method.
* `Call.named?` — a call of a method with its arguments.
* `Chain.drained` — a chain after its operation was dumped once.
-/

set_option relaxedAutoImplicit false
set_option autoImplicit false

namespace QueryChain

/-- The comparison of a filter method, with the name of its second parameter. -/
def Comparison.ofName? : String → Option (Comparison × String)
  | "eq" => some (.eq, "value")
  | "neq" => some (.neq, "value")
  | "gt" => some (.gt, "value")
  | "gte" => some (.gte, "value")
  | "lt" => some (.lt, "value")
  | "lte" => some (.lte, "value")
  | "like" => some (.like, "pattern")
  | "ilike" => some (.ilike, "pattern")
  | "is_" => some (.is, "value")
  | "in_" => some (.isIn, "values")
  | _ => none

namespace Call

/-- The parameters of a method: those that have to be given, and the others with their defaults. -/
def parameters? : String → Option (List String × Fields)
  | "select" => some ([], [("columns", .text "*")])
  | "insert" | "update" => some (["data"], [])
  | "upsert" => some (["data"], [("on_conflict", .null)])
  | "delete" => some ([], [])
  | "order" => some (["column"], [("ascending", .bool true)])
  | "limit" => some (["count"], [])
  | name => (Comparison.ofName? name).map fun (_, second) => (["column", second], [])

/-- The signature of a method. -/
def signature? (name : String) : Option Signature :=
  (parameters? name).map fun (required, optional) =>
    ⟨"QueryBuilder." ++ name, true, required, optional⟩

/-- The call of a method with one argument for every parameter. -/
def ofArguments? (name : String) (args : List Value) : Option Call :=
  match name, args with
  | "select", [columns] => some (.select columns)
  | "insert", [data] => some (.insert data)
  | "upsert", [data, onConflict] => some (.upsert data onConflict)
  | "update", [data] => some (.update data)
  | "delete", [] => some .delete
  | "order", [column, ascending] => some (.order column ascending)
  | "limit", [count] => some (.limit count)
  | name, [column, operand] =>
    (Comparison.ofName? name).map fun (comparison, _) => .filter comparison column operand
  | _, _ => none

/-- The call of a method with its arguments, or the fault of their number; nothing for the name of
no method. -/
def named? (name : String) (args : List Value) : Option (Except Fault Call) :=
  match signature? name with
  | none => none
  | some s =>
    match s.arguments args with
    | .error f => some (.error f)
    | .ok all => (ofArguments? name all).map .ok

end Call

/-- A chain after its operation was dumped once: the generators in the parts that its kind uses were
run to their end. -/
def Chain.drained (c : Chain) : Chain :=
  let conditions := c.conditions.map Condition.drained
  match c.kind with
  | .select | .delete => { c with conditions := conditions }
  | .insert => { c with insertRows := c.insertRows.map fun rows => rows.map Fields.drained }
  | .upsert => { c with upsertRows := c.upsertRows.map fun rows => rows.map Fields.drained }
  | .update =>
    { c with conditions := conditions, assignments := c.assignments.map Fields.drained }

end QueryChain
