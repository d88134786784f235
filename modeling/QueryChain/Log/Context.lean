import QueryChain.Log.Record

/-!
# Context of the log

Records take attributes from two contexts: the request in progress, and the process as a whole.  The
names of the request and of the user always come from the request context, and the name and the
version of the library from the library; any other attribute is taken only if the record has none,
from the request before the process.

## Main definitions

* `LogContext` — the two contexts, with `merge`, `clear` and `configure`.
* `LogContext.applyTo` — a record with what it takes from the contexts.
-/

set_option relaxedAutoImplicit false
set_option autoImplicit false

namespace QueryChain

/-- Writes a field unless one of the name is there. -/
def LogRecord.supply (r : LogRecord) (field : String × Value) : LogRecord :=
  if r.has field.1 then r else r.assign field.1 field.2

/-- The context of the request in progress, and that of the process. -/
structure LogContext where
  request : Fields
  process : Fields
deriving Repr

namespace LogContext

/-- No context. -/
def empty : LogContext := ⟨[], []⟩

/-- The fields that always come from the request. -/
def requestNames : List String := ["request_id", "user_id"]

/-- The fields of a call: those that always come from the request go first, and null ones are left
out. -/
def inOrder (given : Fields) : Fields :=
  (requestNames.filterMap (fun name => (given.get? name).map fun v => (name, v))
    ++ given.filter fun field => !requestNames.contains field.1).filter fun field => !field.2.isNull

/-- Merges fields into the context of the request. -/
def merge (c : LogContext) (given : Fields) : LogContext :=
  { c with request := c.request.update (inOrder given) }

/-- Clears the context of the request. -/
def clear (c : LogContext) : LogContext := { c with request := [] }

/-- Replaces the context of the process; an environment is written over an extra field of that
name. -/
def configure (c : LogContext) (environment : Value) (extra : Fields) : LogContext :=
  { c with process := if environment.isNull then extra else extra.set "environment" environment }

/-- A record with what it takes from the contexts. -/
def applyTo (c : LogContext) (r : LogRecord) : LogRecord :=
  let r := r.assignAll (requestNames.map fun name => (name, (c.request.get? name).getD .null))
  let r := (c.request.filter fun field => !requestNames.contains field.1).foldl LogRecord.supply r
  let r := r.assignAll [("sdk_name", .text libraryName), ("sdk_version", .text libraryVersion)]
  c.process.foldl LogRecord.supply r

end LogContext

end QueryChain
