import QueryChain.Failure.Report
import QueryChain.Schema.Reader
import QueryChain.Value.Access

/-!
# Results

What resolving a chain gives back, and what an executor hands to it.  A result holds data or an
error; a query that matched nothing is no error.

## Main definitions

* `DriverResult` — the rows that a driver returned, and how many rows it touched.
* `QueryError`, `QueryError.ofFailure` — the error half of a result, and how failures become one.
* `QueryResult`, `QueryResult.success`, `QueryResult.failure` — the outcome of a chain.
-/

set_option relaxedAutoImplicit false
set_option autoImplicit false

namespace QueryChain

/-- The rows that a driver returned, and how many rows the statement touched. -/
structure DriverResult where
  rows : List Fields
  rowCount : Int
deriving Repr

namespace DriverResult

/-- Reads rows. -/
def readRowList (v : Value) : Checked (List Fields) := Reader.listOf Reader.fields v

/-- A driver result from loose fields. -/
def ofFields (given : Fields) : Checked DriverResult :=
  ((Reader.optional given "rows" [] readRowList).and
    (Reader.optional given "row_count" 0 Reader.int)).map fun (r, n) => ⟨r, n⟩

/-- A driver result with one field replaced. -/
def assign (r : DriverResult) (name : String) (v : Value) : Checked DriverResult :=
  match name with
  | "rows" => ((readRowList v).under (.name name)).map fun x => { r with rows := x }
  | "row_count" => ((Reader.int v).under (.name name)).map fun x => { r with rowCount := x }
  | _ => (Checked.fail (.noSuchField name)).under (.name name)

/-- A driver result from rows; without a count of its own it counts the rows. -/
def ofRows (rows : Value) (count : Option Value) : Except Failure DriverResult :=
  let counted : Except Fault Value :=
    match count with
    | some n => .ok n
    | none => rows.length.map fun n => .int n
  match counted with
  | .error f => .error (.fault f)
  | .ok n =>
    match ofFields [("rows", rows), ("row_count", n)] with
    | .ok r => .ok r
    | .error issues => .error (.invalid "DriverResult" issues)

/-- The rows as values. -/
def rowValues (r : DriverResult) : List Value := r.rows.map Fields.toValue

/-- No rows. -/
def empty : DriverResult := ⟨[], 0⟩

end DriverResult

/-- The error half of a result. -/
structure QueryError where
  message : String
  code : String
  details : Fields
deriving Repr

namespace QueryError

/-- The code of an error that carries none. -/
def defaultCode : String := Code.queryExecution.text

/-- An error from loose fields. -/
def ofFields (given : Fields) : Checked QueryError :=
  ((Reader.required given "message" Reader.text).and
    ((Reader.optional given "code" defaultCode Reader.text).and
      (Reader.optional given "details" [] Reader.fields))).map fun (m, c, d) => ⟨m, c, d⟩

/-- Reads an error given as a mapping, or null. -/
def readNullable : Value → Checked (Option QueryError)
  | .null => .ok none
  | v => (Reader.record "QueryError" v >>= ofFields).map some

/-- An error with one field replaced. -/
def assign (e : QueryError) (name : String) (v : Value) : Checked QueryError :=
  match name with
  | "message" => ((Reader.text v).under (.name name)).map fun x => { e with message := x }
  | "code" => ((Reader.text v).under (.name name)).map fun x => { e with code := x }
  | "details" => ((Reader.fields v).under (.name name)).map fun x => { e with details := x }
  | _ => (Checked.fail (.noSuchField name)).under (.name name)

/-- The error half of a failed query.  A reported error keeps its message, code and details; any
other failure gives its text, if it can be had, or its name when the text is empty. -/
def ofFailure (f : Failure) : Except Failure QueryError :=
  match f with
  | .coded e =>
    match e.details.entries with
    | .error f => .error (.fault f)
    | .ok entries =>
      let given : Fields :=
        [("message", e.message), ("code", .text e.code.text), ("details", .map entries)]
      match ofFields given with
      | .ok kept => .ok kept
      | .error issues => .error (.invalid "QueryError" issues)
  | _ => f.said.map fun text => ⟨f.textOrName text, defaultCode, []⟩

end QueryError

/-- The outcome of resolving a chain: data, or an error. -/
structure QueryResult where
  data : Value
  error : Option QueryError
deriving Repr

namespace QueryResult

/-- A result from loose fields. -/
def ofFields (given : Fields) : Checked QueryResult :=
  ((Reader.optional given "data" .null .ok).and
    (Reader.optional given "error" none QueryError.readNullable)).map fun (d, e) => ⟨d, e⟩

/-- A result with one field replaced. -/
def assign (r : QueryResult) (name : String) (v : Value) : Checked QueryResult :=
  match name with
  | "data" => .ok { r with data := v }
  | "error" =>
    ((QueryError.readNullable v).under (.name name)).map fun x => { r with error := x }
  | _ => (Checked.fail (.noSuchField name)).under (.name name)

/-- The outcome of a query that ran. -/
def success (data : Value) : QueryResult := ⟨data, none⟩

/-- The outcome of a query that failed. -/
def failure (f : Failure) : Except Failure QueryResult :=
  (QueryError.ofFailure f).map fun e => ⟨.null, some e⟩

/-- Whether a result holds no error. -/
def ok (r : QueryResult) : Bool := r.error.isNone

end QueryResult

end QueryChain
