import QueryChain.Failure.Report
import QueryChain.Value.Access
import QueryChain.Value.Signature

/-!
# Constructors by name

Reported errors are built by constructors that can be called by name.  The arguments are values of
any kind, so that building an error can itself end with a fault.

## Main definitions

* `CodedError.signature?` — the parameters of a constructor.
* `CodedError.named?` — the error that a constructor builds.
* `CodedError.withParts` — an error from its parts.
-/

set_option relaxedAutoImplicit false
set_option autoImplicit false

namespace QueryChain.CodedError

/-- Details as given; whatever counts as empty stands for no details. -/
def givenDetails (details : Value) : Value := if details.truthy then details else .map []

/-- An error from its parts. -/
def withParts (validation : Bool) (message : Value) (code : Code) (details : Value)
    (cause : Option Cause) : CodedError :=
  ⟨validation, message, code, givenDetails details, cause⟩

/-- The parameters of a constructor. -/
def signature? (name : String) : Option Signature :=
  let taking (required : List String) (optional : List String) : Option Signature :=
    some ⟨name, false, required, optional.map fun parameter => (parameter, .null)⟩
  match name with
  | "validation_error" => taking ["message"] ["field", "value", "error_code", "details", "cause"]
  | "configuration_error" => taking ["message"] ["config_key", "details", "cause"]
  | "connection_error" => taking ["message"] ["service", "details", "cause"]
  | "query_execution_error" => taking ["query", "original_error"] ["details"]
  | "builder_consumed_error" => taking ["table"] []
  | _ => none

/-- The code of an error: the one given as a code, or else a default if nothing was given for it. -/
def codeOr (default : Code) (code : Option Code) (given : Option Value) : Except Failure Code :=
  match code, given with
  | some c, _ => .ok c
  | none, none => .ok default
  | none, some v => .error (.fault (.noMember v.qualifiedKindName "value"))

/-- The excerpt of a query: the first 500 characters of a text; anything else is kept if it has a
length that is not greater. -/
def excerpt (query : Value) : Except Failure Value :=
  match query with
  | .text sql => .ok (.text (statementExcerpt sql))
  | v => (v.length.map fun _ => v).mapError .fault

/-- The message of an error about an execution: the text of what was raised, or the name of its kind
when the text is empty. -/
def messageOf (raised : Value) : Except Failure Value :=
  match raised.writtenDisplay with
  | .ok text => .ok (.text (if text = "" then raised.kindName else text))
  | .error r => .error r.failure

/-- The details of an error: the given entries with its own fields written over them. -/
def detailsOver (given : Value) (fields : Fields) : Except Failure Value :=
  ((givenDetails given).entries.map fun entries => detailsWith entries fields).mapError .fault

/-- The error that a constructor builds from its arguments by name.  `code` is the code if one was
given as such, and `loose` what was given in its place. -/
def build (name : String) (args : Fields) (code : Option Code) (loose : Option Value) :
    Except Failure CodedError := do
  let arg (parameter : String) : Value := (args.get? parameter).getD .null
  let cause := Cause.ofValue? (arg "cause")
  match name with
  | "validation_error" =>
    let details ← detailsOver (arg "details")
      [("field", arg "field"), ("value", shown (arg "value"))]
    return withParts true (arg "message") (← codeOr .validation code loose) details cause
  | "configuration_error" =>
    let details ← detailsOver (arg "details") [("config_key", arg "config_key")]
    return withParts false (arg "message") .config details cause
  | "connection_error" =>
    let details ← detailsOver (arg "details") [("service", arg "service")]
    return withParts false (arg "message") .connection details cause
  | "query_execution_error" =>
    let query ← excerpt (arg "query")
    let raised := arg "original_error"
    let message ← messageOf raised
    let details ← detailsOver (arg "details") [("query", query)]
    return withParts false message .queryExecution details (Cause.ofValue? raised)
  | _ => return consumed (arg "table")

/-- The error that a constructor builds from arguments by position and by name; nothing for the name
of no constructor.  `code` is the code if one was given by name. -/
def named? (name : String) (given : List Value) (keywords : Fields) (code : Option Code) :
    Option (Except Failure CodedError) :=
  (signature? name).map fun s => do
    let args ← (s.bind given keywords).mapError .fault
    build name args code ((s.parameters.zip given).lookup "error_code")

end QueryChain.CodedError
