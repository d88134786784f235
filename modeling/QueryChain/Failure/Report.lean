import QueryChain.Failure.Basic
import QueryChain.Log.Event

/-!
# Reported errors

The constructors of reported errors, with their details, and the log event that every reported
error writes when it is built.

## Main definitions

* `CodedError.plain`, `CodedError.validation` — an error from its parts.
* `CodedError.rejecting`, `configuration`, `connecting`, `executing`, `consumed` — the errors of
  each stage of a query.
* `Failure.rejected` — a malformed argument, the failure that most checks end with.
* `CodedError.event`, `Failure.events` — what is logged when a failure is built.
* `Failure.toProblem` — a failure that is passed around as a value.
-/

set_option relaxedAutoImplicit false
set_option autoImplicit false

namespace QueryChain

namespace CodedError

/-- Details with an error's own fields written over them; null fields are left out. -/
def detailsWith (extra : Value.Entries) (fields : Fields) : Value :=
  .map ((fields.filter fun field => !field.2.isNull).foldl
    (fun acc field => Value.Entries.set acc (.text field.1) field.2) extra)

/-- A value as a detail: its display text, unless it is null. -/
def shown (value : Value) : Value := if value.isNull then .null else .text value.display

/-- A malformed argument, with the name and the value of the argument. -/
def rejecting (message : String) (field value : Value) (code : Code) (details : Value.Entries)
    (cause : Option Failure) : CodedError :=
  ⟨true, .text message, code, detailsWith details [("field", field), ("value", shown value)],
    cause.map Failure.toCause⟩

/-- Missing or unusable configuration. -/
def configuration (message : String) (key : Value) (details : Value.Entries)
    (cause : Option Failure) : CodedError :=
  ⟨false, .text message, .config, detailsWith details [("config_key", key)],
    cause.map Failure.toCause⟩

/-- A driver that could not be loaded or reached. -/
def connecting (message : String) (service : Value) (details : Value.Entries)
    (cause : Option Failure) : CodedError :=
  ⟨false, .text message, .connection, detailsWith details [("service", service)],
    cause.map Failure.toCause⟩

/-- A statement in an error: its first 500 characters. -/
def statementExcerpt (sql : String) : String :=
  if sql.length ≤ 500 then sql else String.ofList (sql.toList.take 500) ++ "..."

/-- Whatever the driver raised while it ran a statement, with the text that it gave.  The message is
the driver's own text, and the bound values are not kept. -/
def executing (sql : String) (raised : Failure) (text : String) (details : Value.Entries) :
    CodedError :=
  ⟨false, .text (raised.textOrName text), .queryExecution,
    detailsWith details [("query", .text (statementExcerpt sql))], some raised.toCause⟩

/-- A second resolution of a chain. -/
def consumed (table : Value) : CodedError :=
  ⟨false,
    .text ("Query builder for table \x27" ++ table.display
      ++ "\x27 has already been resolved. Start a new chain with from_()."),
    .builderConsumed, .map [(.text "table", table)], none⟩

/-- The event that a reported error writes when it is built; `handling` says whether it is built
while the failure behind it is being handled.  Without such a failure the event asks for none. -/
def event (handling : Bool) (e : CodedError) : LogEvent where
  source := .failures
  level := .error
  message := e.message.display
  extra := [("error_code", .text e.code.text), ("error_details", e.details)]
  error :=
    match e.cause with
    | none => .unasked
    | some c => if handling then .handled c.kind else .absent

end CodedError

namespace Failure

/-- A malformed argument. -/
def rejected (message : String) (field value : Value) (code : Code) : Failure :=
  .coded (CodedError.rejecting message field value code [] none)

/-- What is logged when a failure is built while the failure behind it is being handled. -/
def events : Failure → List LogEvent
  | coded e => [e.event true]
  | _ => []

/-- The full name of a failure's kind. -/
def qualifiedName : Failure → String
  | coded e => LogSource.failures.logger ++ "." ++ e.className
  | raised .cancelled _ => "asyncio.exceptions.CancelledError"
  | foreign _ p => p.qualified
  | f => f.kindName

/-- What is kept of a failure that is passed around as a value. -/
def toProblem (f : Failure) : Problem := ⟨f.kindName, f.qualifiedName, f.text, f.literal⟩

/-- A malformed argument is a validation failure whenever its code is one. -/
theorem isValidation_rejected (message : String) (field value : Value) {code : Code}
    (h : code.isValidation = true) : (rejected message field value code).IsValidation :=
  ⟨rfl, h⟩

end Failure

end QueryChain
