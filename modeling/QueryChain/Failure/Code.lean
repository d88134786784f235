/-!
# Error codes

Reported errors carry a code that names their category, so that callers can tell them apart without
reading the message.

## Main definitions

* `Code` — the categories; `Code.text` is the stable code, `Code.name` the category name.
-/

set_option relaxedAutoImplicit false
set_option autoImplicit false

namespace QueryChain

/-- The category of a reported error. -/
inductive Code where
  | config
  | validation
  | invalidArgument
  | invalidIdentifier
  | invalidColumnSpec
  | invalidConflictTarget
  | invalidPayload
  | connection
  | execution
  | queryExecution
  | operation
  | builderConsumed
deriving DecidableEq, Repr

namespace Code

/-- The stable code of a category. -/
def text : Code → String
  | config => "CONFIG_001"
  | validation => "VALIDATION_001"
  | invalidArgument => "VALIDATION_002"
  | invalidIdentifier => "VALIDATION_003"
  | invalidColumnSpec => "VALIDATION_004"
  | invalidConflictTarget => "VALIDATION_005"
  | invalidPayload => "VALIDATION_006"
  | connection => "CONNECTION_001"
  | execution => "EXECUTION_001"
  | queryExecution => "EXECUTION_002"
  | operation => "OPERATION_001"
  | builderConsumed => "OPERATION_002"

/-- The name of a category. -/
def name : Code → String
  | config => "CONFIG_ERROR"
  | validation => "VALIDATION_ERROR"
  | invalidArgument => "INVALID_ARGUMENT"
  | invalidIdentifier => "INVALID_IDENTIFIER"
  | invalidColumnSpec => "INVALID_COLUMN_SPEC"
  | invalidConflictTarget => "INVALID_CONFLICT_TARGET"
  | invalidPayload => "INVALID_PAYLOAD"
  | connection => "CONNECTION_ERROR"
  | execution => "EXECUTION_ERROR"
  | queryExecution => "QUERY_EXECUTION_ERROR"
  | operation => "OPERATION_ERROR"
  | builderConsumed => "BUILDER_CONSUMED"

/-- All categories. -/
def all : List Code :=
  [config, validation, invalidArgument, invalidIdentifier, invalidColumnSpec,
    invalidConflictTarget, invalidPayload, connection, execution, queryExecution, operation,
    builderConsumed]

/-- The category of a name. -/
def ofName? (s : String) : Option Code := all.find? fun c => c.name == s

/-- Whether a code belongs to the validation group. -/
def isValidation : Code → Bool
  | validation | invalidArgument | invalidIdentifier | invalidColumnSpec | invalidConflictTarget
  | invalidPayload => true
  | _ => false

/-- Every category has a name of its own. -/
theorem ofName?_name (c : Code) : ofName? c.name = some c := by cases c <;> rfl

/-- Every category has a code of its own. -/
theorem text_injective {c d : Code} (h : c.text = d.text) : c = d := by
  revert h
  cases c <;> cases d <;> decide

end Code

end QueryChain
