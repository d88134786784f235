import QueryChain.Statement.Name
import QueryChain.Value.Signature

/-!
# Checks by name

The checks of names, column lists and operands by the names of their methods, with arguments by
position.

## Main definitions

* `NameRules.signature?` — the parameters of a method.
* `NameRules.checkNamed?` — what a method answers.
-/

set_option relaxedAutoImplicit false
set_option autoImplicit false

namespace QueryChain.NameRules

/-- The parameters of a method. -/
def signature? (method : String) : Option Signature :=
  let one (parameter : String) (optional : Fields) : Option Signature :=
    some ⟨"BaseQueryCompiler." ++ method, true, [parameter], optional⟩
  match method with
  | "validate_column_spec" => one "columns" []
  | "validate_column" => one "column" []
  | "validate_identifier" => one "identifier" [("identifier_type", .text "column")]
  | "validate_conflict_target" => one "conflict" []
  | "validate_limit" => one "count" []
  | "is_keyword" => one "value" []
  | "placeholder" => some ⟨"PostgresQueryCompiler." ++ method, true, ["index"], []⟩
  | _ => none

/-- What a method answers to the first argument and to the second one, if there is one. -/
def answerTo (rules : NameRules) (method : String) (first second : Value) :
    Except Failure Value :=
  match method with
  | "validate_column_spec" => (checkColumnList first).map .text
  | "validate_column" => (rules.checkColumn first).map .text
  | "validate_identifier" => (rules.checkPlain second first).map .text
  | "validate_conflict_target" =>
    (rules.checkConflictTarget first).map fun columns => .list (columns.map .text)
  | "validate_limit" => (checkLimit first).map fun n => .int n
  | "is_keyword" => (checkKeyword first).map .text
  | _ => .ok (.text ("$" ++ first.display))

/-- What a method answers to its arguments; nothing for the name of no method. -/
def checkNamed? (rules : NameRules) (method : String) (args : List Value) :
    Option (Except Failure Value) :=
  (signature? method).map fun s =>
    match s.arguments args with
    | .error f => .error (.fault f)
    | .ok all => rules.answerTo method (all.headD .null) (all.getD 1 .null)

end QueryChain.NameRules
