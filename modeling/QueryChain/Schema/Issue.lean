import QueryChain.Number.Numeral

/-!
# Issues with a record

A record built from loose values is checked field by field.  Every fault found is an issue: where
it lies and what is wrong.  All issues of a record are reported together, in field order.

## Main definitions

* `PathPart`, `Issue` — a step towards a faulty part, and a fault with the path to it.
* `IssueKind` — what can be wrong, with `IssueKind.tag` and `IssueKind.message`.
* `Checked` — a value, or the issues that stand in its way.
* `Checked.and` — both of two checked values, with the issues of both.
-/

set_option relaxedAutoImplicit false
set_option autoImplicit false

namespace QueryChain

/-- One step of a path: into a field or a text key, or to a numbered element or key. -/
inductive PathPart where
  | name (s : String)
  | index (n : Int)
deriving DecidableEq, Repr

/-- What can be wrong with a part of a record. -/
inductive IssueKind where
  | missing
  | stringType
  | stringUnicode
  | stringTooShort (least : Nat)
  | boolType
  | boolParsing
  | intType
  | intParsing
  | intParsingSize
  | intFromFloat
  | finiteNumber
  | floatType
  | floatParsing
  | greaterThan (bound : Int)
  | greaterThanEqual (bound : Int)
  | lessThanEqual (bound : Int)
  | listType
  | listTooShort (least actual : Nat)
  | mapType
  | recordType (name : String)
  | choice (options : List String)
  | constant (shown : String)
  | frozenField
  | noSuchField (name : String)
  | refused (reason : String)
deriving DecidableEq, Repr

namespace IssueKind

/-- The stable tag of an issue. -/
def tag : IssueKind → String
  | missing => "missing"
  | stringType => "string_type"
  | stringUnicode => "string_unicode"
  | stringTooShort _ => "string_too_short"
  | boolType => "bool_type"
  | boolParsing => "bool_parsing"
  | intType => "int_type"
  | intParsing => "int_parsing"
  | intParsingSize => "int_parsing_size"
  | intFromFloat => "int_from_float"
  | finiteNumber => "finite_number"
  | floatType => "float_type"
  | floatParsing => "float_parsing"
  | greaterThan _ => "greater_than"
  | greaterThanEqual _ => "greater_than_equal"
  | lessThanEqual _ => "less_than_equal"
  | listType => "list_type"
  | listTooShort .. => "too_short"
  | mapType => "dict_type"
  | recordType _ => "model_type"
  | choice _ => "enum"
  | constant _ => "literal_error"
  | frozenField => "frozen_field"
  | noSuchField _ => "no_such_attribute"
  | refused _ => "value_error"

/-- A list of options in words: commas, and `or` before the last. -/
def optionsText : List String → String
  | [] => ""
  | [a] => a
  | [a, b] => a ++ " or " ++ b
  | a :: rest => a ++ ", " ++ optionsText rest

/-- `1 item`, `2 items`. -/
def counted (n : Nat) (noun : String) : String :=
  natText n ++ " " ++ noun ++ (if n = 1 then "" else "s")

/-- What an issue says. -/
def message : IssueKind → String
  | missing => "Field required"
  | stringType => "Input should be a valid string"
  | stringUnicode =>
    "Input should be a valid string, unable to parse raw data as a unicode string"
  | stringTooShort least => "String should have at least " ++ counted least "character"
  | boolType => "Input should be a valid boolean"
  | boolParsing => "Input should be a valid boolean, unable to interpret input"
  | intType => "Input should be a valid integer"
  | intParsing => "Input should be a valid integer, unable to parse string as an integer"
  | intParsingSize => "Unable to parse input string as an integer, exceeded maximum size"
  | intFromFloat => "Input should be a valid integer, got a number with a fractional part"
  | finiteNumber => "Input should be a finite number"
  | floatType => "Input should be a valid number"
  | floatParsing => "Input should be a valid number, unable to parse string as a number"
  | greaterThan bound => "Input should be greater than " ++ intText bound
  | greaterThanEqual bound => "Input should be greater than or equal to " ++ intText bound
  | lessThanEqual bound => "Input should be less than or equal to " ++ intText bound
  | listType => "Input should be a valid list"
  | listTooShort least actual =>
    "List should have at least " ++ counted least "item" ++ " after validation, not "
      ++ natText actual
  | mapType => "Input should be a valid dictionary"
  | recordType name => "Input should be a valid dictionary or instance of " ++ name
  | choice options =>
    "Input should be " ++ optionsText (options.map fun o => "\x27" ++ o ++ "\x27")
  | constant shown => "Input should be " ++ shown
  | frozenField => "Field is frozen"
  | noSuchField name => "Object has no attribute \x27" ++ name ++ "\x27"
  | refused reason => "Value error, " ++ reason

end IssueKind

/-- A fault of a record and the path to it. -/
structure Issue where
  path : List PathPart
  kind : IssueKind
deriving DecidableEq, Repr

/-- A value that passed its checks, or the issues found. -/
abbrev Checked (α : Type) := Except (List Issue) α

namespace Checked

variable {α β γ : Type}

/-- A single issue at the value itself. -/
def fail (kind : IssueKind) : Checked α := .error [⟨[], kind⟩]

/-- The same check, one step further down a path. -/
def under (part : PathPart) : Checked α → Checked α
  | .ok a => .ok a
  | .error issues => .error (issues.map fun issue => { issue with path := part :: issue.path })

/-- Both values, or the issues of both in order. -/
def and (x : Checked α) (y : Checked β) : Checked (α × β) :=
  match x, y with
  | .ok a, .ok b => .ok (a, b)
  | .ok _, .error ys => .error ys
  | .error xs, .ok _ => .error xs
  | .error xs, .error ys => .error (xs ++ ys)

/-- All values of a list, or all issues in order. -/
def all : List (Checked α) → Checked (List α)
  | [] => .ok []
  | x :: xs =>
    match x.and (all xs) with
    | .ok (a, as) => .ok (a :: as)
    | .error issues => .error issues

/-- The value of a passed check. -/
def toOption : Checked α → Option α
  | .ok a => some a
  | .error _ => none

/-- Two checks pass together exactly when each passes. -/
theorem and_eq_ok {x : Checked α} {y : Checked β} {a : α} {b : β} :
    x.and y = .ok (a, b) ↔ x = .ok a ∧ y = .ok b := by
  cases x <;> cases y <;> simp [Checked.and]

end Checked

end QueryChain
