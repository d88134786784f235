import QueryChain.Failure.Code
import QueryChain.Failure.Fault
import QueryChain.Schema.Issue

/-!
# Failures

What a call ends with when it does not return: a reported error with a code and details, the issues
of a record, an error that a driver raised, a fault found while a value was used in a way that its
kind does not support, or an error of a class that only the caller knows.

The text of a failure is put together when it is asked for, and may be refused.  Whoever asks for a
text that is refused ends with another failure.

## Main definitions

* `CodedError` — a reported error; `Cause` is what remains of the failure behind it.
* `Failure` — all of these, with `Failure.kindName`, `Failure.text` and `Failure.literal`.
* `Failure.ofDriver` — the failure that a driver raises with given arguments.
* `Refusal.failure`, `Failure.said` — what asking for a text ends with.
* `Failure.leaving` — a failure as it leaves a program that comes to its end by a signal.
* `Failure.refusal?`, `Failure.passing` — a failure behind somebody who asks for its text.
-/

set_option relaxedAutoImplicit false
set_option autoImplicit false

namespace QueryChain

/-- What a reported error keeps of the failure behind it. -/
structure Cause where
  kind : String
  text : Except Refusal String
deriving Repr

/-- What a reported error keeps of a value that is given for the failure behind it. -/
def Cause.ofValue? : Value → Option Cause
  | .null => none
  | v => some ⟨v.kindName, v.writtenDisplay⟩

/-- A reported error: a message, a code, details for programs, and the failure behind it if any.
The message is a text and the details are a mapping, unless something else was given for them.
Errors about malformed input form a class of their own. -/
structure CodedError where
  validation : Bool
  message : Value
  code : Code
  details : Value
  cause : Option Cause
deriving Repr

/-- What a call ends with when it does not return. -/
inductive Failure where
  | coded (e : CodedError)
  | invalid (record : String) (issues : List Issue)
  | raised (kind : ErrorKind) (args : List Value)
  | fault (f : Fault)
  | foreign (family : ErrorFamily) (p : Problem)
deriving Repr

namespace CodedError

/-- The class name of a reported error. -/
def className (e : CodedError) : String :=
  if e.validation then "ValidationError" else "FleetQLError"

/-- Code, message and cause in one line. -/
def text (e : CodedError) : Except Refusal String := do
  let message ← e.message.writtenDisplay
  let behind ←
    match e.cause with
    | some c => c.text.map fun text => " (caused by: " ++ c.kind ++ ": " ++ text ++ ")"
    | none => .ok ""
  return "[" ++ e.code.text ++ "] " ++ message ++ behind

/-- A reported error as a mapping. -/
def toValue (e : CodedError) : Value :=
  .map [(.text "type", .text e.className), (.text "message", e.message),
    (.text "error_code", .text e.code.text), (.text "error_name", .text e.code.name),
    (.text "details", e.details)]

end CodedError

namespace Failure

/-- The number of a system error, which is given in front of a text. -/
def systemNumber? : List Value → Option Int
  | .int n :: rest => if 1 ≤ rest.length ∧ rest.length ≤ 4 then some n else none
  | .bool b :: rest => if 1 ≤ rest.length ∧ rest.length ≤ 4 then some (if b then 1 else 0) else none
  | _ => none

/-- Refuses a number that counts no characters: one that is not whole, or has more than 64 bits. -/
def requireCount : Value → Except Fault Unit
  | .int n =>
    if -9223372036854775808 ≤ n ∧ n < 9223372036854775808 then .ok ()
    else .error .countTooLarge
  | .float x => .error (.numberRequired (Value.float x).qualifiedKindName)
  | .decimal d => .error (.numberRequired (Value.decimal d).qualifiedKindName)
  | .uuid n => .error (.numberRequired (Value.uuid n).qualifiedKindName)
  | _ => .ok ()

/-- The failure that a driver raises.  A system error of no particular kind takes the kind of its
number; a number as the third argument of an error about blocking counts characters. -/
def ofDriver (kind : ErrorKind) (args : List Value) : Except Fault Failure := do
  let kind :=
    if kind = .os then ((systemNumber? args).bind ErrorKind.ofSystemNumber?).getD .os else kind
  if kind = .blocking then
    if let some count := args[2]? then requireCount count
  return .raised kind args

/-- The file that a system error names with its third argument, and the other file that it names
with its fifth one.  In an error about blocking a third argument that is a number names no file. -/
def systemFile? (kind : ErrorKind) (args : List Value) : Option (Value × Option Value) :=
  match args with
  | _ :: _ :: file :: rest =>
    if 2 < rest.length ∨ file.isNull ∨ (kind = .blocking ∧ file.number?.isSome) then none
    else some (file, rest[1]?.filter fun other => !other.isNull)
  | _ => none

/-- The text of arguments: nothing without any, a single one as it displays, and otherwise all of
them. -/
def argumentsText : List Value → Except Refusal String
  | [] => .ok ""
  | [a] => a.writtenDisplay
  | args => (Value.tuple args).writtenLiteral

/-- The text of a system error: its number, its text, and the files that it names. -/
def systemText (kind : ErrorKind) (args : List Value) : Except Refusal String :=
  match args with
  | number :: text :: rest =>
    if 3 < rest.length then argumentsText args
    else do
      let number ← number.writtenDisplay
      let text ← text.writtenDisplay
      let files ←
        match systemFile? kind args with
        | some (file, some other) => do
          let file ← file.writtenLiteral
          let other ← other.writtenLiteral
          pure (": " ++ file ++ " -> " ++ other)
        | some (file, none) => do
          let file ← file.writtenLiteral
          pure (": " ++ file)
        | none => pure ""
      return "[Errno " ++ number ++ "] " ++ text ++ files
  | _ => argumentsText args

/-- The text of a raised error.  A lone missing key is shown by its literal. -/
def raisedText (kind : ErrorKind) (args : List Value) : Except Refusal String :=
  match kind, args with
  | .key, [a] => a.writtenLiteral
  | _, _ => if kind.isSystem then systemText kind args else argumentsText args

/-- The arguments that a raised error shows in its literal; files are left out. -/
def shownArguments (kind : ErrorKind) (args : List Value) : List Value :=
  if kind.isSystem ∧ (systemFile? kind args).isSome then args.take 2 else args

/-- The name under which a failure is logged and reported. -/
def kindName : Failure → String
  | coded e => e.className
  | invalid .. => "ValidationError"
  | raised kind _ => kind.name
  | fault f => f.kind.name
  | foreign _ p => p.kind

/-- The text of a failure, if it can be had. -/
def text : Failure → Except Refusal String
  | coded e => e.text
  | invalid record issues =>
    .ok (natText issues.length ++ " validation error" ++ (if issues.length = 1 then "" else "s")
      ++ " for " ++ record ++ String.join (issues.map fun issue => "\n  " ++ issue.kind.message))
  | raised kind args => raisedText kind args
  | fault f => .ok f.message
  | foreign _ p => p.text

/-- A name with arguments. -/
def literalOf (name : String) : List Value → Except Refusal String
  | [a] => a.writtenLiteral.map fun shown => name ++ "(" ++ shown ++ ")"
  | args => (Value.tuple args).writtenLiteral.map fun shown => name ++ shown

/-- The literal of a failure, if it can be had: its name with its arguments. -/
def literal (f : Failure) : Except Refusal String :=
  match f with
  | coded e => literalOf f.kindName [e.message]
  | raised kind args => literalOf f.kindName (shownArguments kind args)
  | foreign _ p => p.literal
  | f => do literalOf f.kindName [.text (← f.text)]

/-- A text of a failure, or the name of the failure when the text is empty. -/
def textOrName (f : Failure) (text : String) : String := if text = "" then f.kindName else text

/-- Whether a failure is an error, and not a cancellation or another way to end a program. -/
def isError : Failure → Bool
  | raised .cancelled _ | foreign .exit _ => false
  | _ => true

/-- Whether a failure is a signal that ends an iteration. -/
def isStop : Failure → Bool
  | foreign .stop _ => true
  | _ => false

/-- Whether a failure is about an unsuitable value. -/
def isValueError : Failure → Bool
  | coded e => e.validation
  | invalid .. => true
  | raised kind _ => kind.isValueError
  | fault f => f.kind.isValueError
  | foreign family _ => family == .value

/-- What a reported error keeps of a failure. -/
def toCause (f : Failure) : Cause := ⟨f.kindName, f.text⟩

/-- A failure as it leaves a program that comes to its end by a signal itself: such a signal becomes
an error. -/
def leaving (program : String) (f : Failure) : Failure :=
  if f.isStop then raised .runtime [.text (program ++ " raised StopIteration")] else f

/-- Whether a failure is a reported error about malformed input, with a validation code. -/
def IsValidation : Failure → Prop
  | coded e => e.validation = true ∧ e.code.isValidation = true
  | _ => False

end Failure

/-- The failure with which asking for a refused text ends. -/
def Refusal.failure : Refusal → Failure
  | digits => .fault .tooManyDigitsShown
  | raised family kind qualified text literal => .foreign family ⟨kind, qualified, text, literal⟩

namespace Failure

/-- The text of a failure, for somebody who ends with the refusal if it cannot be had. -/
def said (f : Failure) : Except Failure String :=
  match f.text with
  | .ok text => .ok text
  | .error r => .error r.failure

/-- The refusal of an error whose text cannot be had. -/
def refusal? (f : Failure) : Option Failure :=
  match f.isError, f.text with
  | true, .error r => some r.failure
  | _, _ => none

/-- A failure behind a program that comes to its end by a signal and that asks for the text of every
error: an error whose text is refused gives way to the refusal. -/
def passing (f : Failure) : Failure :=
  match f.refusal? with
  | some refusal => refusal.leaving "generator"
  | none => f

end Failure

end QueryChain
