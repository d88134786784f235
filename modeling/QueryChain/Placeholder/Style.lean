import QueryChain.Failure.Report
import QueryChain.Placeholder.Scan
import QueryChain.Value.Access

/-!
# Placeholder styles of drivers

Statements are written with the placeholders `$1`, `$2`, ….  A driver that expects another style
gets the statement rewritten, and the parameters in the shape that its style binds: by position, by
occurrence in the text, or by name.

## Main definitions

* `ParamStyle` — the styles.
* `BoundParams` — parameters as a driver takes them.
* `ParamStyle.mark`, `ParamStyle.restyle` — one placeholder, and a statement, in a style.
* `ParamStyle.bind` — the parameters in the shape of a style.
* `translate` — a statement and its parameters for a driver.
-/

set_option relaxedAutoImplicit false
set_option autoImplicit false

namespace QueryChain

/-- How a driver expects placeholders. -/
inductive ParamStyle where
  | numericDollar
  | qmark
  | numeric
  | named
  | format
  | pyformat
deriving DecidableEq, Repr

/-- Parameters as a driver takes them: by position or by name. -/
inductive BoundParams where
  | positional (values : List Value)
  | named (fields : Fields)
deriving Repr

namespace BoundParams

/-- Bound parameters as a value. -/
def toValue : BoundParams → Value
  | positional values => .tuple values
  | named fields => fields.toValue

end BoundParams

namespace ParamStyle

/-- The name of a style. -/
def name : ParamStyle → String
  | numericDollar => "numeric_dollar"
  | qmark => "qmark"
  | numeric => "numeric"
  | named => "named"
  | format => "format"
  | pyformat => "pyformat"

/-- All styles. -/
def all : List ParamStyle := [numericDollar, qmark, numeric, named, format, pyformat]

/-- The style of a name. -/
def ofName? (s : String) : Option ParamStyle := all.find? fun style => style.name == s

/-- The mark of a style for a placeholder with given digits. -/
def mark (style : ParamStyle) (digits : List Char) : List Char :=
  match style with
  | numericDollar => '$' :: digits
  | qmark => ['?']
  | numeric => ':' :: digits
  | named => ':' :: 'p' :: digits
  | format => ['%', 's']
  | pyformat => "%(p".toList ++ digits ++ [')', 's']

/-- Whether a driver of a style interpolates percent signs. -/
def interpolates : ParamStyle → Bool
  | format | pyformat => true
  | _ => false

/-- One token in a style; `doubled` says whether percent signs are doubled. -/
def writeToken (style : ParamStyle) (doubled : Bool) : Token → List Char
  | .plain c => if doubled && c == '%' then ['%', '%'] else [c]
  | .placeholder digits => style.mark digits

/-- A statement in a style.  Percent signs are doubled if the driver interpolates, which it does
only when there are parameters. -/
def restyle (style : ParamStyle) (hasParams : Bool) (cs : List Char) : List Char :=
  (Token.scan cs).flatMap (style.writeToken (style.interpolates && hasParams))

/-- The most digits of a placeholder. -/
def maxDigits : Nat := 4300

/-- The parameter of a placeholder.  The parameter of `$0` is the last one. -/
def lookup (params : Value) (digits : List Char) : Except Failure Value :=
  if maxDigits < digits.length then .error (.fault (.tooManyDigits digits.length))
  else
    let number : Int := ((Text.decimalValue? digits).getD 0 : Nat)
    (params.part (.int (number - 1))).mapError .fault

/-- The parameters of placeholders, one for each occurrence. -/
def lookupAll (params : Value) : List (List Char) → Except Failure (List Value)
  | [] => .ok []
  | digits :: rest => do
    let v ← lookup params digits
    return v :: (← lookupAll params rest)

/-- Parameters under the names `p1`, `p2`, …, from an index on. -/
def namedFrom (index : Nat) : List Value → Fields
  | [] => []
  | v :: vs => ("p" ++ natText index, v) :: namedFrom (index + 1) vs

/-- The parameters of a statement in the shape of a style.  A style that binds by occurrence looks
up what the statement names, and every other style takes all parameters. -/
def bind (style : ParamStyle) (cs : List Char) (params : Value) : Except Failure BoundParams :=
  match style with
  | numericDollar | numeric => (params.elements.map .positional).mapError .fault
  | qmark | format => (lookupAll params (Token.placeholders cs)).map .positional
  | named | pyformat => (params.elements.map fun vs => .named (namedFrom 1 vs)).mapError .fault

/-- Every style has a name of its own. -/
@[simp] theorem ofName?_name (style : ParamStyle) : ofName? style.name = some style := by
  cases style <;> rfl

end ParamStyle

/-- A statement and its parameters for a driver that names its style.  A style that is not known is
a configuration error. -/
def translate (sql : String) (params : Value) (styleName : String) :
    Except Failure (String × BoundParams) :=
  match ParamStyle.ofName? styleName with
  | none =>
    .error (.coded (CodedError.configuration ("Unsupported driver paramstyle: " ++ styleName)
      (.text "database.url") [] none))
  | some style => do
    let bound ← style.bind sql.toList params
    return (String.ofList (style.restyle params.truthy sql.toList), bound)

end QueryChain
