import QueryChain.Failure.Kind
import QueryChain.Value.Literal

/-!
# Faults of templates

A template that cannot be filled with its arguments ends with a fault of its own.

## Main definitions

* `TemplateFault` — the ways in which a template cannot be filled, with `TemplateFault.kind` and
  `TemplateFault.message`.
-/

set_option relaxedAutoImplicit false
set_option autoImplicit false

namespace QueryChain

/-- A template that cannot be filled with its arguments. -/
inductive TemplateFault where
  | argumentsLeft
  | argumentsMissing
  | mappingExpected
  | incomplete
  | keyIncomplete
  | unknownLetter (letter : Char) (position : Nat)
  | widthTooBig
  | precisionTooBig
  | starExpectsInteger
  | starWidthTooBig
  | starPrecisionTooBig
  | numberExpected (letter : Char) (kind : String)
  | integerExpected (letter : Char) (kind : String)
  | realExpected (kind : String)
  | realOfSignaling
  | characterExpected
  | characterRange
  | integerTooLarge
  | wholeOfNan (noun : String)
  | wholeOfInfinity (noun : String)
  | listKey
  | bytesKey
deriving DecidableEq, Repr

namespace TemplateFault

/-- The kind of error that a template fault is. -/
def kind : TemplateFault → ErrorKind
  | incomplete | keyIncomplete | unknownLetter .. | widthTooBig | precisionTooBig
  | wholeOfNan _ | realOfSignaling => .value
  | starWidthTooBig | starPrecisionTooBig | characterRange | integerTooLarge
  | wholeOfInfinity _ => .overflow
  | _ => .type

/-- What a template fault says.  A letter outside printable ASCII is shown by its number only. -/
def message : TemplateFault → String
  | argumentsLeft => "not all arguments converted during string formatting"
  | argumentsMissing => "not enough arguments for format string"
  | mappingExpected => "format requires a mapping"
  | incomplete => "incomplete format"
  | keyIncomplete => "incomplete format key"
  | unknownLetter letter position =>
    "unsupported format character \x27"
      ++ (if 31 ≤ letter.toNat ∧ letter.toNat ≤ 126 then String.singleton letter else "?")
      ++ "\x27 (0x" ++ Text.hexPadded 1 letter.toNat ++ ") at index " ++ natText position
  | widthTooBig => "width too big"
  | precisionTooBig => "precision too big"
  | starExpectsInteger => "* wants int"
  | starWidthTooBig => "Python int too large to convert to C ssize_t"
  | starPrecisionTooBig => "Python int too large to convert to C int"
  | numberExpected letter kind =>
    "%" ++ String.singleton letter ++ " format: a real number is required, not " ++ kind
  | integerExpected letter kind =>
    "%" ++ String.singleton letter ++ " format: an integer is required, not " ++ kind
  | realExpected kind => "must be real number, not " ++ kind
  | realOfSignaling => "cannot convert signaling NaN to float"
  | characterExpected => "%c requires int or char"
  | characterRange => "%c arg not in range(0x110000)"
  | integerTooLarge => "int too large to convert to float"
  | wholeOfNan noun => "cannot convert " ++ noun ++ " to integer"
  | wholeOfInfinity noun => "cannot convert " ++ noun ++ " to integer"
  | listKey => "list indices must be integers or slices, not str"
  | bytesKey => "byte indices must be integers or slices, not str"

end TemplateFault

end QueryChain
