import QueryChain.Number.Shortest
import QueryChain.Text.Half
import QueryChain.Text.Hex
import QueryChain.Text.Printable
import QueryChain.Value.Basic

/-!
# The text of a value

Errors show the value they reject.  A value has a literal, with quotes and brackets, and a display
text, which differs from the literal only for the kinds that are shown bare: texts, numbers with a
kind of their own, identifiers and times.

Both are total: they ignore how deep a value is nested and how many digits its integers have, and
an error that refuses its text shows as nothing.  Where the text of an error is asked for, the
limit on digits counts, and so does such a refusal; there the written texts take their place.

## Main definitions

* `Text.quoted` — a text in quotes, with escapes.
* `Value.literal`, `Value.display` — the two texts of a value.
* `Value.refusal?` — why the literal of a value cannot be had.
* `Value.writtenLiteral`, `Value.writtenDisplay` — the two texts, if they can be had.
-/

set_option relaxedAutoImplicit false
set_option autoImplicit false

namespace QueryChain

namespace Text

/-- The quote to use around characters: the double one when it alone saves escaping. -/
def quoteFor (single double : Bool) : Char := if single && !double then '\x22' else '\x27'

/-- A character by its number, with as many digits as it needs. -/
def escapeCode (c : Char) : String :=
  let n := code c
  if n < 0x100 then "\\x" ++ hexPadded 2 n
  else if n < 0x10000 then "\\u" ++ hexPadded 4 n
  else "\\U" ++ hexPadded 8 n

/-- One character inside quotes. -/
def escapeChar (quote c : Char) : String :=
  if c = quote ∨ c = '\\' then String.ofList ['\\', c]
  else if c = '\t' then "\\t"
  else if c = '\n' then "\\n"
  else if c = '\r' then "\\r"
  else if isPrintable c then String.singleton c
  else escapeCode c

/-- A text in quotes.  Characters without a shape of their own are escaped. -/
def quoted (s : String) : String :=
  let cs := s.toList
  let quote := quoteFor (cs.contains '\x27') (cs.contains '\x22')
  String.singleton quote ++ String.join (cs.map (escapeChar quote)) ++ String.singleton quote

/-- One byte inside quotes: printable ASCII as it is, everything else escaped. -/
def escapeByte (quote : Char) (b : UInt8) : String :=
  let c := Char.ofNat b.toNat
  if b.toNat < 127 then
    if c = quote ∨ c = '\\' then String.ofList ['\\', c]
    else if c = '\t' then "\\t"
    else if c = '\n' then "\\n"
    else if c = '\r' then "\\r"
    else if 32 ≤ b.toNat then String.singleton c
    else "\\x" ++ hexPadded 2 b.toNat
  else "\\x" ++ hexPadded 2 b.toNat

/-- A byte string in quotes. -/
def quotedBytes (bs : List UInt8) : String :=
  let quote := quoteFor (bs.contains 0x27) (bs.contains 0x22)
  "b" ++ String.singleton quote ++ String.join (bs.map (escapeByte quote)) ++ String.singleton quote

/-- An identifier of 128 bits in its five groups. -/
def uuidText (n : Nat) : String :=
  let digits := (hexPadded 32 n).toList
  let group (start width : Nat) := String.ofList ((digits.drop start).take width)
  group 0 8 ++ "-" ++ group 8 4 ++ "-" ++ group 12 4 ++ "-" ++ group 16 4 ++ "-" ++ group 20 12

end Text

namespace Value

/-- A length of time in microseconds as a literal, with the parts that are not zero: days, which
alone may be negative, seconds and microseconds. -/
def durationLiteral (micros : Int) : String :=
  let parts := [("days", micros / 86400000000), ("seconds", micros % 86400000000 / 1000000),
    ("microseconds", micros % 1000000)]
  let shown := (parts.filter fun part => part.2 != 0).map fun part =>
    part.1 ++ "=" ++ intText part.2
  "datetime.timedelta(" ++ (if shown.isEmpty then "0" else String.intercalate ", " shown) ++ ")"

/-- A time offset as a literal. -/
def offsetLiteral (micros : Int) : String :=
  if micros = 0 then "datetime.timezone.utc"
  else "datetime.timezone(" ++ durationLiteral micros ++ ")"

/-- A moment as a literal; trailing zero fields after the minute are left out. -/
def momentLiteral (m : Moment) : String :=
  let fields := [m.date.year, m.date.month, m.date.day, m.hour, m.minute]
    ++ (if m.micro ≠ 0 then [m.second, m.micro] else if m.second ≠ 0 then [m.second] else [])
  "datetime.datetime(" ++ String.intercalate ", " (fields.map natText)
    ++ (match m.offset with | some o => ", tzinfo=" ++ offsetLiteral o | none => "") ++ ")"

/-- The literal of a value without parts. -/
def atomLiteral : Value → String
  | null => "None"
  | bool b => if b then "True" else "False"
  | int n => intText n
  | float x => x.text
  | text s => Text.quoted s
  | bytes bs => Text.quotedBytes bs
  | decimal d => "Decimal(" ++ Text.quoted d.text ++ ")"
  | uuid n => "UUID(" ++ Text.quoted (Text.uuidText n) ++ ")"
  | moment m => momentLiteral m
  | date d =>
    "datetime.date(" ++ String.intercalate ", " ([d.year, d.month, d.day].map natText) ++ ")"
  | list _ | tuple _ | map _ => ""
  | generator _ => "<generator>"
  | problem p => p.literal.toOption.getD ""

mutual

/-- The literal of a value. -/
def literal : Value → String
  | list xs => "[" ++ String.intercalate ", " (literals xs) ++ "]"
  | tuple [x] => "(" ++ literal x ++ ",)"
  | tuple xs => "(" ++ String.intercalate ", " (literals xs) ++ ")"
  | map entries => "\x7b" ++ String.intercalate ", " (entryLiterals entries) ++ "\x7d"
  | v => atomLiteral v

/-- The literals of the elements of a sequence. -/
def literals : List Value → List String
  | [] => []
  | x :: xs => literal x :: literals xs

/-- The literals of the entries of a mapping. -/
def entryLiterals : List (Value × Value) → List String
  | [] => []
  | (k, v) :: rest => (literal k ++ ": " ++ literal v) :: entryLiterals rest

end

/-- The display text of a value: bare for texts, decimals, identifiers, times and errors. -/
def display : Value → String
  | text s => s
  | decimal d => d.text
  | uuid n => Text.uuidText n
  | moment m => m.isoWith " "
  | date d => d.iso
  | problem p => p.text.toOption.getD ""
  | v => v.literal

/-- The most digits of an integer in a text. -/
@[irreducible] def maxDigits : Nat := 4300

mutual

/-- Why the literal of a value cannot be had: an integer in it has too many digits, or an error in it
refuses its literal.  The first such part counts. -/
def refusal? : Value → Option Refusal
  | int n => if Nat.pow 10 maxDigits ≤ n.natAbs then some .digits else none
  | problem p =>
    match p.literal with
    | .ok _ => none
    | .error r => some r
  | list xs | tuple xs => refusalIn? xs
  | map entries => entryRefusal? entries
  | _ => none

/-- Why the literals of the elements of a sequence cannot be had. -/
def refusalIn? : List Value → Option Refusal
  | [] => none
  | x :: xs => (refusal? x).or (refusalIn? xs)

/-- Why the literals of the entries of a mapping cannot be had. -/
def entryRefusal? : List (Value × Value) → Option Refusal
  | [] => none
  | (k, v) :: rest => ((refusal? k).or (refusal? v)).or (entryRefusal? rest)

end

/-- The literal of a value, if it can be had. -/
def writtenLiteral (v : Value) : Except Refusal String :=
  match v.refusal? with
  | some r => .error r
  | none => .ok v.literal

/-- The display text of a value, if it can be had. -/
def writtenDisplay (v : Value) : Except Refusal String :=
  match v with
  | problem p => p.text
  | v =>
    match v.refusal? with
    | some r => .error r
    | none => .ok v.display

/-- An integer with too many digits is not written. -/
theorem writtenDisplay_int {n : Int} (h : Nat.pow 10 maxDigits ≤ n.natAbs) :
    (int n).writtenDisplay = .error .digits := by
  simp only [writtenDisplay, refusal?, if_pos h]

end Value

end QueryChain
