import QueryChain.Failure.Basic
import QueryChain.Number.Places
import QueryChain.Template.Piece

/-!
# Filling a template

The directives of a template take their arguments in order, or by key from a mapping.  Every fault
is met where the directive that has it stands, so a template is filled up to its first fault.

## Main definitions

* `Template.Arguments` — what is left to take.
* `Template.convert` — the text of an argument for a letter.
* `Template.pad` — a text in its width.
* `Template.fill` — a template with its arguments.
-/

set_option relaxedAutoImplicit false
set_option autoImplicit false

namespace QueryChain.Template

/-! ### Arguments -/

/-- What is left to take: a row of arguments, or a single one. -/
inductive Supply where
  | row (rest : List Value)
  | single (v : Option Value)

/-- The arguments of a template: what is left to take in order, and what keys are looked up in. -/
structure Arguments where
  supply : Supply
  keyed : Option Value

/-- The arguments that a value stands for.  Only a tuple gives several; values with parts can be
asked for keys. -/
def Arguments.ofValue : Value → Arguments
  | .tuple xs => ⟨.row xs, none⟩
  | v =>
    ⟨.single (some v),
      match v with
      | .map _ | .list _ | .bytes _ => some v
      | _ => none⟩

/-- Takes the next argument. -/
def Arguments.next (args : Arguments) : Except Fault (Value × Arguments) :=
  match args.supply with
  | .row (x :: rest) => .ok (x, { args with supply := .row rest })
  | .single (some v) => .ok (v, { args with supply := .single none })
  | .row [] | .single none => .error (.template .argumentsMissing)

/-- Looks up a key; the value found is the next argument, and the only one. -/
def Arguments.lookUp (args : Arguments) (key : String) : Except Fault Arguments :=
  match args.keyed with
  | some (.map entries) =>
    match Value.Entries.get? entries (.text key) with
    | some v => .ok { args with supply := .single (some v) }
    | none => .error (.missingKey (Text.quoted key))
  | some (.list _) => .error (.template .listKey)
  | some _ => .error (.template .bytesKey)
  | none => .error (.template .mappingExpected)

/-- Arguments that nothing took are a fault, unless they could be asked for keys. -/
def Arguments.finish (args : Arguments) : Except Fault Unit :=
  match args.supply, args.keyed with
  | .row (_ :: _), none | .single (some _), none => .error (.template .argumentsLeft)
  | _, _ => .ok ()

/-! ### Widths -/

/-- The greatest width, and the greatest precision. -/
def greatestWidth : Nat := 9223372036854775807

@[inherit_doc greatestWidth]
def greatestPrecision : Nat := 2147483647

/-- A number taken for a width or a precision. -/
def starNumber : Value → Except Fault Int
  | .int n => .ok n
  | .bool b => .ok (if b then 1 else 0)
  | _ => .error (.template .starExpectsInteger)

/-- The width of a directive, and whether a negative one asks for padding on the right. -/
def takeWidth (size : Size) (args : Arguments) : Except Fault (Nat × Bool × Arguments) :=
  match size with
  | .unset => .ok (0, false, args)
  | .fixed n => if n ≤ greatestWidth then .ok (n, false, args) else .error (.template .widthTooBig)
  | .fromArgument => do
    let (v, args) ← args.next
    let n ← starNumber v
    if n.natAbs ≤ greatestWidth then return (n.natAbs, decide (n < 0), args)
    else .error (.template .starWidthTooBig)

/-- The precision of a directive; a negative one counts as zero. -/
def takePrecision (size : Size) (args : Arguments) : Except Fault (Option Nat × Arguments) :=
  match size with
  | .unset => .ok (none, args)
  | .fixed n =>
    if n ≤ greatestPrecision then .ok (some n, args) else .error (.template .precisionTooBig)
  | .fromArgument => do
    let (v, args) ← args.next
    let n ← starNumber v
    if n.natAbs ≤ greatestPrecision then return (some n.toNat, args)
    else .error (.template .starPrecisionTooBig)

/-! ### Texts of arguments -/

/-- The text of an argument: a sign, a mark for the base, and the rest.  Only numbers can be padded
with zeros. -/
structure Shown where
  numeric : Bool
  sign : String
  mark : String
  body : String

/-- A text that is no number. -/
def Shown.plain (s : String) : Shown := ⟨false, "", "", s⟩

/-- The text of a value with every character outside ASCII escaped. -/
def asciiText (s : String) : String :=
  String.join (s.toList.map fun c =>
    if c.toNat < 0x80 then String.singleton c
    else Text.escapeCode c)

/-- The first characters of a text, up to a precision. -/
def cut (precision : Option Nat) (s : String) : String :=
  match precision with
  | some n => String.ofList (s.toList.take n)
  | none => s

/-- The sign in front of a number. -/
def signText (flags : Flags) (negative : Bool) : String :=
  if negative then "-" else if flags.signed then "+" else if flags.blank then " " else ""

/-- The base of a letter. -/
def baseOf (letter : Char) : Nat :=
  if letter = 'o' then 8 else if letter = 'x' ∨ letter = 'X' then 16 else 10

/-- The whole part of a number, toward zero. -/
def wholePart (letter : Char) (v : Value) : Except Fault Int :=
  match v with
  | .int n => .ok n
  | .bool b => .ok (if b then 1 else 0)
  | .float x =>
    match x.ratio? with
    | some (n, d) => .ok (Int.tdiv n d)
    | none =>
      .error (.template (match x with
        | .nan => .wholeOfNan "float NaN"
        | _ => .wholeOfInfinity "float infinity"))
  | .decimal d =>
    match d.ratio?, d with
    | some (n, d), _ => .ok (Int.tdiv n d)
    | none, .nan .. => .error (.template (.wholeOfNan "NaN"))
    | none, _ => .error (.template (.wholeOfInfinity "Infinity"))
  | .uuid n => .ok n
  | v => .error (.template (.numberExpected letter v.qualifiedKindName))

/-- The integer that a letter asks for: any number for a decimal one, an integer for the others. -/
def integerFor (letter : Char) (v : Value) : Except Fault Int :=
  if baseOf letter = 10 then wholePart letter v
  else
    match v with
    | .int n => .ok n
    | .bool b => .ok (if b then 1 else 0)
    | v => .error (.template (.integerExpected letter v.qualifiedKindName))

/-- An integer with at least as many digits as the precision asks for. -/
def showInteger (flags : Flags) (letter : Char) (precision : Option Nat) (n : Int) : Shown :=
  let digits := Nat.toDigits (baseOf letter) n.natAbs
  let digits := if letter = 'X' then digits.map Char.toUpper else digits
  ⟨true, signText flags (decide (n < 0)),
    if flags.alternate ∧ baseOf letter ≠ 10 then String.ofList ['0', letter] else "",
    String.ofList (List.replicate (precision.getD 0 - digits.length) '0' ++ digits)⟩

/-- The number that a letter with a point asks for. -/
def realFor (v : Value) : Except Fault Binary64 :=
  match v with
  | .float x => .ok x
  | .bool b => .ok (Binary64.ofInt (if b then 1 else 0))
  | .int n =>
    match Binary64.ofInt n with
    | .infinite _ => .error (.template .integerTooLarge)
    | x => .ok x
  | .decimal (.finite negative c e) => .ok (Binary64.ofNumeral ⟨negative, c, e⟩)
  | .decimal (.infinite negative) => .ok (.infinite negative)
  | .decimal (.nan _ signaling _) =>
    if signaling then .error (.template .realOfSignaling) else .ok .nan
  | v => .error (.template (.realExpected v.qualifiedKindName))

/-- The layout that a letter asks for. -/
def layoutOf? (letter : Char) : Option Binary64.Layout :=
  match letter.toLower with
  | 'e' => some .exponent
  | 'f' => some .fixed
  | 'g' => some .general
  | _ => none

/-- A number in a layout, with six digits unless the precision says otherwise; a capital letter asks
for capital letters. -/
def showReal (flags : Flags) (letter : Char) (layout : Binary64.Layout) (precision : Option Nat)
    (x : Binary64) : Shown :=
  let text := x.laidOut layout flags.alternate (precision.getD 6)
  ⟨true, signText flags x.isNegative, "",
    if letter.isUpper then String.ofList (text.toList.map Char.toUpper) else text⟩

/-- A single character, given as itself or by its number. -/
def character (v : Value) : Except Fault String :=
  let ofNumber (n : Int) : Except Fault String :=
    if 0 ≤ n ∧ n < 0x110000 then .ok (String.singleton (Text.ofCode n.toNat))
    else .error (.template .characterRange)
  match v with
  | .text s => if s.length = 1 then .ok s else .error (.template .characterExpected)
  | .int n => ofNumber n
  | .bool b => ofNumber (if b then 1 else 0)
  | _ => .error (.template .characterExpected)

/-- The text of an argument for a letter at a position. -/
def convert (flags : Flags) (precision : Option Nat) (letter : Char) (position : Nat) (v : Value) :
    Except Fault Shown :=
  if letter = 's' then .ok (.plain (cut precision v.display))
  else if letter = 'r' then .ok (.plain (cut precision v.literal))
  else if letter = 'a' then .ok (.plain (cut precision (asciiText v.literal)))
  else if letter = 'c' then (character v).map .plain
  else if ['d', 'i', 'u', 'o', 'x', 'X'].contains letter then
    (integerFor letter v).map (showInteger flags letter precision)
  else
    match layoutOf? letter with
    | some layout => (realFor v).map (showReal flags letter layout precision)
    | none => .error (.template (.unknownLetter letter position))

/-- A text in its width: padded on the right if asked for, else with zeros behind the sign of a
number or with blanks in front. -/
def pad (left zero : Bool) (width : Nat) (shown : Shown) : String :=
  let front := shown.sign ++ shown.mark
  let missing := width - (front ++ shown.body).length
  let fill (c : Char) := String.ofList (List.replicate missing c)
  if left then front ++ shown.body ++ fill ' '
  else if zero ∧ shown.numeric then front ++ fill '0' ++ shown.body
  else fill ' ' ++ front ++ shown.body

/-! ### Filling -/

/-- The text of a directive, and the arguments it leaves. -/
def fillDirective (d : Directive) (args : Arguments) : Except Fault (String × Arguments) := do
  let args ← match d.key with
    | some key => args.lookUp key
    | none => pure args
  let (width, left, args) ← takeWidth d.width args
  let (precision, args) ← takePrecision d.precision args
  match d.letter with
  | none => .error (.template .incomplete)
  | some (letter, position) =>
    let (v, args) ← args.next
    let shown ← convert d.flags precision letter position v
    return (pad (left || d.flags.left) d.flags.zero width shown, args)

/-- The texts of pieces. -/
def fillPieces (args : Arguments) : List Piece → Except Fault (List String)
  | [] => do
    args.finish
    return []
  | .text s :: rest => do return s :: (← fillPieces args rest)
  | .openKey :: _ =>
    .error (.template (if args.keyed.isSome then .keyIncomplete else .mappingExpected))
  | .directive d :: rest => do
    let (s, args) ← fillDirective d args
    return s :: (← fillPieces args rest)

/-- A template with its arguments. -/
def fill (template : String) (args : Value) : Except Fault String := do
  return String.join (← fillPieces (.ofValue args) (pieces template))

end QueryChain.Template
