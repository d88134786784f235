import QueryChain.Failure.Fault

/-!
# Values from their spelling

Values of the kinds that have a text of their own, read from it.  A text that spells no value of the
kind is a fault.

## Main definitions

* `Value.spelledFloat`, `spelledDecimal`, `spelledBytes`, `spelledUuid`, `spelledMoment` and
  `spelledDate` — the value that a text spells.
-/

set_option relaxedAutoImplicit false
set_option autoImplicit false

namespace QueryChain.Value

/-- Digits without the underscores that stand singly between them. -/
def withoutJoints (isDigit : Char → Bool) : List Char → Option (List Char)
  | a :: '_' :: b :: rest =>
    if isDigit a && isDigit b then (withoutJoints isDigit (b :: rest)).map (a :: ·) else none
  | '_' :: _ => none
  | c :: rest => (withoutJoints isDigit rest).map (c :: ·)
  | [] => some []

/-- The characters of a number without the white space around them, with the digits of every script
as ASCII digits. -/
def plainNumber? (s : String) : Option (List Char) :=
  (Text.trimBoth Text.isWhiteSpace s.toList).mapM Decimal.plainChar?

/-- The floating number that a text spells: white space around it, digits of every script and single
underscores between digits are allowed. -/
def spelledFloat (s : String) : Except Fault Value :=
  match (plainNumber? s).bind fun cs => (withoutJoints Char.isDigit cs).bind Binary64.read? with
  | some x => .ok (float x)
  | none => .error (.floatSyntax (Text.quoted s))

/-- The decimal number that a text spells; its exponent has to be one that numbers can have. -/
def spelledDecimal (s : String) : Except Fault Value :=
  match Decimal.read? s with
  | none => .error .decimalSyntax
  | some d => if d.inRange then .ok (decimal d) else .error .decimalOperation

/-- The bytes that a text spells in hexadecimal. -/
def spelledBytes (s : String) : Except Fault Value :=
  match Text.hexBytes s with
  | .ok bs => .ok (bytes bs)
  | .error position => .error (.hexSyntax position)

/-- The characters of a text without every occurrence of a word. -/
def without (word : List Char) : Nat → List Char → List Char
  | 0, cs => cs
  | _ + 1, [] => []
  | fuel + 1, c :: rest =>
    if word.isPrefixOf (c :: rest) then without word fuel ((c :: rest).drop word.length)
    else c :: without word fuel rest

/-- The digits of an identifier: braces around them, dashes and the names of its scheme are left
out. -/
def uuidDigits (s : String) : List Char :=
  let plain := without "uuid:".toList s.length (without "urn:".toList s.length s.toList)
  (Text.trimBoth (fun c => c == '\x7b' || c == '\x7d') plain).filter (· != '-')

/-- Hexadecimal digits without a plus sign and the mark of their base in front, which an underscore
may follow. -/
def withoutBase (cs : List Char) : List Char :=
  match (if cs.head? = some '+' then cs.drop 1 else cs) with
  | '0' :: x :: rest =>
    if x = 'x' ∨ x = 'X' then (if rest.head? = some '_' then rest.drop 1 else rest)
    else '0' :: x :: rest
  | cs => cs

/-- The number that a text spells in hexadecimal: white space around it, digits of every script and
single underscores between digits are allowed. -/
def hexNumber? (s : String) : Option Nat := do
  let cs ← plainNumber? s
  let digits ← withoutJoints (fun c => (Text.hexDigit? c).isSome) (withoutBase cs)
  let ns ← digits.mapM Text.hexDigit?
  if ns.isEmpty then none else some (ns.foldl (fun acc n => acc * 16 + n) 0)

/-- The identifier that a text spells with 32 characters, all of them a number in hexadecimal. -/
def spelledUuid (s : String) : Except Fault Value :=
  let digits := uuidDigits s
  if digits.length ≠ 32 then .error .uuidSyntax
  else
    match hexNumber? (String.ofList digits) with
    | some n => .ok (uuid n)
    | none => .error (.wholeSyntax 16 ((Text.quoted (String.ofList digits)).take 200).toString)

/-- The moment that a text spells. -/
def spelledMoment (s : String) : Except Fault Value :=
  ((Moment.read s).map moment).mapError .date

/-- The day that a text spells. -/
def spelledDate (s : String) : Except Fault Value :=
  ((CalendarDay.read s).map date).mapError .date

end QueryChain.Value
