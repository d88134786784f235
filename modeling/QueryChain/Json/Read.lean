import QueryChain.Text.Half
import QueryChain.Text.Hex
import QueryChain.Value.Basic

/-!
# Reading JSON

Values given as JSON text, read by recursive descent on characters.  Besides the standard grammar
the three names `NaN`, `Infinity` and `-Infinity` are numbers.  A numeral without fraction and
exponent is an integer, every other numeral a floating number.

Half of a pair that stands alone is kept.  Lists and mappings may be nested only so far; one that is
nested deeper ends the reading where it starts, whatever follows.

## Main definitions

* `Json.Rejection` — what ends the reading of a text.
* `Json.read` — the value of a text that is one JSON value with white space around it.
* `Json.readText?`, `Json.readNumber?` — the text and the number at the front of some characters.
-/

set_option relaxedAutoImplicit false
set_option autoImplicit false

namespace QueryChain.Json

/-- The white space of the format. -/
def isSpace (c : Char) : Bool := c == ' ' || c == '\t' || c == '\n' || c == '\r'

/-- The characters behind white space. -/
def skipSpace (cs : List Char) : List Char := cs.dropWhile isSpace

/-- The characters behind a word, if they start with it. -/
def after? (word : String) (cs : List Char) : Option (List Char) :=
  if word.toList.isPrefixOf cs then some (cs.drop word.length) else none

/-! ### Texts -/

/-- The unit given by four hexadecimal digits, and the characters behind them. -/
def readUnit? : List Char → Option (Nat × List Char)
  | a :: b :: c :: d :: rest => do
    let a ← Text.hexDigit? a
    let b ← Text.hexDigit? b
    let c ← Text.hexDigit? c
    let d ← Text.hexDigit? d
    some (((a * 16 + b) * 16 + c) * 16 + d, rest)
  | _ => none

/-- The character of an escape by units, and the characters behind it. -/
def readUnits? (cs : List Char) : Option (Char × List Char) :=
  match readUnit? cs with
  | none => none
  | some (high, rest) =>
    match rest with
    | '\\' :: 'u' :: more =>
      match readUnit? more with
      | some (low, tail) =>
        if Text.isHighHalf high && Text.isLowHalf low then
          some (Char.ofNat (0x10000 + (high - 0xD800) * 0x400 + (low - 0xDC00)), tail)
        else some (Text.ofCode high, rest)
      | none => some (Text.ofCode high, rest)
    | _ => some (Text.ofCode high, rest)

/-- The character that a letter behind a backslash stands for. -/
def escaped? : Char → Option Char
  | '\x22' => some '\x22'
  | '\\' => some '\\'
  | '/' => some '/'
  | 'b' => some '\x08'
  | 'f' => some '\x0c'
  | 'n' => some '\n'
  | 'r' => some '\r'
  | 't' => some '\t'
  | _ => none

/-- The characters of a text up to its closing quote, and the characters behind the quote.  Control
characters have to be escaped. -/
def readText? : Nat → List Char → Option (List Char × List Char)
  | 0, _ => none
  | _ + 1, [] => none
  | fuel + 1, c :: rest =>
    if c = '\x22' then some ([], rest)
    else if c = '\\' then
      match rest with
      | 'u' :: digits =>
        (readUnits? digits).bind fun (u, tail) =>
          (readText? fuel tail).map fun (cs, behind) => (u :: cs, behind)
      | e :: tail =>
        (escaped? e).bind fun u => (readText? fuel tail).map fun (cs, behind) => (u :: cs, behind)
      | [] => none
    else if c.toNat < 0x20 then none
    else (readText? fuel rest).map fun (cs, behind) => (c :: cs, behind)

/-! ### Numbers -/

/-- The most digits of an integer. -/
def maxIntegerDigits : Nat := 4300

/-- A fraction at the front: its digits, or none. -/
def takeFraction : List Char → List Char × List Char
  | '.' :: rest =>
    let digits := rest.takeWhile Char.isDigit
    if digits.isEmpty then ([], '.' :: rest) else (digits, rest.dropWhile Char.isDigit)
  | cs => ([], cs)

/-- An exponent at the front, or none. -/
def takeExponent : List Char → Option Int × List Char
  | c :: rest =>
    if c = 'e' ∨ c = 'E' then
      let (negative, body) := Numeral.takeSign rest
      let digits := body.takeWhile Char.isDigit
      if digits.isEmpty then (none, c :: rest)
      else
        (some (if negative then -(digitsValue digits : Int) else digitsValue digits),
          body.dropWhile Char.isDigit)
    else (none, c :: rest)
  | [] => (none, [])

/-- The whole digits at the front: a zero, or digits that start with another one. -/
def takeWhole : List Char → List Char × List Char
  | '0' :: rest => (['0'], rest)
  | cs => (cs.takeWhile Char.isDigit, cs.dropWhile Char.isDigit)

/-- The number at the front, and the characters behind it. -/
def readNumber? (cs : List Char) : Option (Value × List Char) :=
  let (negative, body) :=
    match cs with
    | '-' :: rest => (true, rest)
    | _ => (false, cs)
  let (whole, rest) := takeWhole body
  if whole.isEmpty then none
  else
    match takeFraction rest with
    | (fraction, tail) =>
      match fraction, takeExponent tail with
      | [], (none, behind) =>
        if maxIntegerDigits < whole.length then none
        else
          some (.int (if negative then -(digitsValue whole : Int) else digitsValue whole), behind)
      | _, (power, behind) =>
        some (.float (Binary64.ofNumeral
          ⟨negative, digitsValue (whole ++ fraction), power.getD 0 - fraction.length⟩), behind)

/-! ### Values -/

/-- A named value or a number at the front. -/
def readAtom? (cs : List Char) : Option (Value × List Char) :=
  match after? "null" cs, after? "true" cs, after? "false" cs with
  | some rest, _, _ => some (.null, rest)
  | _, some rest, _ => some (.bool true, rest)
  | _, _, some rest => some (.bool false, rest)
  | none, none, none =>
    match after? "NaN" cs, after? "Infinity" cs, after? "-Infinity" cs with
    | some rest, _, _ => some (.float .nan, rest)
    | _, some rest, _ => some (.float (.infinite false), rest)
    | _, _, some rest => some (.float (.infinite true), rest)
    | none, none, none => readNumber? cs

/-- What ends the reading of a text: a text that does not fit the grammar, or a list or a mapping
that is nested too deep. -/
inductive Rejection where
  | malformed
  | deepList
  | deepMap
deriving DecidableEq, Repr

/-- What fits the grammar at the front. -/
def ofOption {α : Type} (x : Option α) : Except Rejection α :=
  match x with
  | some a => .ok a
  | none => .error .malformed

/-- How deep lists and mappings may be nested. -/
def maxDepth : Nat := 980

mutual

/-- The value at the front, and the characters behind it; `room` more lists and mappings may be
opened. -/
def readValue (fuel room : Nat) (cs : List Char) : Except Rejection (Value × List Char) :=
  match fuel with
  | 0 => .error .malformed
  | fuel + 1 =>
    match cs with
    | '\x22' :: rest =>
      (ofOption (readText? (rest.length + 1) rest)).map fun (text, behind) =>
        (.text (String.ofList text), behind)
    | '[' :: rest =>
      match room with
      | 0 => .error .deepList
      | room + 1 =>
        match skipSpace rest with
        | ']' :: behind => .ok (.list [], behind)
        | inner => (readItems fuel room inner).map fun (xs, behind) => (.list xs, behind)
    | '\x7b' :: rest =>
      match room with
      | 0 => .error .deepMap
      | room + 1 =>
        match skipSpace rest with
        | '\x7d' :: behind => .ok (.map [], behind)
        | inner =>
          (readMembers fuel room inner).map fun (entries, behind) =>
            (.map (Value.Entries.ofList entries), behind)
    | _ => ofOption (readAtom? cs)

/-- The elements of a list up to its bracket, and the characters behind it. -/
def readItems (fuel room : Nat) (cs : List Char) :
    Except Rejection (List Value × List Char) :=
  match fuel with
  | 0 => .error .malformed
  | fuel + 1 => do
    let (x, rest) ← readValue fuel room cs
    match skipSpace rest with
    | ']' :: behind => return ([x], behind)
    | ',' :: more =>
      (readItems fuel room (skipSpace more)).map fun (xs, behind) => (x :: xs, behind)
    | _ => .error .malformed

/-- The members of a mapping up to its brace, and the characters behind it. -/
def readMembers (fuel room : Nat) (cs : List Char) :
    Except Rejection (List (Value × Value) × List Char) :=
  match fuel with
  | 0 => .error .malformed
  | fuel + 1 =>
    match cs with
    | '\x22' :: keyChars => do
      let (key, afterKey) ← ofOption (readText? (keyChars.length + 1) keyChars)
      match skipSpace afterKey with
      | ':' :: afterColon =>
        let (x, rest) ← readValue fuel room (skipSpace afterColon)
        let member := (Value.text (String.ofList key), x)
        match skipSpace rest with
        | '\x7d' :: behind => return ([member], behind)
        | ',' :: more =>
          (readMembers fuel room (skipSpace more)).map fun (ms, behind) => (member :: ms, behind)
        | _ => .error .malformed
      | _ => .error .malformed
    | _ => .error .malformed

end

/-- The value of a text that is one JSON value with white space around it. -/
def read (s : String) : Except Rejection Value := do
  let cs := s.toList
  let (v, rest) ← readValue (2 * cs.length + 1) maxDepth (skipSpace cs)
  if (skipSpace rest).isEmpty then return v else .error .malformed

end QueryChain.Json
