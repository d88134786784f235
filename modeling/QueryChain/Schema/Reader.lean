import QueryChain.Number.Shortest
import QueryChain.Schema.Issue
import QueryChain.Text.Blank
import QueryChain.Text.Half
import QueryChain.Text.Utf8
import QueryChain.Value.Literal

/-!
# Reading fields

Fields of records are read leniently: a number may come as a text or as another kind of number, a
text as bytes, a truth value as a word.  What cannot be read is an issue.

## Main definitions

* `Reader.text`, `Reader.bool`, `Reader.int`, `Reader.float` — one value of a kind.
* `Reader.list`, `Reader.fields` — the elements of a sequence, the fields of a mapping.
* `Reader.atLeast`, `Reader.atMost`, `Reader.moreThan`, `Reader.nonempty` — bounds.
* `Reader.required`, `Reader.optional` — a field of a record by its name.
-/

set_option relaxedAutoImplicit false
set_option autoImplicit false

namespace QueryChain.Reader

variable {α : Type}

/-- Reads a text, given as text or as its bytes. -/
def text : Value → Checked String
  | .text s => .ok s
  | .bytes bs =>
    match Text.ofUtf8? bs with
    | some s => .ok s
    | none => .fail .stringUnicode
  | _ => .fail .stringType

/-- Refuses a text that no bytes encode; only a text that is looked into is refused. -/
def encodable (s : String) : Checked String :=
  if Text.hasHalf s then .fail .stringUnicode else .ok s

/-- Refuses the empty text. -/
def nonempty (s : String) : Checked String :=
  encodable s >>= fun s => if s = "" then .fail (.stringTooShort 1) else .ok s

/-- Reads a text that is not empty. -/
def nonemptyText (v : Value) : Checked String := text v >>= nonempty

/-- Reads a text that may be null. -/
def nullableText : Value → Checked (Option String)
  | .null => .ok none
  | v => (text v).map some

/-- The words for true and for false. -/
def truthWord? (s : String) : Option Bool :=
  let lower := String.ofList (s.toList.map Char.toLower)
  if ["1", "t", "y", "on", "yes", "true"].contains lower then some true
  else if ["0", "f", "n", "no", "off", "false"].contains lower then some false
  else none

/-- Whether an integer fits a machine word with sign. -/
def fitsWord (n : Int) : Bool := decide (-9223372036854775808 ≤ n ∧ n < 9223372036854775808)

/-- Reads a truth value from a number: zero and one only. -/
def boolOfInt (n : Int) : Checked Bool :=
  if n = 0 then .ok false
  else if n = 1 then .ok true
  else if fitsWord n then .fail .boolParsing
  else .fail .boolType

/-- Reads a truth value from a word. -/
def boolOfText (s : String) : Checked Bool :=
  match truthWord? s with
  | some b => .ok b
  | none => .fail .boolParsing

/-- Whether a whole floating number lies between the bounds of a machine word with sign. -/
def insideWord (n : Int) : Bool := decide (-9223372036854775808 < n ∧ n < 9223372036854775808)

/-- Reads a truth value from a floating number. -/
def boolOfFloat (x : Binary64) : Checked Bool :=
  match x.toInt? with
  | some n => if insideWord n then boolOfInt n else .fail .boolType
  | none => .fail .boolType

/-- The floating number nearest to a decimal one; not-a-number in its signaling form has none. -/
def floatOfDecimal? : Decimal → Option Binary64
  | .finite negative c e => some (Binary64.ofNumeral ⟨negative, c, e⟩)
  | .infinite negative => some (.infinite negative)
  | .nan _ signaling _ => if signaling then none else some .nan

/-- Reads a truth value. -/
def bool : Value → Checked Bool
  | .bool b => .ok b
  | .int n => boolOfInt n
  | .text s => encodable s >>= boolOfText
  | .bytes bs =>
    match Text.ofUtf8? bs with
    | some s => boolOfText s
    | none => .fail .boolParsing
  | .float x => boolOfFloat x
  | .decimal d =>
    match floatOfDecimal? d with
    | some x => boolOfFloat x
    | none => .fail .boolType
  | _ => .fail .boolType

/-! ### Integers -/

/-- Reads digits with an optional minus. -/
def signedDigits? (cs : List Char) : Option Int :=
  let (negative, digits) :=
    match cs with
    | '-' :: rest => (true, rest)
    | _ => (false, cs)
  if digits.isEmpty || !digits.all Char.isDigit then none
  else some (if negative then -(digitsValue digits : Int) else digitsValue digits)

/-- Whether digits start with a zero in front of another digit, after an optional minus. -/
def hasLeadingZero : List Char → Bool
  | '0' :: _ :: _ | '-' :: '0' :: _ :: _ => true
  | _ => false

/-- Reads digits with an optional minus, and no zero in front of another digit. -/
def plainInt? (cs : List Char) : Option Int :=
  if hasLeadingZero cs then none else signedDigits? cs

/-- The rest of a numeral after its leading zeros, in which underscores may stand, and after which
a minus may.  The last character skipped stays when nothing else is left, or in front of a point. -/
def afterZeros (last : Char) : List Char → Option (List Char)
  | [] => some [last]
  | c :: rest =>
    if c = '0' ∨ c = '_' then afterZeros c rest
    else if c.isDigit ∨ c = '-' then some (c :: rest)
    else if c = '.' then some (last :: c :: rest)
    else none

/-- A numeral without leading zeros; it starts with a digit. -/
def withoutLeadingZeros : List Char → Option (List Char)
  | [] => none
  | c :: rest =>
    if c = '0' then afterZeros c rest else if c.isDigit then some (c :: rest) else none

/-- A numeral without a fraction of zeros. -/
def withoutZeroFraction (cs : List Char) : List Char :=
  match cs.dropWhile (· != '.') with
  | _ :: fraction =>
    if !fraction.isEmpty && fraction.all (· == '0') then cs.takeWhile (· != '.') else cs
  | [] => cs

/-- Whether two underscores follow each other. -/
def hasUnderscorePair : List Char → Bool
  | '_' :: '_' :: _ => true
  | _ :: rest => hasUnderscorePair rest
  | [] => false

/-- A numeral without its underscores, if they stand singly between other characters. -/
def withoutUnderscores (cs : List Char) : List Char :=
  if cs.head? == some '_' || cs.getLast? == some '_' || hasUnderscorePair cs then cs
  else cs.filter (· != '_')

/-- A numeral without sign, and without leading zeros, a fraction of zeros or single underscores. -/
def plainDigits? (cs : List Char) : Option (List Char) :=
  (withoutLeadingZeros cs).map fun digits => withoutUnderscores (withoutZeroFraction digits)

/-- A numeral with an optional sign, in plain digits: spaces around it and a plus are taken away,
and a minus is kept. -/
def looseDigits? (cs : List Char) : Option (List Char) :=
  match Text.trimBoth Text.isWhiteSpace cs with
  | '+' :: '-' :: _ => none
  | '+' :: rest => plainDigits? rest
  | '-' :: rest => (plainDigits? rest).map ('-' :: ·)
  | trimmed => plainDigits? trimmed

/-- How many characters an integer in front of a text takes: an optional minus, and digits without
leading zeros. -/
def integerLength (cs : List Char) : Nat :=
  let digits := if cs.head? = some '-' then cs.drop 1 else cs
  let run := digits.takeWhile Char.isDigit
  if run.head? = some '0' then 0 else cs.length - digits.length + run.length

/-- The most characters of an integer in a text. -/
def maxIntegerLength : Nat := 4300

/-- Reads an integer from a text.  Only one that is written plainly can be told to be too long. -/
def intOfText (s : String) : Checked Int :=
  if maxIntegerLength < integerLength s.toList then .fail .intParsingSize
  else
    match plainInt? s.toList with
    | some n => .ok n
    | none =>
      let short := (looseDigits? s.toList).filter fun cs => integerLength cs ≤ maxIntegerLength
      match short.bind plainInt? with
      | some n => .ok n
      | none => .fail .intParsing

/-- Reads an integer from a floating number without a fraction. -/
def intOfFloat (x : Binary64) : Checked Int :=
  if x.isFinite then
    match x.toInt? with
    | some n => if insideWord n then .ok n else .fail .intParsingSize
    | none => .fail .intFromFloat
  else .fail .finiteNumber

/-- Reads an integer. -/
def int : Value → Checked Int
  | .int n => .ok n
  | .bool b => .ok (if b then 1 else 0)
  | .text s => encodable s >>= intOfText
  | .bytes bs =>
    match Text.ofUtf8? bs with
    | some s => intOfText s
    | none => .fail .intParsing
  | .float x => intOfFloat x
  | .decimal d =>
    match d with
    | .finite .. =>
      match d.toInt? with
      | some n => .ok n
      | none => .fail .intFromFloat
    | _ => .fail .finiteNumber
  | _ => .fail .intType

/-- Refuses integers below a bound. -/
def atLeast (bound : Int) (n : Int) : Checked Int :=
  if n < bound then .fail (.greaterThanEqual bound) else .ok n

/-- Refuses integers above a bound. -/
def atMost (bound : Int) (n : Int) : Checked Int :=
  if bound < n then .fail (.lessThanEqual bound) else .ok n

/-- Reads an integer between two bounds. -/
def intBetween (low high : Int) (v : Value) : Checked Int := int v >>= atMost high >>= atLeast low

/-! ### Floating numbers -/

/-- Reads a floating number from a text; spaces around it or single underscores are allowed. -/
def floatOfText (s : String) : Checked Binary64 :=
  match Binary64.read? (Text.trimBoth Text.isWhiteSpace s.toList) with
  | some x => .ok x
  | none =>
    match Binary64.read? (withoutUnderscores s.toList) with
    | some x => .ok x
    | none => .fail .floatParsing

/-- Reads a floating number. -/
def float : Value → Checked Binary64
  | .float x => .ok x
  | .int n =>
    let x := Binary64.ofInt n
    if x.isFinite then .ok x else .fail .floatType
  | .bool b => .ok (Binary64.ofInt (if b then 1 else 0))
  | .text s => encodable s >>= floatOfText
  | .bytes bs =>
    match Text.ofUtf8? bs with
    | some s => floatOfText s
    | none => .fail .floatParsing
  | .decimal d =>
    match floatOfDecimal? d with
    | some x => .ok x
    | none => .fail .floatType
  | _ => .fail .floatType

/-- Refuses numbers that are not greater than zero. -/
def positive (x : Binary64) : Checked Binary64 :=
  if x.isPositive then .ok x else .fail (.greaterThan 0)

/-! ### Sequences and mappings -/

/-- The elements of a sequence. -/
def list : Value → Checked (List Value)
  | .list xs | .tuple xs | .generator xs => .ok xs
  | _ => .fail .listType

/-- Numbers the checks of the elements of a sequence. -/
def numbered : Nat → List (Checked α) → List (Checked α)
  | _, [] => []
  | n, x :: xs => x.under (.index n) :: numbered (n + 1) xs

/-- Reads every element of a sequence. -/
def listOf (read : Value → Checked α) (v : Value) : Checked (List α) :=
  list v >>= fun xs => Checked.all (numbered 0 (xs.map read))

/-- The step into a mapping under a key: its text or number, or its literal. -/
def keyPart : Value → PathPart
  | .text s => .name s
  | .bool b => .index (if b then 1 else 0)
  | .int n => if fitsWord n then .index n else .name (Value.int n).literal
  | v => .name v.literal

/-- Reads the key of a mapping. -/
def key (v : Value) : Checked String := ((text v).under (.name "[key]")).under (keyPart v)

/-- Reads every key of a mapping. -/
def entries : Value.Entries → Checked Fields
  | [] => .ok []
  | (k, v) :: rest =>
    match (key k).and (entries rest) with
    | .ok (name, fields) => .ok ((name, v) :: fields)
    | .error issues => .error issues

/-- Reads a mapping whose keys are texts.  Keys that read as the same text share a field. -/
def fields : Value → Checked Fields
  | .map es => (entries es).map fun fs => Fields.update [] fs
  | _ => .fail .mapType

/-- Reads a record given as a mapping; only text keys can name its fields. -/
def record (name : String) : Value → Checked Fields
  | .map es => .ok (Fields.update [] (es.filterMap fun e => e.1.text?.map (·, e.2)))
  | _ => .fail (.recordType name)

/-- Reads a field that has to be there. -/
def required (given : Fields) (name : String) (read : Value → Checked α) : Checked α :=
  match given.get? name with
  | none => (Checked.fail .missing).under (.name name)
  | some v => (read v).under (.name name)

/-- Reads a field that may be left out; the default is not checked. -/
def optional (given : Fields) (name : String) (default : α) (read : Value → Checked α) :
    Checked α :=
  match given.get? name with
  | none => .ok default
  | some v => (read v).under (.name name)

end QueryChain.Reader
