import QueryChain.Failure.Basic

/-!
# Writing JSON

Values as one line of ASCII JSON.  The kinds that the format does not know are written as their
display text, and floating numbers without a numeral by name.

## Main definitions

* `Json.quoted` — a text in quotes, with every character outside printable ASCII escaped.
* `Json.keyText` — the text that stands for a key.
* `Json.write` — a value.
-/

set_option relaxedAutoImplicit false
set_option autoImplicit false

namespace QueryChain.Json

/-- A unit of sixteen bits as an escape. -/
def escapeUnit (n : Nat) : List Char := '\\' :: 'u' :: (Text.hexPadded 4 n).toList

/-- One character inside quotes; characters beyond sixteen bits become two units, and half of a pair
becomes the unit that it is. -/
def escape (c : Char) : List Char :=
  if c = '\x22' then ['\\', '\x22']
  else if c = '\\' then ['\\', '\\']
  else if 0x20 ≤ c.toNat ∧ c.toNat ≤ 0x7e then [c]
  else if c = '\n' then ['\\', 'n']
  else if c = '\r' then ['\\', 'r']
  else if c = '\t' then ['\\', 't']
  else if c = '\x0c' then ['\\', 'f']
  else if c = '\x08' then ['\\', 'b']
  else if Text.code c < 0x10000 then escapeUnit (Text.code c)
  else
    let n := c.toNat - 0x10000
    escapeUnit (0xD800 + n / 0x400) ++ escapeUnit (0xDC00 + n % 0x400)

/-- A text in quotes. -/
def quoted (s : String) : String :=
  "\x22" ++ String.ofList (s.toList.flatMap escape) ++ "\x22"

/-- The text that stands for a key: keys are texts, numbers, truth values or null. -/
def keyText : Value → Except Fault String
  | .text s => .ok s
  | .null => .ok "null"
  | .bool b => .ok (if b then "true" else "false")
  | .int n => .ok (intText n)
  | .float x => .ok (x.write Binary64.inJson)
  | v => .error (.keyKind v.qualifiedKindName)

/-- A value without parts. -/
def writeAtom : Value → String
  | .null => "null"
  | .bool b => if b then "true" else "false"
  | .int n => intText n
  | .float x => x.write Binary64.inJson
  | v => quoted v.display

mutual

/-- A value as JSON, with one space behind commas and colons. -/
def write : Value → Except Fault String
  | .list xs | .tuple xs => do
    return "[" ++ String.intercalate ", " (← writeItems xs) ++ "]"
  | .map entries => do
    return "\x7b" ++ String.intercalate ", " (← writeMembers entries) ++ "\x7d"
  | v => .ok (writeAtom v)

/-- The elements of a sequence. -/
def writeItems : List Value → Except Fault (List String)
  | [] => .ok []
  | x :: xs => do
    let text ← write x
    return text :: (← writeItems xs)

/-- The members of a mapping. -/
def writeMembers : List (Value × Value) → Except Fault (List String)
  | [] => .ok []
  | (k, v) :: rest => do
    let key ← keyText k
    let text ← write v
    return (quoted key ++ ": " ++ text) :: (← writeMembers rest)

end

end QueryChain.Json
