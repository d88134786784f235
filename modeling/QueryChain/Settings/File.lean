import QueryChain.Settings.Source
import QueryChain.Text.Blank

/-!
# Files of variables

A file of variables has lines `NAME=value`, with an optional `export` in front and comments behind a
number sign.  Values are bare or in quotes; quoted values may span lines and know escapes.  A line
that does not fit is skipped.  Inside values, a name in braces behind a dollar sign stands for the
value of a variable set before.

## Main definitions

* `VariableFile.bindings` — the variables of a file as they are written.
* `VariableFile.expand` — a value with its references replaced.
* `VariableFile.read` — the variables of a file.
-/

set_option relaxedAutoImplicit false
set_option autoImplicit false

namespace QueryChain.VariableFile

/-- A character that ends a line. -/
def isBreak (c : Char) : Bool := c == '\n' || c == '\r'

/-- A blank character that does not end a line. -/
def isInlineBlank (c : Char) : Bool := Text.isBlank c && !isBreak c

/-- The text with every line break written as a line feed. -/
def unifyBreaks : List Char → List Char
  | '\r' :: '\n' :: rest => '\n' :: unifyBreaks rest
  | '\r' :: rest => '\n' :: unifyBreaks rest
  | c :: rest => c :: unifyBreaks rest
  | [] => []

/-- The characters behind the end of the line, if nothing but a comment is left on it. -/
def lineEnd? (cs : List Char) : Option (List Char) :=
  let rest := cs.dropWhile isInlineBlank
  let rest := match rest with
    | '#' :: more => more.dropWhile fun c => !isBreak c
    | _ => rest
  match rest with
  | [] => some []
  | c :: more => if isBreak c then some more else none

/-- The characters behind the rest of the line. -/
def nextLine (cs : List Char) : List Char := (cs.dropWhile fun c => !isBreak c).drop 1

/-- The characters up to a closing quote, and the characters behind it.  A backslash takes the
character behind it along, a quote too. -/
def closeQuote? (quote : Char) : List Char → Option (List Char × List Char)
  | [] => none
  | '\\' :: d :: rest =>
    (closeQuote? quote rest).map fun (inner, behind) => ('\\' :: d :: inner, behind)
  | c :: rest =>
    if c = quote then some ([], rest)
    else (closeQuote? quote rest).map fun (inner, behind) => (c :: inner, behind)

/-- The character that a letter behind a backslash stands for, in single or in double quotes. -/
def escaped? (quote letter : Char) : Option Char :=
  if letter = '\\' ∨ letter = '\x27' then some letter
  else if quote = '\x27' then none
  else
    match letter with
    | '\x22' => some '\x22'
    | 'a' => some '\x07'
    | 'b' => some '\x08'
    | 'f' => some '\x0c'
    | 'n' => some '\n'
    | 'r' => some '\r'
    | 't' => some '\t'
    | 'v' => some '\x0b'
    | _ => none

/-- A quoted value with its escapes replaced; other backslashes stay. -/
def unescape (quote : Char) : List Char → List Char
  | '\\' :: c :: rest =>
    match escaped? quote c with
    | some e => e :: unescape quote rest
    | none => '\\' :: unescape quote (c :: rest)
  | c :: rest => c :: unescape quote rest
  | [] => []

/-- The characters in front of a number sign that follows a blank. -/
def beforeComment : List Char → List Char
  | c :: d :: rest =>
    if Text.isBlank c ∧ d = '#' then [] else c :: beforeComment (d :: rest)
  | cs => cs

/-- A bare value: the rest of the line without comment and blanks at its end.  A number sign in
front starts a comment only if there are blanks before it. -/
def bareValue (blankBefore : Bool) (cs : List Char) : List Char :=
  if blankBefore && cs.head? == some '#' then []
  else ((beforeComment cs).reverse.dropWhile Text.isBlank).reverse

/-- A value, and the characters behind it; `blankBefore` says whether blanks stand before it. -/
def readValue? (blankBefore : Bool) (cs : List Char) : Option (List Char × List Char) :=
  match cs with
  | [] => some ([], [])
  | c :: rest =>
    if c = '\x27' ∨ c = '\x22' then
      (closeQuote? c rest).map fun (inner, behind) => (unescape c inner, behind)
    else
      some (bareValue blankBefore (cs.takeWhile fun c => !isBreak c),
        cs.dropWhile fun c => !isBreak c)

/-- The characters behind the word `export` and the blanks after it, if they start so. -/
def skipExport (cs : List Char) : List Char :=
  if "export".toList.isPrefixOf cs then
    let rest := cs.drop 6
    if (rest.head?.map isInlineBlank).getD false then rest.dropWhile isInlineBlank else cs
  else cs

/-- The name of a variable, and the characters behind it. -/
def readName? (cs : List Char) : Option (List Char × List Char) :=
  match cs with
  | '\x27' :: rest =>
    let name := rest.takeWhile (· != '\x27')
    match rest.dropWhile (· != '\x27') with
    | _ :: behind => if name.isEmpty then none else some (name, behind)
    | [] => none
  | _ =>
    let inName (c : Char) : Bool := c != '=' && c != '#' && !Text.isBlank c
    let name := cs.takeWhile inName
    if name.isEmpty then none else some (name, cs.dropWhile inName)

/-- One line with a variable: its name, its value if it has one, and the characters behind it.  Of a
line that does not fit, the characters at which reading stopped. -/
def readLine (cs : List Char) : Except (List Char) ((String × Option String) × List Char) :=
  let start := skipExport cs
  match readName? start with
  | none => .error start
  | some (name, rest) =>
    let ended (value : Option String) (behind : List Char) :=
      match lineEnd? behind with
      | some next => .ok ((String.ofList name, value), next)
      | none => .error behind
    match rest.dropWhile isInlineBlank with
    | '=' :: more =>
      let valueChars := more.dropWhile isInlineBlank
      match readValue? ((more.head?.map isInlineBlank).getD false) valueChars with
      | some (value, behind) => ended (some (String.ofList value)) behind
      | none => .error valueChars
    | behind => ended none behind

/-- The variables of the lines of a file, at most `fuel` lines of it. -/
def readLines : Nat → List Char → Variables
  | 0, _ => []
  | fuel + 1, cs =>
    match cs.dropWhile Text.isBlank with
    | [] => []
    | '#' :: rest => readLines fuel (nextLine rest)
    | start =>
      match readLine start with
      | .ok (var, rest) => var :: readLines fuel rest
      | .error stopped => readLines fuel (nextLine stopped)

/-- The text without a byte order mark in front. -/
def withoutMark : List Char → List Char
  | '\ufeff' :: rest => rest
  | cs => cs

/-- The variables of a file as they are written.  Every line takes at least one character. -/
def bindings (text : String) : Variables :=
  let cs := unifyBreaks (withoutMark text.toList)
  readLines cs.length cs

/-- A reference at the front: its name, its default, and the characters behind it. -/
def readReference? (cs : List Char) : Option (List Char × List Char × List Char) :=
  let name := cs.takeWhile fun c => c != '\x7d' && c != ':'
  match cs.dropWhile fun c => c != '\x7d' && c != ':' with
  | '\x7d' :: behind => some (name, [], behind)
  | ':' :: '-' :: rest =>
    match rest.dropWhile (· != '\x7d') with
    | _ :: behind => some (name, rest.takeWhile (· != '\x7d'), behind)
    | [] => none
  | _ => none

/-- Replaces references, at most `fuel` characters far. -/
def expandChars (vars : Variables) : Nat → List Char → List Char
  | 0, cs => cs
  | fuel + 1, cs =>
    match cs with
    | [] => []
    | '$' :: '\x7b' :: rest =>
      match readReference? rest with
      | some (name, fallback, behind) =>
        let value :=
          match vars.lookup (String.ofList name) with
          | some (some s) => s.toList
          | some none => []
          | none => fallback
        value ++ expandChars vars fuel behind
      | none => '$' :: expandChars vars fuel ('\x7b' :: rest)
    | c :: rest => c :: expandChars vars fuel rest

/-- A value with its references replaced. -/
def expand (vars : Variables) (value : String) : String :=
  String.ofList (expandChars vars value.length value.toList)

/-- Expands variables in order; each one sees those before it, and behind them the environment. -/
def expandAll (environment : Variables) (vars : Variables) : Variables :=
  vars.foldl
    (fun acc var => acc.set var.1 (var.2.map (expand (acc ++ environment)))) []

/-- The variables of a file with a text; bytes have to encode the text. -/
def read (environment : Variables) (text : String) : Except Fault Variables := do
  Fault.requireEncodable (fun _ => false) text
  return expandAll environment (bindings text)

end QueryChain.VariableFile
