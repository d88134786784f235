import QueryChain.Settings.Database
import QueryChain.Text.UpperCase

/-!
# What a span says of a statement

The span of a statement names the kind of database, the verb and the table of the statement, its
text, and how many parameters it has.  The parameters themselves are not named.

## Main definitions

* `Statement.clipped` — the text of a statement, cut when it is very long.
* `Statement.table?` — the word behind the keyword that a table follows.
* `Statement.attributes` — the attributes of a span.
-/

set_option relaxedAutoImplicit false
set_option autoImplicit false

namespace QueryChain.Statement

/-- The most characters of a statement on a span. -/
def maxLength : Nat := 4096

/-- The text of a statement without blanks at its ends; a longer one is cut and ends in dots. -/
def clipped (sql : String) : List Char :=
  let cs := Text.stripChars sql.toList
  if maxLength < cs.length then cs.take (maxLength - 3) ++ ['.', '.', '.'] else cs

/-- The keywords that a table follows, in the order in which they are looked for. -/
def tableKeywords : List String := ["FROM", "INTO", "UPDATE"]

/-- The word behind the first of some words that is a keyword in upper case. -/
def wordAfter? (keyword : String) (words : List String) : Option (Option String) :=
  match words.dropWhile fun word => Text.upper word != keyword with
  | [] => none
  | _ :: rest => some rest.head?

/-- The table of a statement, given its words.  A keyword that is the last word is passed over. -/
def table? (words : List String) : Option String :=
  tableKeywords.findSome? fun keyword => (wordAfter? keyword words).join

/-- The verb of a statement, given its words. -/
def verb (words : List String) : String := (words.head?.map Text.upper).getD ""

/-- The words of a statement as a span shows it. -/
def shownWords (sql : String) : List String := (Text.wordsOf (clipped sql)).map String.ofList

/-- The attributes of a span for a statement with a number of parameters. -/
def attributes (system sql : String) (paramCount : Nat) : Fields :=
  let text := clipped sql
  let words := shownWords sql
  [("db.system", .text system), ("db.operation", .text (verb words)),
    ("db.statement", .text (String.ofList text)), ("db.statement.length", .int text.length),
    ("db.parameter_count", .int paramCount)]
    ++ match table? words with
      | some table => if table = "" then [] else [("db.sql.table", .text table)]
      | none => []

end QueryChain.Statement
