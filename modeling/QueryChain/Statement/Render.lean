import QueryChain.Statement.Binder
import QueryChain.Statement.Operation
import QueryChain.Value.Access

/-!
# Writing statements

An operation is written as one line of text, with one space between clauses.  Names are checked as
they are written, values are bound as the text reaches them, and nothing else enters the text but
keywords and punctuation.

## Main definitions

* `LoosePredicate` — a predicate whose parts are checked only when it is written.
* `NameRules.renderPredicate`, `renderWhere` — predicates, and the clause that joins them.
* `NameRules.renderRows`, `renderAssignments`, `renderReturning` — the other clauses.
* `NameRules.render` — an operation.
* `Compiled`, `NameRules.compile` — the text of an operation with its parameters.
-/

set_option relaxedAutoImplicit false
set_option autoImplicit false

namespace QueryChain

/-- A predicate whose parts are checked only when it is written. -/
structure LoosePredicate where
  column : Value
  operator : Value
  operand : Value
deriving Repr

/-- A condition as a predicate. -/
def Condition.toPredicate (c : Condition) : LoosePredicate :=
  ⟨.text c.column, .text c.operator.sql, c.operand⟩

/-- The texts of a list with commas between. -/
def commaList (parts : List String) : String := String.intercalate ", " parts

namespace NameRules

/-- Writes a predicate.  `IN` binds every element in order, and `FALSE` stands for an empty list,
which nothing can match; `IS` and `IS NOT` write a keyword and bind nothing; every other operator
binds its operand. -/
def renderPredicate (rules : NameRules) (p : LoosePredicate) : Rendering String := do
  let column ← .ofExcept (rules.checkColumn p.column)
  match ← .ofExcept (Operator.ofValue p.operator) with
  | .isIn =>
    match ← .ofExcept (p.operand.elements.mapError .fault) with
    | [] => return "FALSE"
    | values =>
      let marks ← bindValues values
      return column ++ " IN (" ++ commaList marks ++ ")"
  | .is =>
    let keyword ← .ofExcept (checkKeyword p.operand)
    return column ++ " IS " ++ keyword
  | .isNot =>
    let keyword ← .ofExcept (checkKeyword p.operand)
    return column ++ " IS NOT " ++ keyword
  | operator =>
    let mark ← bindValue p.operand
    return column ++ " " ++ operator.sql ++ " " ++ mark

/-- Writes predicates one by one. -/
def renderPredicates (rules : NameRules) : List LoosePredicate → Rendering (List String)
  | [] => pure []
  | p :: ps => do
    let text ← rules.renderPredicate p
    let texts ← rules.renderPredicates ps
    return text :: texts

/-- Writes the `WHERE` clause, empty without predicates; all predicates have to hold. -/
def renderWhere (rules : NameRules) (ps : List LoosePredicate) : Rendering String :=
  if ps.isEmpty then pure ""
  else do
    let texts ← rules.renderPredicates ps
    return " WHERE " ++ String.intercalate " AND " texts

/-- The values of a row under given columns, in their order. -/
def rowValues (row : Fields) : List String → Except Failure (List Value)
  | [] => .ok []
  | column :: columns =>
    match row.get? column with
    | some v => (rowValues row columns).map (v :: ·)
    | none => .error (.fault (.missingKey (Value.text column).literal))

/-- Writes rows of placeholders, each bound in the order of the columns. -/
def renderRowList (columns : List String) : List Fields → Rendering (List String)
  | [] => pure []
  | row :: rows => do
    let values ← .ofExcept (rowValues row columns)
    let marks ← bindValues values
    let texts ← renderRowList columns rows
    return ("(" ++ commaList marks ++ ")") :: texts

/-- Writes the rows of `VALUES`. -/
def renderRows (rows : List Fields) (columns : List String) : Rendering String := do
  return commaList (← renderRowList columns rows)

/-- Writes assignments one by one. -/
def renderAssignmentList (rules : NameRules) : Value.Entries → Rendering (List String)
  | [] => pure []
  | (name, value) :: rest => do
    let column ← .ofExcept (rules.checkPlain (.text "column") name)
    let mark ← bindValue value
    let texts ← rules.renderAssignmentList rest
    return (column ++ " = " ++ mark) :: texts

/-- Writes the assignments of `SET`, in key order. -/
def renderAssignments (rules : NameRules) (entries : Value.Entries) : Rendering String := do
  return commaList (← rules.renderAssignmentList entries)

/-- Writes the `RETURNING` clause, empty when nothing is to be returned. -/
def renderReturning (returning : Value) : Rendering String :=
  if returning.truthy then do
    let columns ← .ofExcept (checkColumnList returning)
    return " RETURNING " ++ columns
  else pure ""

/-- A column list that may be absent, as a value. -/
def optionalText : Option String → Value
  | some s => .text s
  | none => .null

/-- Checks plain names one by one. -/
def checkNames (rules : NameRules) : List String → Except Failure (List String)
  | [] => .ok []
  | name :: names => do
    let checked ← rules.checkPlain (.text "column") (.text name)
    return checked :: (← rules.checkNames names)

/-- Writes the `ORDER BY` clause. -/
def renderOrder (rules : NameRules) : Option OrderBy → Rendering String
  | none => pure ""
  | some order => do
    let column ← .ofExcept (rules.checkColumn (.text order.column))
    return " ORDER BY " ++ column ++ (if order.ascending then " ASC" else " DESC")

/-- Writes the `LIMIT` clause. -/
def renderLimit : Option Nat → String
  | none => ""
  | some n => " LIMIT " ++ natText n

/-- Writes a query for rows. -/
def renderSelect (rules : NameRules) (s : Select) : Rendering String := do
  let columns ← .ofExcept (checkColumnList (.text s.columns))
  let filter ← rules.renderWhere (s.conditions.map Condition.toPredicate)
  let order ← rules.renderOrder s.orderBy
  return "SELECT " ++ columns ++ " FROM " ++ s.table ++ filter ++ order ++ renderLimit s.limit

/-- Writes the part that both kinds of insert begin with. -/
def renderInsertHead (rules : NameRules) (table : String) (rows : List Fields) :
    Rendering String := do
  let names ← .ofExcept (columnNames rows)
  let columns ← .ofExcept (rules.checkNames names)
  let values ← renderRows rows columns
  return "INSERT INTO " ++ table ++ " (" ++ commaList columns ++ ") VALUES " ++ values

/-- Writes an insert. -/
def renderInsert (rules : NameRules) (s : Insert) : Rendering String := do
  let head ← rules.renderInsertHead s.table s.rows
  let returning ← renderReturning (optionalText s.returning)
  return head ++ returning

/-- One column overwritten with the incoming value. -/
def overwrite (column : String) : String := column ++ " = EXCLUDED." ++ column

/-- Writes an upsert.  Every inserted column is overwritten, the conflict columns included, and the
statement always returns rows. -/
def renderUpsert (rules : NameRules) (s : Upsert) : Rendering String := do
  let head ← rules.renderInsertHead s.table s.rows
  let conflict ← .ofExcept (rules.checkNames s.conflictColumns)
  let names ← .ofExcept (columnNames s.rows)
  let returning ←
    renderReturning (.text (if s.returning.getD "" = "" then "*" else s.returning.getD ""))
  return head ++ " ON CONFLICT (" ++ commaList conflict ++ ") DO UPDATE SET "
    ++ commaList (names.map overwrite) ++ returning

/-- Writes an update; the values set are bound before those compared. -/
def renderUpdate (rules : NameRules) (s : Update) : Rendering String := do
  let assignments ←
    rules.renderAssignments (s.values.map fun field => (.text field.1, field.2))
  let filter ← rules.renderWhere (s.conditions.map Condition.toPredicate)
  let returning ← renderReturning (optionalText s.returning)
  return "UPDATE " ++ s.table ++ " SET " ++ assignments ++ filter ++ returning

/-- Writes a deletion. -/
def renderDelete (rules : NameRules) (s : Delete) : Rendering String := do
  let filter ← rules.renderWhere (s.conditions.map Condition.toPredicate)
  let returning ← renderReturning (optionalText s.returning)
  return "DELETE FROM " ++ s.table ++ filter ++ returning

/-- Writes an operation. -/
def render (rules : NameRules) : Operation → Rendering String
  | .select s => rules.renderSelect s
  | .insert s => rules.renderInsert s
  | .upsert s => rules.renderUpsert s
  | .update s => rules.renderUpdate s
  | .delete s => rules.renderDelete s

end NameRules

/-- A statement ready to run: its text and its parameters, the first one for `$1`. -/
structure Compiled where
  sql : String
  params : List Value
deriving Repr

/-- Writes an operation in one pass with the placeholders `$1`, `$2`, …. -/
def NameRules.compile (rules : NameRules) (op : Operation) : Except Failure Compiled :=
  match (rules.render op).run Binder.dollar with
  | (.ok sql, b) => .ok ⟨sql, b.bound⟩
  | (.error e, _) => .error e

end QueryChain
