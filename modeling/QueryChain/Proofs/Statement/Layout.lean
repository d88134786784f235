import QueryChain.Proofs.Statement.Name
import QueryChain.Proofs.Statement.Piece

/-!
# The layout of statements

Compiling an operation does two things that do not depend on each other: it checks the names, the
column list and the operands in the order of the text, and it lays the operation out as pieces.
Neither the checks nor the layout know how many values are bound already.

## Main definitions

* `Condition.pieces`, `rowPieces`, `assignmentPieces`, `Operation.pieces` — the layout, without any
  check.
* `Operation.compiled` — the laid-out statement with its placeholders numbered.
* `NameRules.check` — the checks, in the order of the text.

## Main results

* `NameRules.checkCondition_eq_ok_iff`, …, `NameRules.checkReturned_eq_ok_iff` — when each check
  passes.
* `NameRules.isColumnList_of_check` — the column list of what passes is one, or empty.
-/

set_option relaxedAutoImplicit false
set_option autoImplicit false

namespace QueryChain

/-! ### The layout of clauses -/

/-- The keyword for an operand of `IS`. -/
def keywordText : Value → String
  | .null => "NULL"
  | .bool true => "TRUE"
  | _ => "FALSE"

/-- Values with commas between. -/
def valuePieces (vs : List Value) : List Piece := Piece.joined ", " (vs.map fun v => [.value v])

/-- Names with commas between. -/
def namePieces (names : List String) : List Piece :=
  Piece.joined ", " (names.map fun name => [.verbatim name])

namespace Condition

/-- The values that `IN` looks among. -/
def members (c : Condition) : List Value := c.operand.elements?.getD []

/-- A predicate as pieces. -/
def pieces (c : Condition) : List Piece :=
  match c.operator with
  | .isIn =>
    if c.members = [] then [.verbatim "FALSE"]
    else [.verbatim c.column, .verbatim " IN ("] ++ valuePieces c.members ++ [.verbatim ")"]
  | .is => [.verbatim c.column, .verbatim " IS ", .verbatim (keywordText c.operand)]
  | .isNot => [.verbatim c.column, .verbatim " IS NOT ", .verbatim (keywordText c.operand)]
  | operator =>
    [.verbatim c.column, .verbatim " ", .verbatim operator.sql, .verbatim " ", .value c.operand]

end Condition

/-- The `WHERE` clause as pieces. -/
def wherePieces (conditions : List Condition) : List Piece :=
  if conditions = [] then []
  else .verbatim " WHERE " :: Piece.joined " AND " (conditions.map Condition.pieces)

/-- The `ORDER BY` clause as pieces. -/
def orderPieces : Option OrderBy → List Piece
  | none => []
  | some order =>
    [.verbatim " ORDER BY ", .verbatim order.column,
      .verbatim (if order.ascending then " ASC" else " DESC")]

/-- The `LIMIT` clause as pieces. -/
def limitPieces : Option Nat → List Piece
  | none => []
  | some n => [.verbatim " LIMIT ", .verbatim (natText n)]

/-- The columns of a payload, in the order of its first row. -/
def rowColumns (rows : List Fields) : List String := (rows.headD []).map Prod.fst

/-- The values of one row, in the order of the columns. -/
def rowPieces (columns : List String) (row : Fields) : List Piece :=
  [.verbatim "("] ++ valuePieces (columns.filterMap row.get?) ++ [.verbatim ")"]

/-- The part that both kinds of insert begin with. -/
def insertPieces (table : String) (rows : List Fields) : List Piece :=
  [.verbatim "INSERT INTO ", .verbatim table, .verbatim " ("] ++ namePieces (rowColumns rows)
    ++ .verbatim ") VALUES " :: Piece.joined ", " (rows.map (rowPieces (rowColumns rows)))

/-- One column overwritten with the incoming value. -/
def overwritePieces (column : String) : List Piece :=
  [.verbatim column, .verbatim " = EXCLUDED.", .verbatim column]

/-- What an upsert does about rows that collide: every inserted column is overwritten. -/
def conflictPieces (conflict columns : List String) : List Piece :=
  [.verbatim " ON CONFLICT ("] ++ namePieces conflict
    ++ .verbatim ") DO UPDATE SET " :: Piece.joined ", " (columns.map overwritePieces)

/-- One column set to a value. -/
def assignmentPieces (field : String × Value) : List Piece :=
  [.verbatim field.1, .verbatim " = ", .value field.2]

/-- The beginning of the `RETURNING` clause, if there is anything to return. -/
def returningHead (columns : String) : List Piece :=
  if columns = "" then [] else [.verbatim " RETURNING "]

/-! ### The layout of operations -/

namespace Operation

/-- The one column list of an operation: what it selects or returns.  It is empty where nothing is
returned. -/
def columnList : Operation → String
  | select s => s.columns
  | insert s => s.returning.getD ""
  | upsert s => if s.returning.getD "" = "" then "*" else s.returning.getD ""
  | update s => s.returning.getD ""
  | delete s => s.returning.getD ""

/-- The pieces in front of the column list. -/
def front (op : Operation) : List Piece :=
  match op with
  | select _ => [.verbatim "SELECT "]
  | insert s => insertPieces s.table s.rows ++ returningHead op.columnList
  | upsert s =>
    insertPieces s.table s.rows ++ conflictPieces s.conflictColumns (rowColumns s.rows)
      ++ returningHead op.columnList
  | update s =>
    [.verbatim "UPDATE ", .verbatim s.table, .verbatim " SET "]
      ++ Piece.joined ", " (s.values.map assignmentPieces) ++ wherePieces s.conditions
      ++ returningHead op.columnList
  | delete s =>
    [.verbatim "DELETE FROM ", .verbatim s.table] ++ wherePieces s.conditions
      ++ returningHead op.columnList

/-- The pieces behind the column list; only queries for rows have any. -/
def back : Operation → List Piece
  | select s =>
    [.verbatim " FROM ", .verbatim s.table] ++ wherePieces s.conditions ++ orderPieces s.orderBy
      ++ limitPieces s.limit
  | _ => []

/-- An operation as pieces. -/
def pieces (op : Operation) : List Piece := op.front ++ .verbatim op.columnList :: op.back

/-- The statement of an operation that is laid out without any check. -/
def compiled (op : Operation) : Compiled :=
  ⟨Piece.write Binder.dollarMark 0 op.pieces, Piece.values op.pieces⟩

end Operation

/-! ### The checks -/

namespace NameRules

/-- The checks of a predicate. -/
def checkCondition (rules : NameRules) (c : Condition) : Except Failure Unit := do
  let _ ← rules.checkColumn (.text c.column)
  match c.operator with
  | .isIn =>
    let _ ← c.operand.elements.mapError .fault
    return ()
  | .is | .isNot =>
    let _ ← checkKeyword c.operand
    return ()
  | _ => return ()

/-- The checks of predicates one by one. -/
def checkConditions (rules : NameRules) : List Condition → Except Failure Unit
  | [] => .ok ()
  | c :: cs => do
    rules.checkCondition c
    rules.checkConditions cs

/-- The check of an order. -/
def checkOrder (rules : NameRules) : Option OrderBy → Except Failure Unit
  | none => .ok ()
  | some order => do
    let _ ← rules.checkColumn (.text order.column)
    return ()

/-- Refuses rows that lack a column. -/
def checkRowValues (columns : List String) : List Fields → Except Failure Unit
  | [] => .ok ()
  | row :: rows => do
    let _ ← rowValues row columns
    checkRowValues columns rows

/-- The checks of a payload that is inserted. -/
def checkInserted (rules : NameRules) (rows : List Fields) : Except Failure Unit := do
  let _ ← columnNames rows
  let _ ← rules.checkNames (rowColumns rows)
  checkRowValues (rowColumns rows) rows

/-- The checks of the columns that are set. -/
def checkAssigned (rules : NameRules) : Fields → Except Failure Unit
  | [] => .ok ()
  | field :: rest => do
    let _ ← rules.checkPlain (.text "column") (.text field.1)
    rules.checkAssigned rest

/-- The check of a column list that may be empty. -/
def checkReturned (columns : String) : Except Failure Unit :=
  if columns = "" then .ok ()
  else do
    let _ ← checkColumnList (.text columns)
    return ()

/-- The checks of an operation, in the order of its text. -/
def check (rules : NameRules) (op : Operation) : Except Failure Unit :=
  match op with
  | .select s => do
    let _ ← checkColumnList (.text s.columns)
    rules.checkConditions s.conditions
    rules.checkOrder s.orderBy
  | .insert s => do
    rules.checkInserted s.rows
    checkReturned op.columnList
  | .upsert s => do
    rules.checkInserted s.rows
    let _ ← rules.checkNames s.conflictColumns
    checkReturned op.columnList
  | .update s => do
    rules.checkAssigned s.values
    rules.checkConditions s.conditions
    checkReturned op.columnList
  | .delete s => do
    rules.checkConditions s.conditions
    checkReturned op.columnList

/-! ### When the checks pass -/

variable {rules : NameRules}

/-- What a predicate needs beside its column: `IN` values to look among, `IS` a keyword. -/
def OperandFits (c : Condition) : Prop :=
  match c.operator with
  | .isIn => ∃ vs, c.operand.elements = .ok vs
  | .is | .isNot => ∃ keyword, checkKeyword c.operand = .ok keyword
  | _ => True

/-- A predicate passes when its column does and its operand fits its operator. -/
theorem checkCondition_eq_ok_iff {c : Condition} :
    rules.checkCondition c = .ok () ↔
      rules.checkColumn (.text c.column) = .ok c.column ∧ OperandFits c := by
  obtain ⟨column, operator, operand⟩ := c
  have keep {t : String} (h : rules.checkColumn (.text column) = .ok t) :
      rules.checkColumn (.text column) = .ok column := (checkColumn_eq_ok_iff.1 h).1 ▸ h
  have ended {α : Type} {x : Except Failure α} :
      ((x >>= fun _ => .ok ()) : Except Failure Unit) = .ok () ↔ ∃ a, x = .ok a := by
    simp [bind_eq_ok]
  simp only [checkCondition, bind_eq_ok]
  constructor
  · rintro ⟨text, hc, operand_fits⟩
    refine ⟨keep hc, ?_⟩
    cases operator
    case isIn => simpa [OperandFits, mapError_eq_ok] using ended.1 operand_fits
    case is => exact ended.1 operand_fits
    case isNot => exact ended.1 operand_fits
    all_goals trivial
  · rintro ⟨hc, operand_fits⟩
    refine ⟨column, hc, ?_⟩
    cases operator
    case isIn => exact ended.2 (by simpa [OperandFits, mapError_eq_ok] using operand_fits)
    case is => exact ended.2 operand_fits
    case isNot => exact ended.2 operand_fits
    all_goals rfl

/-- Predicates pass together when each of them does. -/
theorem checkConditions_eq_ok_iff {cs : List Condition} :
    rules.checkConditions cs = .ok () ↔ ∀ c ∈ cs, rules.checkCondition c = .ok () := by
  induction cs with
  | nil => simp [checkConditions]
  | cons c cs ih => simp [checkConditions, unit_bind_eq_ok, ih]

/-- An order passes when its column does. -/
theorem checkOrder_eq_ok_iff {order : Option OrderBy} :
    rules.checkOrder order = .ok () ↔
      ∀ o ∈ order, rules.checkColumn (.text o.column) = .ok o.column := by
  cases order with
  | none => simp [checkOrder]
  | some o =>
    simp only [checkOrder, bind_eq_ok, Option.mem_some_iff, forall_eq']
    constructor
    · rintro ⟨text, hc, -⟩
      exact (checkColumn_eq_ok_iff.1 hc).1 ▸ hc
    · exact fun hc => ⟨_, hc, rfl⟩

/-- Rows pass when each of them has every column. -/
theorem checkRowValues_eq_ok_iff {columns : List String} {rows : List Fields} :
    checkRowValues columns rows = .ok () ↔
      ∀ row ∈ rows, ∃ vs : List Value, columns.map row.get? = vs.map some := by
  induction rows with
  | nil => simp [checkRowValues]
  | cons row rows ih => simp [checkRowValues, bind_eq_ok, rowValues_eq_ok_iff, ih]

/-- A payload passes when it has a row, the columns are plain names, and every row has them. -/
theorem checkInserted_eq_ok_iff {rows : List Fields} :
    rules.checkInserted rows = .ok () ↔
      rows ≠ [] ∧
        (∀ name ∈ rowColumns rows, rules.checkPlain (.text "column") (.text name) = .ok name) ∧
        ∀ row ∈ rows, ∃ vs : List Value, (rowColumns rows).map row.get? = vs.map some := by
  have columns_found : (∃ columns, columnNames rows = .ok columns) ↔ rows ≠ [] := by
    cases rows <;> simp [columnNames]
  simp only [checkInserted, bind_eq_ok, checkRowValues_eq_ok_iff, checkNames_eq_ok_iff,
    exists_and_right, columns_found]
  simp

/-- Assignments pass when their columns are plain names. -/
theorem checkAssigned_eq_ok_iff {fields : Fields} :
    rules.checkAssigned fields = .ok () ↔
      ∀ field ∈ fields, rules.checkPlain (.text "column") (.text field.1) = .ok field.1 := by
  induction fields with
  | nil => simp [checkAssigned]
  | cons field fields ih =>
    simp only [checkAssigned, bind_eq_ok, ih, List.forall_mem_cons]
    constructor
    · rintro ⟨name, hname, hrest⟩
      exact ⟨(checkPlain_eq_ok_iff.1 hname).1 ▸ hname, hrest⟩
    · rintro ⟨hname, hrest⟩
      exact ⟨_, hname, hrest⟩

/-- A column list that may be empty passes when it is empty or passes. -/
theorem checkReturned_eq_ok_iff {columns : String} :
    checkReturned columns = .ok () ↔
      columns = "" ∨ checkColumnList (.text columns) = .ok columns := by
  by_cases empty : columns = ""
  · simp [checkReturned, empty]
  · rw [checkReturned, if_neg empty, bind_eq_ok, or_iff_right empty]
    constructor
    · rintro ⟨text, hc, -⟩
      exact (checkColumnList_eq_ok_iff.1 hc).1 ▸ hc
    · exact fun hc => ⟨_, hc, rfl⟩

/-- The column list of an operation that passes is one, or empty. -/
theorem isColumnList_of_check {op : Operation} (h : rules.check op = .ok ()) :
    Name.isColumnList op.columnList.toList = true := by
  have of_returned {columns : String} (h : checkReturned columns = .ok ()) :
      Name.isColumnList columns.toList = true := by
    rcases checkReturned_eq_ok_iff.1 h with rfl | h
    · rfl
    · exact (checkColumnList_eq_ok_iff.1 h).2.2
  cases op with
  | select s =>
    obtain ⟨columns, hc, -⟩ := bind_eq_ok.1 h
    exact (checkColumnList_eq_ok_iff.1 hc).2.2
  | insert s =>
    exact of_returned (unit_bind_eq_ok.1 h).2
  | upsert s =>
    obtain ⟨-, -, returned⟩ := bind_eq_ok.1 (unit_bind_eq_ok.1 h).2
    exact of_returned returned
  | update s =>
    exact of_returned (unit_bind_eq_ok.1 (unit_bind_eq_ok.1 h).2).2
  | delete s =>
    exact of_returned (unit_bind_eq_ok.1 h).2

/-- The column list of an operation that passes consists of the characters of column lists. -/
theorem all_isListed_of_check {op : Operation} (h : rules.check op = .ok ()) :
    op.columnList.toList.all Name.isListed = true := by
  have list := isColumnList_of_check h
  rw [Name.isColumnList, Bool.and_eq_true] at list
  exact list.1

end NameRules

end QueryChain
