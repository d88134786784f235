import Mathlib.Data.List.Forall2
import QueryChain.Proofs.Schema.Operations
import QueryChain.Proofs.Statement.Compile

/-!
# Texts of statements do not depend on values

Two operations with the same outline differ in nothing but the values that they bind: in the values
of their payloads, in the operands of comparisons and in what `IN` looks among.  They compile to the
same text, or fail in the same way.

## Main definitions

* `Piece.blank` — a piece without its value.
* `SameCondition`, `SamePayload`, `SameOutline` — what two operations have to agree on.
* `Operation.PayloadChecked` — the rows of an operation passed the check of payloads.

## Main results

* `Piece.write_congr` — pieces that differ in values only have the same text.
* `SameOutline.pieces_eq`, `SameOutline.check_eq` — operations of the same outline have the same
  pieces but for their values, and pass the same checks.
* `NameRules.compile_sql_eq` — operations of the same outline have the same text or failure.
-/

set_option relaxedAutoImplicit false
set_option autoImplicit false

namespace QueryChain

/-! ### Pieces without their values -/

namespace Piece

/-- A piece without its value. -/
def blank : Piece → Piece
  | verbatim s => verbatim s
  | value _ => value .null

/-- Leaving values out does not change the text. -/
theorem write_map_blank (mark : Nat → String) (k : Nat) (ps : List Piece) :
    write mark k (ps.map blank) = write mark k ps := by
  induction ps generalizing k with
  | nil => rfl
  | cons p ps ih => cases p <;> simp [blank, write, ih]

/-- Pieces that differ in values only have the same text. -/
theorem write_congr {ps qs : List Piece} (h : ps.map blank = qs.map blank) (mark : Nat → String)
    (k : Nat) : write mark k ps = write mark k qs := by
  rw [← write_map_blank, h, write_map_blank]

/-- Values are left out of joined lists one by one. -/
theorem map_blank_joined (sep : String) (pss : List (List Piece)) :
    (joined sep pss).map blank = joined sep (pss.map (List.map blank)) := by
  induction pss with
  | nil => rfl
  | cons ps pss ih =>
    cases pss with
    | nil => rfl
    | cons qs qss =>
      have rest : (joined sep (qs :: qss)).map blank
          = joined sep (qs.map blank :: qss.map (List.map blank)) := ih
      simp [joined, blank, rest]

end Piece

open Piece

/-- Of values with commas between only the number shows. -/
theorem map_blank_valuePieces (vs : List Value) :
    (valuePieces vs).map blank = joined ", " (List.replicate vs.length [.value .null]) := by
  have each : (vs.map fun v => [Piece.value v]).map (List.map blank)
      = List.replicate vs.length [.value .null] := by
    rw [List.map_map]
    show vs.map (fun _ => [Piece.value .null]) = _
    exact List.map_const'
  rw [valuePieces, map_blank_joined, each]

/-! ### What has to agree -/

/-- Two predicates on the same column with the same operator.  `IN` has to look among as many
values, and `IS` and `IS NOT` have to ask for the same. -/
def SameCondition (c d : Condition) : Prop :=
  c.column = d.column ∧ c.operator = d.operator ∧
    match c.operator with
    | .isIn =>
      ∃ xs ys, c.operand.elements? = some xs ∧ d.operand.elements? = some ys
        ∧ xs.length = ys.length
    | .is | .isNot => c.operand = d.operand
    | _ => True

/-- Two payloads with the same columns in their first rows, in the same order, and as many rows. -/
def SamePayload (rows others : List Fields) : Prop :=
  rowColumns rows = rowColumns others ∧ rows.length = others.length

/-- Two operations of the same kind that agree on their table, their columns, what they return,
their conflict columns, their order and limit, the names of their payloads, and the outline of their
conditions. -/
inductive SameOutline : Operation → Operation → Prop
  | select {s t : Select} (table : s.table = t.table) (columns : s.columns = t.columns)
      (conditions : List.Forall₂ SameCondition s.conditions t.conditions)
      (order : s.orderBy = t.orderBy) (limit : s.limit = t.limit) :
      SameOutline (.select s) (.select t)
  | insert {s t : Insert} (table : s.table = t.table) (payload : SamePayload s.rows t.rows)
      (returning : s.returning = t.returning) : SameOutline (.insert s) (.insert t)
  | upsert {s t : Upsert} (table : s.table = t.table) (payload : SamePayload s.rows t.rows)
      (returning : s.returning = t.returning) (conflict : s.conflictColumns = t.conflictColumns) :
      SameOutline (.upsert s) (.upsert t)
  | update {s t : Update} (table : s.table = t.table)
      (names : s.values.map Prod.fst = t.values.map Prod.fst)
      (conditions : List.Forall₂ SameCondition s.conditions t.conditions)
      (returning : s.returning = t.returning) : SameOutline (.update s) (.update t)
  | delete {s t : Delete} (table : s.table = t.table)
      (conditions : List.Forall₂ SameCondition s.conditions t.conditions)
      (returning : s.returning = t.returning) : SameOutline (.delete s) (.delete t)

/-- The rows of an operation passed the check that every operation makes of its payload; the names
in one row are different. -/
def Operation.PayloadChecked : Operation → Prop
  | .insert s => checkRows s.rows = .ok s.rows ∧ ∀ row ∈ s.rows, (row.map Prod.fst).Nodup
  | .upsert s => checkRows s.rows = .ok s.rows ∧ ∀ row ∈ s.rows, (row.map Prod.fst).Nodup
  | _ => True

/-- Every row has the columns of the first one. -/
def Complete (rows : List Fields) : Prop :=
  ∀ row ∈ rows, ∀ name ∈ rowColumns rows, row.has name = true

/-! ### Conditions -/

/-- Predicates of the same outline have the same pieces but for their values. -/
theorem SameCondition.pieces_eq {c d : Condition} (h : SameCondition c d) :
    c.pieces.map blank = d.pieces.map blank := by
  obtain ⟨column, operator, operand⟩ := c
  obtain ⟨column', operator', operand'⟩ := d
  obtain ⟨rfl, rfl, operands⟩ := h
  cases operator
  case isIn =>
    obtain ⟨xs, ys, hxs, hys, size⟩ := operands
    have members : Condition.members ⟨column, .isIn, operand⟩ = xs := by
      simp only [Condition.members, hxs, Option.getD_some]
    have members' : Condition.members ⟨column, .isIn, operand'⟩ = ys := by
      simp only [Condition.members, hys, Option.getD_some]
    have together : xs = [] ↔ ys = [] := by
      rw [← List.length_eq_zero_iff, ← List.length_eq_zero_iff, size]
    simp only [Condition.pieces, members, members', together]
    split
    · rfl
    · simp only [List.map_append, map_blank_valuePieces, size]
  case is =>
    obtain rfl : operand = operand' := operands
    rfl
  case isNot =>
    obtain rfl : operand = operand' := operands
    rfl
  all_goals rfl

/-- Predicates of the same outline pass the same check. -/
theorem SameCondition.check_eq {c d : Condition} (h : SameCondition c d) (rules : NameRules) :
    rules.checkCondition c = rules.checkCondition d := by
  obtain ⟨column, operator, operand⟩ := c
  obtain ⟨column', operator', operand'⟩ := d
  obtain ⟨rfl, rfl, operands⟩ := h
  cases operator
  case isIn =>
    obtain ⟨xs, ys, hxs, hys, -⟩ := operands
    simp only [NameRules.checkCondition, Value.elements, hxs, hys]
    rfl
  case is =>
    obtain rfl : operand = operand' := operands
    rfl
  case isNot =>
    obtain rfl : operand = operand' := operands
    rfl
  all_goals rfl

/-- `WHERE` clauses of the same outline have the same pieces but for their values. -/
theorem wherePieces_congr {cs ds : List Condition} (h : List.Forall₂ SameCondition cs ds) :
    (wherePieces cs).map blank = (wherePieces ds).map blank := by
  have each : (cs.map Condition.pieces).map (List.map blank)
      = (ds.map Condition.pieces).map (List.map blank) := by
    induction h with
    | nil => rfl
    | cons first rest ih => simp only [List.map_cons, first.pieces_eq, ih]
  cases h with
  | nil => rfl
  | cons first rest =>
    simp only [wherePieces, reduceCtorEq, if_false, List.map_cons, map_blank_joined] at each ⊢
    rw [each]

/-- Predicates of the same outline pass the same checks. -/
theorem checkConditions_congr {cs ds : List Condition} (h : List.Forall₂ SameCondition cs ds)
    (rules : NameRules) : rules.checkConditions cs = rules.checkConditions ds := by
  induction h with
  | nil => rfl
  | cons first rest ih =>
    rw [NameRules.checkConditions, NameRules.checkConditions, first.check_eq rules, ih]

/-! ### Payloads -/

/-- Of a row that has the columns only their number shows. -/
theorem map_blank_rowPieces {columns : List String} {row : Fields}
    (h : ∀ name ∈ columns, row.has name = true) :
    (rowPieces columns row).map blank
      = .verbatim "(" :: joined ", " (List.replicate columns.length [.value .null])
        ++ [.verbatim ")"] := by
  obtain ⟨vs, hvs⟩ := Fields.exists_values_of_has h
  have values : columns.filterMap row.get? = vs :=
    (NameRules.eq_of_rowValues (NameRules.rowValues_eq_ok_iff.2 hvs)).symm
  have size : vs.length = columns.length := by
    have lengths := congrArg List.length hvs
    rw [List.length_map, List.length_map] at lengths
    exact lengths.symm
  simp only [rowPieces, values, List.map_append, map_blank_valuePieces, size]
  rfl

/-- The beginnings of inserts with the same columns and as many complete rows. -/
theorem insertPieces_congr {table table' : String} {rows others : List Fields}
    (same_table : table = table') (same : SamePayload rows others) (complete : Complete rows)
    (complete' : Complete others) :
    (insertPieces table rows).map blank = (insertPieces table' others).map blank := by
  obtain ⟨columns, size⟩ := same
  subst same_table
  have each {rows : List Fields} (h : Complete rows) :
      (rows.map (rowPieces (rowColumns rows))).map (List.map blank)
        = List.replicate rows.length (.verbatim "("
            :: joined ", " (List.replicate (rowColumns rows).length [.value .null])
            ++ [.verbatim ")"]) := by
    rw [List.map_map, List.eq_replicate_iff]
    refine ⟨by rw [List.length_map], fun ps hps => ?_⟩
    obtain ⟨row, hrow, rfl⟩ := List.mem_map.1 hps
    exact map_blank_rowPieces (h row hrow)
  have first := each complete
  have second := each complete'
  rw [columns, size] at first
  simp only [insertPieces, List.map_append, List.map_cons, map_blank_joined, columns]
  rw [first, second]

/-- Complete rows pass their check. -/
theorem checkRowValues_of_complete {rows : List Fields} (h : Complete rows) :
    NameRules.checkRowValues (rowColumns rows) rows = .ok () :=
  NameRules.checkRowValues_eq_ok_iff.2 fun row hrow => Fields.exists_values_of_has (h row hrow)

/-- Payloads with the same columns and as many complete rows pass the same checks. -/
theorem checkInserted_congr {rows others : List Fields} (same : SamePayload rows others)
    (complete : Complete rows) (complete' : Complete others) (rules : NameRules) :
    rules.checkInserted rows = rules.checkInserted others := by
  have values := checkRowValues_of_complete complete
  have values' := checkRowValues_of_complete complete'
  obtain ⟨columns, size⟩ := same
  cases rows with
  | nil =>
    obtain rfl := List.length_eq_zero_iff.1 size.symm
    rfl
  | cons row rows =>
    cases others with
    | nil => cases size
    | cons other others =>
      rw [columns] at values
      simp only [NameRules.checkInserted, columns, values, values']
      rfl

/-- Assignments to the same columns have the same pieces but for their values. -/
theorem assignments_congr {fields others : Fields}
    (h : fields.map Prod.fst = others.map Prod.fst) :
    (joined ", " (fields.map assignmentPieces)).map blank
      = (joined ", " (others.map assignmentPieces)).map blank := by
  have each (fields : Fields) : (fields.map assignmentPieces).map (List.map blank)
      = (fields.map Prod.fst).map fun name =>
        [.verbatim name, .verbatim " = ", .value .null] := by
    rw [List.map_map, List.map_map]
    rfl
  rw [map_blank_joined, map_blank_joined, each, each, h]

/-- Assignments to the same columns pass the same checks. -/
theorem checkAssigned_congr {fields others : Fields}
    (h : fields.map Prod.fst = others.map Prod.fst) (rules : NameRules) :
    rules.checkAssigned fields = rules.checkAssigned others := by
  induction fields generalizing others with
  | nil =>
    obtain rfl := List.map_eq_nil_iff.1 h.symm
    rfl
  | cons field fields ih =>
    cases others with
    | nil => cases h
    | cons other others =>
      obtain ⟨name, rest⟩ := List.cons.inj h
      rw [NameRules.checkAssigned, NameRules.checkAssigned, name, ih rest]

/-! ### Operations -/

namespace SameOutline

variable {a b : Operation}

/-- The rows of an operation that passed its check are complete. -/
theorem complete_of_payloadChecked {rows : List Fields}
    (h : checkRows rows = .ok rows ∧ ∀ row ∈ rows, (row.map Prod.fst).Nodup) : Complete rows :=
  has_of_checkRows h.2 h.1

/-- Operations of the same outline have the same pieces but for their values. -/
theorem pieces_eq (h : SameOutline a b) (ha : a.PayloadChecked) (hb : b.PayloadChecked) :
    a.pieces.map blank = b.pieces.map blank := by
  cases h with
  | select table columns conditions order limit =>
    simp only [Operation.pieces, Operation.front, Operation.back, Operation.columnList,
      List.map_append, List.map_cons, table, columns, wherePieces_congr conditions, order, limit]
  | insert table payload returning =>
    have head := insertPieces_congr table payload (complete_of_payloadChecked ha)
      (complete_of_payloadChecked hb)
    simp only [Operation.pieces, Operation.front, Operation.back, Operation.columnList,
      List.map_append, List.map_cons, head, returning]
  | upsert table payload returning conflict =>
    have head := insertPieces_congr table payload (complete_of_payloadChecked ha)
      (complete_of_payloadChecked hb)
    simp only [Operation.pieces, Operation.front, Operation.back, Operation.columnList,
      List.map_append, List.map_cons, head, returning, conflict, payload.1]
  | update table names conditions returning =>
    simp only [Operation.pieces, Operation.front, Operation.back, Operation.columnList,
      List.map_append, List.map_cons, table, assignments_congr names,
      wherePieces_congr conditions, returning]
  | delete table conditions returning =>
    simp only [Operation.pieces, Operation.front, Operation.back, Operation.columnList,
      List.map_append, List.map_cons, table, wherePieces_congr conditions, returning]

/-- Operations of the same outline pass the same checks. -/
theorem check_eq (h : SameOutline a b) (ha : a.PayloadChecked) (hb : b.PayloadChecked)
    (rules : NameRules) : rules.check a = rules.check b := by
  cases h with
  | select table columns conditions order limit =>
    simp only [NameRules.check, columns, checkConditions_congr conditions rules, order]
  | insert table payload returning =>
    have inserted := checkInserted_congr payload (complete_of_payloadChecked ha)
      (complete_of_payloadChecked hb) rules
    simp only [NameRules.check, Operation.columnList, inserted, returning]
  | upsert table payload returning conflict =>
    have inserted := checkInserted_congr payload (complete_of_payloadChecked ha)
      (complete_of_payloadChecked hb) rules
    simp only [NameRules.check, Operation.columnList, inserted, returning, conflict]
  | update table names conditions returning =>
    simp only [NameRules.check, Operation.columnList, checkAssigned_congr names rules,
      checkConditions_congr conditions rules, returning]
  | delete table conditions returning =>
    simp only [NameRules.check, Operation.columnList, checkConditions_congr conditions rules,
      returning]

end SameOutline

namespace NameRules

/-- **The text of a statement does not depend on the values that it binds.**  Two operations of the
same outline compile to the same text, or both fail with the same error, whatever the values of
their payloads, the operands of their comparisons and the elements of their lists are.

**Proof sketch.**  Compiling is checking and laying out.  The checks look at names and at the
operands of `IS` only, and the layout has a value wherever the other one has a value, so that the
marks are numbered in the same way. -/
theorem compile_sql_eq {rules : NameRules} {a b : Operation} (ha : a.PayloadChecked)
    (hb : b.PayloadChecked) (h : SameOutline a b) :
    (rules.compile a).map Compiled.sql = (rules.compile b).map Compiled.sql := by
  have text : a.compiled.sql = b.compiled.sql := write_congr (h.pieces_eq ha hb) _ 0
  rw [compile_eq, compile_eq, h.check_eq ha hb rules]
  cases rules.check b with
  | error e => rfl
  | ok u => exact congrArg Except.ok text

/-- Two upserts whose second rows have their keys in different orders. -/
theorem compile_sql_eq_rows :
    let a := Operation.upsert
      ⟨"users", [[("id", .int 1), ("name", .text "a")], [("id", .int 2), ("name", .null)]],
        some "*", ["id"]⟩
    let b := Operation.upsert
      ⟨"users", [[("id", .int 7), ("name", .bool true)], [("name", .text "c"), ("id", .int 8)]],
        some "*", ["id"]⟩
    a.PayloadChecked ∧ b.PayloadChecked ∧ SameOutline a b
      ∧ (compile ⟨63, "id"⟩ a).map Compiled.sql = (compile ⟨63, "id"⟩ b).map Compiled.sql := by
  intro a b
  have ha : a.PayloadChecked := ⟨rfl, by decide⟩
  have hb : b.PayloadChecked := ⟨rfl, by decide⟩
  have outline : SameOutline a b := .upsert rfl ⟨rfl, rfl⟩ rfl rfl
  exact ⟨ha, hb, outline, compile_sql_eq ha hb outline⟩

end NameRules

end QueryChain
