import Mathlib.Data.List.Forall2
import QueryChain.Proofs.Statement.Compile

/-!
# What a statement tells about its operation

Two operations match if they differ in nothing that their statements tell: in nothing but the column
of a condition that looks among nothing, the order of the names in rows after the first, and the
ways to say that nothing or everything is returned.  The layouts of matching operations differ in
nothing but values that correspond.

Which values correspond is a parameter.  It may be equality, or what counts as equal elsewhere.

## Main definitions

* `MatchingCondition`, `MatchingFields`, `SameMapping`, `MatchingRows`, `Matching` — parts of
  operations, and operations, that differ in nothing that is told.
* `Piece.Corresponds` — the same verbatim piece, or values that correspond.

## Main results

* `Matching.pieces` — the layouts of matching operations correspond piece by piece.
* `Piece.write_of_corresponds` — pieces that correspond have the same text.
-/

set_option relaxedAutoImplicit false
set_option autoImplicit false

namespace QueryChain

variable {E : Value → Value → Prop}

/-! ### What a statement tells -/

/-- Two conditions with the same operator and column and with corresponding operands.  The column of
a condition that looks among nothing is not told. -/
def MatchingCondition (E : Value → Value → Prop) (c d : Condition) : Prop :=
  c.operator = d.operator ∧
    match c.operator with
    | .isIn =>
      ∃ xs ys, c.operand = .list xs ∧ d.operand = .list ys ∧ List.Forall₂ E xs ys
        ∧ (xs ≠ [] → c.column = d.column)
    | .is | .isNot => c.column = d.column ∧ c.operand = d.operand
    | _ => c.column = d.column ∧ E c.operand d.operand

/-- Two rows with the same names in the same order, and corresponding values. -/
def MatchingFields (E : Value → Value → Prop) (row other : Fields) : Prop :=
  List.Forall₂ (fun field field' => field.1 = field'.1 ∧ E field.2 field'.2) row other

/-- Two rows that have corresponding values, or none, under every name. -/
def SameMapping (E : Value → Value → Prop) (row other : Fields) : Prop :=
  ∀ name, Option.Rel E (row.get? name) (other.get? name)

/-- Two payloads whose first rows have the same columns in the same order, and whose rows are the
same mappings. -/
def MatchingRows (E : Value → Value → Prop) (rows others : List Fields) : Prop :=
  rowColumns rows = rowColumns others ∧ List.Forall₂ (SameMapping E) rows others

/-- Two operations of the same kind that differ in nothing that a statement tells. -/
inductive Matching (E : Value → Value → Prop) : Operation → Operation → Prop
  | select {s t : Select} (table : s.table = t.table) (columns : s.columns = t.columns)
      (conditions : List.Forall₂ (MatchingCondition E) s.conditions t.conditions)
      (order : s.orderBy = t.orderBy) (limit : s.limit = t.limit) :
      Matching E (.select s) (.select t)
  | insert {s t : Insert} (table : s.table = t.table) (payload : MatchingRows E s.rows t.rows)
      (returning : s.returning.getD "" = t.returning.getD "") : Matching E (.insert s) (.insert t)
  | upsert {s t : Upsert} (table : s.table = t.table) (payload : MatchingRows E s.rows t.rows)
      (conflict : s.conflictColumns = t.conflictColumns)
      (returning : (Operation.upsert s).columnList = (Operation.upsert t).columnList) :
      Matching E (.upsert s) (.upsert t)
  | update {s t : Update} (table : s.table = t.table)
      (assigned : MatchingFields E s.values t.values)
      (conditions : List.Forall₂ (MatchingCondition E) s.conditions t.conditions)
      (returning : s.returning.getD "" = t.returning.getD "") : Matching E (.update s) (.update t)
  | delete {s t : Delete} (table : s.table = t.table)
      (conditions : List.Forall₂ (MatchingCondition E) s.conditions t.conditions)
      (returning : s.returning.getD "" = t.returning.getD "") : Matching E (.delete s) (.delete t)

/-! ### Pieces that correspond -/

namespace Piece

/-- The same verbatim piece, or two values that correspond. -/
inductive Corresponds (E : Value → Value → Prop) : Piece → Piece → Prop
  | verbatim (s : String) : Corresponds E (.verbatim s) (.verbatim s)
  | value {v w : Value} (h : E v w) : Corresponds E (.value v) (.value w)

variable {ps qs : List Piece}

/-- Pieces that correspond have the same text. -/
theorem write_of_corresponds (h : List.Forall₂ (Corresponds E) ps qs) (mark : Nat → String)
    (k : Nat) : write mark k ps = write mark k qs := by
  induction h generalizing k with
  | nil => rfl
  | cons first rest ih =>
    cases first with
    | verbatim s => rw [write, write, ih]
    | value h => rw [write, write, ih]

/-- Pieces that correspond have values that correspond. -/
theorem values_of_corresponds (h : List.Forall₂ (Corresponds E) ps qs) :
    List.Forall₂ E (values ps) (values qs) := by
  induction h with
  | nil => exact .nil
  | cons first rest ih =>
    cases first with
    | verbatim s => exact ih
    | value h => exact .cons h ih

/-- Pieces without values correspond to themselves. -/
theorem corresponds_self (h : values ps = []) : List.Forall₂ (Corresponds E) ps ps := by
  induction ps with
  | nil => exact .nil
  | cons p ps ih =>
    cases p with
    | verbatim s => exact .cons (.verbatim s) (ih h)
    | value v => cases h

/-- Joined lists correspond if the lists do. -/
theorem corresponds_joined (sep : String) {pss qss : List (List Piece)}
    (h : List.Forall₂ (List.Forall₂ (Corresponds E)) pss qss) :
    List.Forall₂ (Corresponds E) (joined sep pss) (joined sep qss) := by
  induction h with
  | nil => exact .nil
  | cons first rest ih =>
    cases rest with
    | nil => exact first
    | cons second rest => exact List.rel_append first (.cons (.verbatim sep) ih)

end Piece

open Piece

/-- Values with commas between. -/
theorem corresponds_valuePieces {vs ws : List Value} (h : List.Forall₂ E vs ws) :
    List.Forall₂ (Corresponds E) (valuePieces vs) (valuePieces ws) := by
  refine corresponds_joined _ ?_
  rw [List.forall₂_map_left_iff, List.forall₂_map_right_iff]
  exact h.imp fun _ _ hvw => .cons (.value hvw) .nil

/-- Matching conditions. -/
theorem MatchingCondition.pieces {c d : Condition} (h : MatchingCondition E c d) :
    List.Forall₂ (Corresponds E) c.pieces d.pieces := by
  obtain ⟨column, operator, operand⟩ := c
  obtain ⟨column', operator', operand'⟩ := d
  obtain ⟨rfl, h⟩ := h
  cases operator
  case isIn =>
    obtain ⟨xs, ys, rfl, rfl, values, columns⟩ := h
    cases values with
    | nil => exact corresponds_self rfl
    | cons first rest =>
      obtain rfl : column = column' := columns (List.cons_ne_nil _ _)
      have inside := corresponds_valuePieces (List.Forall₂.cons first rest)
      exact .cons (.verbatim _) (.cons (.verbatim _)
        (List.rel_append inside (corresponds_self rfl)))
  case is =>
    obtain ⟨rfl, rfl⟩ := h
    exact corresponds_self rfl
  case isNot =>
    obtain ⟨rfl, rfl⟩ := h
    exact corresponds_self rfl
  all_goals
    obtain ⟨rfl, operands⟩ := h
    exact .cons (.verbatim _) (.cons (.verbatim _) (.cons (.verbatim _) (.cons (.verbatim _)
      (.cons (.value operands) .nil))))

/-- Matching conditions, clause and all. -/
theorem corresponds_wherePieces {cs ds : List Condition}
    (h : List.Forall₂ (MatchingCondition E) cs ds) :
    List.Forall₂ (Corresponds E) (wherePieces cs) (wherePieces ds) := by
  cases h with
  | nil => exact .nil
  | cons first rest =>
    refine .cons (.verbatim _) (corresponds_joined _ ?_)
    rw [List.forall₂_map_left_iff, List.forall₂_map_right_iff]
    exact (List.Forall₂.cons first rest).imp fun _ _ same => same.pieces

/-- The same mapping gives corresponding values under any columns. -/
theorem SameMapping.values {row other : Fields} (h : SameMapping E row other)
    (columns : List String) :
    List.Forall₂ E (columns.filterMap row.get?) (columns.filterMap other.get?) := by
  induction columns with
  | nil => exact .nil
  | cons name columns ih =>
    rw [List.filterMap_cons, List.filterMap_cons]
    have here := h name
    revert here
    rcases row.get? name with _ | v <;> rcases other.get? name with _ | w
    · exact fun _ => ih
    · rintro ⟨⟩
    · rintro ⟨⟩
    · rintro ⟨hvw⟩
      exact .cons hvw ih

/-- Matching payloads. -/
theorem MatchingRows.pieces {rows others : List Fields} (h : MatchingRows E rows others)
    (table : String) :
    List.Forall₂ (Corresponds E) (insertPieces table rows) (insertPieces table others) := by
  obtain ⟨columns, mappings⟩ := h
  have each : List.Forall₂ (List.Forall₂ (Corresponds E))
      (rows.map (rowPieces (rowColumns others))) (others.map (rowPieces (rowColumns others))) := by
    rw [List.forall₂_map_left_iff, List.forall₂_map_right_iff]
    refine mappings.imp fun row other same => ?_
    exact List.rel_append (List.rel_append (corresponds_self rfl)
      (corresponds_valuePieces (same.values _))) (corresponds_self rfl)
  have head : List.Forall₂ (Corresponds E)
      ([.verbatim "INSERT INTO ", .verbatim table, .verbatim " ("] ++ namePieces (rowColumns others))
      ([.verbatim "INSERT INTO ", .verbatim table, .verbatim " ("]
        ++ namePieces (rowColumns others)) :=
    corresponds_self (by simp)
  rw [insertPieces, insertPieces, columns]
  exact List.rel_append head (.cons (.verbatim _) (corresponds_joined _ each))

/-- Matching assignments. -/
theorem MatchingFields.pieces {fields others : Fields} (h : MatchingFields E fields others) :
    List.Forall₂ (Corresponds E) (joined ", " (fields.map assignmentPieces))
      (joined ", " (others.map assignmentPieces)) := by
  refine corresponds_joined _ ?_
  rw [List.forall₂_map_left_iff, List.forall₂_map_right_iff]
  refine h.imp fun field other same => ?_
  rw [assignmentPieces, assignmentPieces, same.1]
  exact .cons (.verbatim _) (.cons (.verbatim _) (.cons (.value same.2) .nil))

/-- The layouts of matching operations correspond piece by piece. -/
theorem Matching.pieces {a b : Operation} (h : Matching E a b) :
    List.Forall₂ (Corresponds E) a.pieces b.pieces := by
  have returned {columns others : String} (same : columns = others) {ps qs : List Piece}
      (body : List.Forall₂ (Corresponds E) ps qs) :
      List.Forall₂ (Corresponds E) (ps ++ returningHead columns ++ [.verbatim columns])
        (qs ++ returningHead others ++ [.verbatim others]) := by
    subst same
    have head := corresponds_self (E := E) (NameRules.values_returningHead columns)
    exact List.rel_append (List.rel_append body head) (corresponds_self rfl)
  cases h with
  | @select s t table columns conditions order limit =>
    have ordered : values (orderPieces t.orderBy) = [] := by cases t.orderBy <;> rfl
    have limited : values (limitPieces t.limit) = [] := by cases t.limit <;> rfl
    have source : List.Forall₂ (Corresponds E) [.verbatim " FROM ", .verbatim t.table]
        [.verbatim " FROM ", .verbatim t.table] := corresponds_self rfl
    have filtered := List.rel_append source (corresponds_wherePieces conditions)
    have tail := List.rel_append (List.rel_append filtered (corresponds_self ordered))
      (corresponds_self limited)
    simp only [Operation.pieces, Operation.front, Operation.back, Operation.columnList, table,
      columns, order, limit]
    exact .cons (.verbatim _) (.cons (.verbatim _) tail)
  | @insert s t table payload returning =>
    exact returned returning (table ▸ payload.pieces s.table)
  | @upsert s t table payload conflict returning =>
    have collision : List.Forall₂ (Corresponds E)
        (conflictPieces s.conflictColumns (rowColumns s.rows))
        (conflictPieces t.conflictColumns (rowColumns t.rows)) := by
      rw [conflict, payload.1]
      exact corresponds_self (by simp [conflictPieces, overwritePieces, List.flatMap_map])
    exact returned returning (List.rel_append (table ▸ payload.pieces s.table) collision)
  | @update s t table assigned conditions returning =>
    have head : List.Forall₂ (Corresponds E)
        [.verbatim "UPDATE ", .verbatim s.table, .verbatim " SET "]
        [.verbatim "UPDATE ", .verbatim t.table, .verbatim " SET "] :=
      table ▸ corresponds_self rfl
    exact returned returning (List.rel_append (List.rel_append head assigned.pieces)
      (corresponds_wherePieces conditions))
  | @delete s t table conditions returning =>
    have head : List.Forall₂ (Corresponds E) [.verbatim "DELETE FROM ", .verbatim s.table]
        [.verbatim "DELETE FROM ", .verbatim t.table] :=
      table ▸ corresponds_self rfl
    exact returned returning (List.rel_append head (corresponds_wherePieces conditions))

end QueryChain
