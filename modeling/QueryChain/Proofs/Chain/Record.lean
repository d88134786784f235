import QueryChain.Chain.Basic
import QueryChain.Proofs.Schema.Operations

/-!
# Recording a chain as an operation

When a chain is compiled, its parts are read once more as the fields of an operation.  Parts that
calls have left there are read as they are, so only the table can be refused.

## Main definitions

* `Chain.operation` — the operation that the parts of a chain describe.
* `Chain.Readable` — the parts that are used can be read again as they are.

## Main results

* `Chain.table_of_toOperation` — the table of a recorded operation is the one of the chain.
* `Chain.record_eq` — a chain whose parts can be read again is recorded as `Chain.operation`.
-/

set_option relaxedAutoImplicit false
set_option autoImplicit false

namespace QueryChain

namespace Chain

/-- A chain has an operation when its parts can be recorded. -/
theorem toOperation_eq_ok_iff {c : Chain} {op : Operation} :
    c.toOperation = .ok op ↔ c.record = .ok op := by
  unfold toOperation
  cases c.record <;> simp

/-- The table of a recorded operation is the one of the chain. -/
theorem table_of_toOperation {c : Chain} {op : Operation} (h : c.toOperation = .ok op) :
    Reader.nonemptyText c.table = .ok op.table := by
  rw [toOperation_eq_ok_iff, record] at h
  cases hk : c.kind with
  | select =>
    simp only [hk, map_eq_ok] at h
    obtain ⟨s, hs, rfl⟩ := h
    exact Checked.under_eq_ok.1 (Select.assemble_eq_ok_iff.1 hs).1
  | insert =>
    simp only [hk, map_eq_ok] at h
    obtain ⟨s, hs, rfl⟩ := h
    exact Checked.under_eq_ok.1 (Insert.assemble_eq_ok_iff.1 hs).1
  | upsert =>
    simp only [hk, map_eq_ok] at h
    obtain ⟨s, hs, rfl⟩ := h
    exact Checked.under_eq_ok.1 (Upsert.assemble_eq_ok_iff.1 hs).1
  | update =>
    simp only [hk, map_eq_ok] at h
    obtain ⟨s, hs, rfl⟩ := h
    exact Checked.under_eq_ok.1 (Update.assemble_eq_ok_iff.1 hs).1
  | delete =>
    simp only [hk, map_eq_ok] at h
    obtain ⟨s, hs, rfl⟩ := h
    exact Checked.under_eq_ok.1 (Delete.assemble_eq_ok_iff.1 hs).1

/-- The operation that the parts of a chain describe, without any check. -/
def operation (c : Chain) (table : String) : Operation :=
  match c.kind with
  | .select => .select ⟨table, c.columns, c.conditions, c.orderBy, c.limit⟩
  | .insert => .insert ⟨table, c.insertRows.getD [], if c.selected then some c.columns else none⟩
  | .upsert =>
    .upsert ⟨table, c.upsertRows.getD [], some c.columns, c.conflictColumns.getD []⟩
  | .update => .update ⟨table, c.assignments.getD [], c.conditions, some c.columns⟩
  | .delete => .delete ⟨table, c.conditions, some c.columns⟩

/-- The parts that the kind of a chain uses can be read again as they are. -/
def Readable (c : Chain) : Prop :=
  match c.kind with
  | .select | .delete => True
  | .insert => readRows (rowsValue c.insertRows) = .ok (c.insertRows.getD [])
  | .upsert =>
    readRows (rowsValue c.upsertRows) = .ok (c.upsertRows.getD [])
      ∧ readConflictColumns ((c.conflictColumns.map fun cs => Value.list (cs.map .text)).getD .null)
        = .ok (c.conflictColumns.getD [])
  | .update =>
    readAssigned ((c.assignments.map Fields.toValue).getD .null) = .ok (c.assignments.getD [])

/-- A chain whose parts can be read again is recorded as the operation that they describe. -/
theorem record_eq {c : Chain} {table : String} (htable : Reader.nonemptyText c.table = .ok table)
    (readable : c.Readable) : c.record = .ok (c.operation table) := by
  have named : (Reader.nonemptyText c.table).under (.name "table") = .ok table :=
    Checked.under_eq_ok.2 htable
  unfold Readable at readable
  unfold record operation
  cases hk : c.kind with
  | select =>
    exact map_eq_ok.2 ⟨_, Select.assemble_eq_ok_iff.2 ⟨named, rfl, rfl, rfl, rfl⟩, rfl⟩
  | insert =>
    simp only [hk] at readable
    exact map_eq_ok.2
      ⟨_, Insert.assemble_eq_ok_iff.2 ⟨named, Checked.under_eq_ok.2 readable, rfl⟩, rfl⟩
  | upsert =>
    simp only [hk] at readable
    exact map_eq_ok.2 ⟨_, Upsert.assemble_eq_ok_iff.2 ⟨named, Checked.under_eq_ok.2 readable.1, rfl,
      Checked.under_eq_ok.2 readable.2⟩, rfl⟩
  | update =>
    simp only [hk] at readable
    exact map_eq_ok.2
      ⟨_, Update.assemble_eq_ok_iff.2 ⟨named, Checked.under_eq_ok.2 readable, rfl, rfl⟩, rfl⟩
  | delete => exact map_eq_ok.2 ⟨_, Delete.assemble_eq_ok_iff.2 ⟨named, rfl, rfl⟩, rfl⟩

end Chain

end QueryChain
