import QueryChain.Proofs.Schema.Constructed

/-!
# Assigned operations

The fields of an operation are read again whenever one of them is assigned, and an assignment that
is refused leaves the operation as it is.  So whatever is assigned to an operation that was read, it
stays as sound as it was.

## Main definitions

* `Operation.Reached` — an operation that was read, after accepted assignments.
* `Operation.Tabled` — an operation whose table was read.

## Main results

* `Operation.sound_assign` — an accepted assignment leaves an operation sound.
* `Operation.sound_of_reached` — operations that are reached are sound.
* `Operation.tabled_of_reached` — their tables were read.
-/

set_option relaxedAutoImplicit false
set_option autoImplicit false

namespace QueryChain.Operation

/-- The operations that can be reached: those that were read from fields, and what accepted
assignments make of them. -/
inductive Reached : Operation → Prop
  | read {kind : StatementKind} {given : Fields} {op : Operation}
      (h : ofFields kind given = .ok op) : Reached op
  | assigned {op next : Operation} {name : String} {v : Value} (h : Reached op)
      (accepted : op.assign name v = .ok next) : Reached next

/-- An operation whose table was read, whatever its other parts are. -/
def Tabled (op : Operation) : Prop := ∃ v, Reader.nonemptyText v = .ok op.table

variable {op next : Operation} {name : String} {v : Value}

/-- The table has no part in soundness. -/
theorem sound_withTable (h : op.Sound) (t : String) : (op.withTable t).Sound := by
  cases op <;> exact h

/-- What was read for an assigned field. -/
theorem exists_read_of_assigned {α β : Type} {x : Checked α} {part : PathPart} {make : α → β}
    {b : β} (h : (x.under part).map make = .ok b) : ∃ a, x = .ok a ∧ b = make a := by
  obtain ⟨a, read, made⟩ := map_eq_ok.1 h
  exact ⟨a, Checked.under_eq_ok.1 read, made.symm⟩

/-- An accepted assignment leaves an operation sound: what is assigned was read, and the other
fields stay as they are. -/
theorem sound_assign (h : op.Sound) (accepted : op.assign name v = .ok next) : next.Sound := by
  unfold assign at accepted
  split at accepted
  case h_1 => cases accepted
  case h_2 =>
    obtain ⟨t, -, rfl⟩ := exists_read_of_assigned accepted
    exact sound_withTable h t
  -- the columns, the order and the limit of a query for rows
  case h_3 | h_4 | h_5 =>
    obtain ⟨x, -, rfl⟩ := exists_read_of_assigned accepted
    exact h
  -- conditions
  case h_6 | h_8 =>
    obtain ⟨conditions, read, rfl⟩ := exists_read_of_assigned accepted
    exact gathered_of_readConditions read
  case h_7 =>
    obtain ⟨conditions, read, rfl⟩ := exists_read_of_assigned accepted
    exact ⟨h.1, gathered_of_readConditions read⟩
  -- payloads, columns to set and columns to collide on
  case h_9 =>
    obtain ⟨rows, read, rfl⟩ := exists_read_of_assigned accepted
    exact payload_of_readRows read
  case h_10 =>
    obtain ⟨rows, read, rfl⟩ := exists_read_of_assigned accepted
    exact ⟨payload_of_readRows read, h.2⟩
  case h_11 =>
    obtain ⟨values, read, rfl⟩ := exists_read_of_assigned accepted
    exact ⟨ne_nil_of_readAssigned read, h.2⟩
  case h_12 =>
    obtain ⟨columns, read, rfl⟩ := exists_read_of_assigned accepted
    exact ⟨h.1, ne_nil_of_readConflictColumns read⟩
  -- what is returned
  case h_13 | h_14 | h_15 | h_16 =>
    obtain ⟨x, -, rfl⟩ := exists_read_of_assigned accepted
    exact h
  case h_17 => cases accepted

/-- **Operations that are reached are sound**, by any number of accepted assignments. -/
theorem sound_of_reached (h : op.Reached) : op.Sound := by
  induction h with
  | read made => exact sound_of_ofFields made
  | assigned _ accepted ih => exact sound_assign ih accepted

/-! ### Tables -/

/-- A table that was read is not empty. -/
theorem Tabled.ne_empty (h : op.Tabled) : op.table ≠ "" := by
  obtain ⟨v, read⟩ := h
  exact Reader.ne_empty_of_nonemptyText read

/-- An operation that was read has a table that was read. -/
theorem tabled_of_ofFields {kind : StatementKind} {given : Fields} (h : ofFields kind given = .ok op) :
    op.Tabled := by
  obtain ⟨⟨⟨⟩, made⟩, parts, rfl⟩ := map_eq_ok.1 h
  have body := (Checked.and_eq_ok.1 parts).2
  cases kind with
  | select =>
    obtain ⟨s, assembled, rfl⟩ := map_eq_ok.1 body
    exact Reader.exists_of_required (Select.assemble_eq_ok_iff.1 assembled).1
  | insert =>
    obtain ⟨s, assembled, rfl⟩ := map_eq_ok.1 body
    exact Reader.exists_of_required (Insert.assemble_eq_ok_iff.1 assembled).1
  | upsert =>
    obtain ⟨s, assembled, rfl⟩ := map_eq_ok.1 body
    exact Reader.exists_of_required (Upsert.assemble_eq_ok_iff.1 assembled).1
  | update =>
    obtain ⟨s, assembled, rfl⟩ := map_eq_ok.1 body
    exact Reader.exists_of_required (Update.assemble_eq_ok_iff.1 assembled).1
  | delete =>
    obtain ⟨s, assembled, rfl⟩ := map_eq_ok.1 body
    exact Reader.exists_of_required (Delete.assemble_eq_ok_iff.1 assembled).1

/-- The table that replaces another one. -/
theorem table_withTable (op : Operation) (t : String) : (op.withTable t).table = t := by
  cases op <;> rfl

/-- A table that is assigned is read; other assignments leave the table as it is. -/
theorem tabled_assign (h : op.Tabled) (accepted : op.assign name v = .ok next) : next.Tabled := by
  unfold assign at accepted
  split at accepted
  case h_1 | h_17 => cases accepted
  case h_2 =>
    obtain ⟨t, read, rfl⟩ := exists_read_of_assigned accepted
    exact ⟨v, by rw [table_withTable, read]⟩
  all_goals
    obtain ⟨x, -, rfl⟩ := exists_read_of_assigned accepted
    exact h

/-- **The table of an operation that is reached was read.** -/
theorem tabled_of_reached (h : op.Reached) : op.Tabled := by
  induction h with
  | read made => exact tabled_of_ofFields made
  | assigned _ accepted ih => exact tabled_assign ih accepted

end QueryChain.Operation
