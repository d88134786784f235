import QueryChain.Proofs.Statement.Layout
import QueryChain.Proofs.Value.Fields
import QueryChain.Schema.Operations

/-!
# What the checks of operations accept

Fields of operations are read leniently, and what has been read once is read again as it is.

## Main results

* `Checked.all_numbered_eq_ok_iff` — elements are read together when each of them is.
* `checkRows_eq_ok_iff`, `has_of_checkRows` — when a payload passes, and that every row of it has
  every column.
* `readRows_of_nodup`, `readAssigned_of_nodup`, `readConflictColumns_of_ne_nil` — payloads and
  conflict columns that are read again.
* `Select.assemble_eq_ok_iff`, …, `Delete.assemble_eq_ok_iff` — operations from checked fields.
-/

set_option relaxedAutoImplicit false
set_option autoImplicit false

namespace QueryChain

/-! ### Checked fields -/

namespace Checked

variable {α : Type}

/-- The path of a check does not matter to its success. -/
theorem under_eq_ok {x : Checked α} {part : PathPart} {a : α} :
    x.under part = .ok a ↔ x = .ok a := by
  cases x <;> simp [under]

/-- Elements are read together when each of them is. -/
theorem all_numbered_eq_ok_iff {xs : List (Checked α)} {n : Nat} {as : List α} :
    all (Reader.numbered n xs) = .ok as ↔ xs = as.map .ok := by
  induction xs generalizing n as with
  | nil => cases as <;> simp [Reader.numbered, all]
  | cons x xs ih =>
    rw [Reader.numbered, all]
    cases both : (x.under (.index n)).and (all (Reader.numbered (n + 1) xs)) with
    | error issues =>
      refine iff_of_false (fun h => by cases h) fun h => ?_
      cases as with
      | nil => cases h
      | cons a as =>
        obtain ⟨rfl, rest⟩ := List.cons.inj h
        rw [ih.2 rest] at both
        cases both
    | ok pair =>
      obtain ⟨hx, hxs⟩ := and_eq_ok.1 both
      rw [under_eq_ok.1 hx, ih.1 hxs]
      cases as with
      | nil => simp
      | cons a as =>
        have injective : pair.2.map (.ok : α → Checked α) = as.map .ok ↔ pair.2 = as :=
          List.map_inj_right fun _ _ => Except.ok.inj
        simp [injective]

end Checked

namespace Reader

/-- A text is read as a text that is not empty when it is none and has no half of a pair. -/
theorem nonemptyText_eq_ok_iff {s t : String} :
    nonemptyText (.text s) = .ok t ↔ t = s ∧ s ≠ "" ∧ Text.hasHalf s = false := by
  have read : nonemptyText (.text s) = nonempty s := rfl
  rw [read, nonempty, encodable]
  cases Text.hasHalf s with
  | true => exact iff_of_false (fun h => by cases h) fun h => by cases h.2.2
  | false =>
    by_cases empty : s = ""
    · rw [empty]
      exact iff_of_false (fun h => by cases h) fun h => h.2.1 rfl
    · have passed : ((Except.ok s : Checked String) >>= fun s =>
          if s = "" then Checked.fail (.stringTooShort 1) else .ok s) = .ok s := if_neg empty
      simp only [Bool.false_eq_true, if_false, passed]
      simp [empty, eq_comm]

/-- What is read as a text that is not empty is none. -/
theorem ne_empty_of_nonemptyText {v : Value} {s : String} (h : nonemptyText v = .ok s) : s ≠ "" := by
  obtain ⟨t, -, passed⟩ := bind_eq_ok.1 h
  obtain ⟨u, -, kept⟩ := bind_eq_ok.1 passed
  split at kept
  · cases kept
  · rename_i given
    cases kept
    exact given

/-- Texts are read one by one as they are. -/
theorem listOf_text (ts : List String) : listOf text (.list (ts.map .text)) = .ok ts := by
  have each : (ts.map Value.text).map text = ts.map .ok := by
    rw [List.map_map]
    rfl
  exact Checked.all_numbered_eq_ok_iff.2 each

/-- Entries under texts are read as they are. -/
theorem entries_text (fields : Fields) :
    entries (fields.map fun field => (.text field.1, field.2)) = .ok fields := by
  induction fields with
  | nil => rfl
  | cons field fields ih =>
    rw [List.map_cons, entries, ih]
    rfl

end Reader

/-- Fields of different names are read as they are. -/
theorem Fields.read_toValue {fields : Fields} (h : (fields.map Prod.fst).Nodup) :
    Reader.fields fields.toValue = .ok fields := by
  have read : Reader.fields fields.toValue = .ok (update [] fields) := by
    rw [toValue, Reader.fields, Reader.entries_text]
    rfl
  rw [read, update_nil_of_nodup h]

/-! ### Payloads -/

/-- No row is found that lacks the columns of the first when every row has them. -/
theorem firstMismatch?_eq_none_iff {first : Fields} {index : Nat} {rows : List Fields} :
    firstMismatch? first index rows = none ↔ ∀ row ∈ rows, sameColumns row first = true := by
  induction rows generalizing index with
  | nil => simp [firstMismatch?]
  | cons row rows ih =>
    rw [firstMismatch?, List.forall_mem_cons]
    split
    · rename_i same
      rw [ih, and_iff_right same]
    · rename_i other
      exact iff_of_false (fun h => by cases h) fun h => other h.1

/-- A payload passes when it has a first row, this row has a column, and every row has the same
columns. -/
theorem checkRows_eq_ok_iff {rows checked : List Fields} :
    checkRows rows = .ok checked ↔
      checked = rows ∧ ∃ first rest, rows = first :: rest ∧ first ≠ []
        ∧ ∀ row ∈ rest, sameColumns row first = true := by
  cases rows with
  | nil =>
    refine iff_of_false (fun h => by cases h) fun h => ?_
    obtain ⟨-, first, rest, e, -⟩ := h
    cases e
  | cons first rest =>
    rw [checkRows]
    constructor
    · intro h
      split at h
      · cases h
      rename_i given
      split at h
      · rename_i uniform
        cases h
        exact ⟨rfl, first, rest, rfl, by simpa using given, firstMismatch?_eq_none_iff.1 uniform⟩
      · cases h
    · rintro ⟨rfl, first', rest', e, given, uniform⟩
      obtain ⟨rfl, rfl⟩ := List.cons.inj e
      rw [if_neg (by simpa using given), firstMismatch?_eq_none_iff.2 uniform]

/-- Every row of a payload that passes has every column. -/
theorem has_of_checkRows {rows : List Fields} (names : ∀ row ∈ rows, (row.map Prod.fst).Nodup)
    (checked : checkRows rows = .ok rows) :
    ∀ row ∈ rows, ∀ name ∈ rowColumns rows, row.has name = true := by
  obtain ⟨-, first, rest, rfl, -, uniform⟩ := checkRows_eq_ok_iff.1 checked
  intro row hrow name hname
  rcases List.mem_cons.1 hrow with rfl | hrest
  · exact Fields.has_iff_mem.2 hname
  · have same := uniform row hrest
    rw [sameColumns, Bool.and_eq_true, beq_iff_eq, List.all_eq_true] at same
    refine Fields.mem_names_of_subset (names row hrow) (fun n hn => ?_) (Nat.le_of_eq same.1.symm)
      hname
    obtain ⟨field, hfield, rfl⟩ := List.mem_map.1 hn
    exact same.2 field hfield

/-- Rows that passed their checks, with different names in each row, are read as they are. -/
theorem readRows_of_nodup {rows : List Fields} (names : ∀ row ∈ rows, (row.map Prod.fst).Nodup)
    (checked : checkRows rows = .ok rows) :
    readRows (.list (rows.map Fields.toValue)) = .ok rows := by
  have each : (rows.map Fields.toValue).map Reader.fields = rows.map .ok := by
    rw [List.map_map]
    exact List.map_congr_left fun row hrow => Fields.read_toValue (names row hrow)
  refine bind_eq_ok.2 ⟨rows, Checked.all_numbered_eq_ok_iff.2 each, checked⟩

/-- Columns to set, of different names and at least one, are read as they are. -/
theorem readAssigned_of_nodup {fields : Fields} (names : (fields.map Prod.fst).Nodup)
    (given : fields ≠ []) : readAssigned fields.toValue = .ok fields := by
  refine bind_eq_ok.2 ⟨fields, Fields.read_toValue names, ?_⟩
  rw [checkAssigned, if_neg (by simpa using given)]

/-- Conflict columns, at least one, are read as they are. -/
theorem readConflictColumns_of_ne_nil {columns : List String} (given : columns ≠ []) :
    readConflictColumns (.list (columns.map .text)) = .ok columns := by
  refine bind_eq_ok.2 ⟨columns, Reader.listOf_text columns, ?_⟩
  rw [checkConflictColumns, if_neg (by simpa using given)]

/-! ### Operations from checked fields -/

/-- A query for rows is assembled when each field passes. -/
theorem Select.assemble_eq_ok_iff {table columns : Checked String}
    {conditions : Checked (List Condition)} {orderBy : Checked (Option OrderBy)}
    {limit : Checked (Option Nat)} {s : Select} :
    Select.assemble table columns conditions orderBy limit = .ok s ↔
      table = .ok s.table ∧ columns = .ok s.columns ∧ conditions = .ok s.conditions
        ∧ orderBy = .ok s.orderBy ∧ limit = .ok s.limit := by
  simp only [Select.assemble, map_eq_ok]
  constructor
  · rintro ⟨⟨t, c, w, o, l⟩, h, rfl⟩
    simpa only [Checked.and_eq_ok] using h
  · rintro h
    exact ⟨⟨s.table, s.columns, s.conditions, s.orderBy, s.limit⟩,
      by simpa only [Checked.and_eq_ok] using h, rfl⟩

/-- An insert is assembled when each field passes. -/
theorem Insert.assemble_eq_ok_iff {table : Checked String} {rows : Checked (List Fields)}
    {returning : Checked (Option String)} {s : Insert} :
    Insert.assemble table rows returning = .ok s ↔
      table = .ok s.table ∧ rows = .ok s.rows ∧ returning = .ok s.returning := by
  simp only [Insert.assemble, map_eq_ok]
  constructor
  · rintro ⟨⟨t, r, x⟩, h, rfl⟩
    simpa only [Checked.and_eq_ok] using h
  · rintro h
    exact ⟨⟨s.table, s.rows, s.returning⟩, by simpa only [Checked.and_eq_ok] using h, rfl⟩

/-- An upsert is assembled when each field passes. -/
theorem Upsert.assemble_eq_ok_iff {table : Checked String} {rows : Checked (List Fields)}
    {returning : Checked (Option String)} {conflict : Checked (List String)} {s : Upsert} :
    Upsert.assemble table rows returning conflict = .ok s ↔
      table = .ok s.table ∧ rows = .ok s.rows ∧ returning = .ok s.returning
        ∧ conflict = .ok s.conflictColumns := by
  simp only [Upsert.assemble, map_eq_ok]
  constructor
  · rintro ⟨⟨t, r, x, c⟩, h, rfl⟩
    simpa only [Checked.and_eq_ok] using h
  · rintro h
    exact ⟨⟨s.table, s.rows, s.returning, s.conflictColumns⟩,
      by simpa only [Checked.and_eq_ok] using h, rfl⟩

/-- An update is assembled when each field passes. -/
theorem Update.assemble_eq_ok_iff {table : Checked String} {values : Checked Fields}
    {conditions : Checked (List Condition)} {returning : Checked (Option String)} {s : Update} :
    Update.assemble table values conditions returning = .ok s ↔
      table = .ok s.table ∧ values = .ok s.values ∧ conditions = .ok s.conditions
        ∧ returning = .ok s.returning := by
  simp only [Update.assemble, map_eq_ok]
  constructor
  · rintro ⟨⟨t, v, c, r⟩, h, rfl⟩
    simpa only [Checked.and_eq_ok] using h
  · rintro h
    exact ⟨⟨s.table, s.values, s.conditions, s.returning⟩,
      by simpa only [Checked.and_eq_ok] using h, rfl⟩

/-- A deletion is assembled when each field passes. -/
theorem Delete.assemble_eq_ok_iff {table : Checked String} {conditions : Checked (List Condition)}
    {returning : Checked (Option String)} {s : Delete} :
    Delete.assemble table conditions returning = .ok s ↔
      table = .ok s.table ∧ conditions = .ok s.conditions ∧ returning = .ok s.returning := by
  simp only [Delete.assemble, map_eq_ok]
  constructor
  · rintro ⟨⟨t, c, r⟩, h, rfl⟩
    simpa only [Checked.and_eq_ok] using h
  · rintro h
    exact ⟨⟨s.table, s.conditions, s.returning⟩, by simpa only [Checked.and_eq_ok] using h, rfl⟩

end QueryChain
