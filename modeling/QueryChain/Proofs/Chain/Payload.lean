import QueryChain.Chain.Payload
import QueryChain.Proofs.Schema.Operations
import QueryChain.Proofs.Value.Entries

/-!
# Payloads that calls accept

A payload that a call accepts is kept as its rows are, under the texts of their keys.  It passes
every later check of payloads: the one made when it is read again for the operation, and the one
made when the operation is compiled.

## Main definitions

* `NameRules.Insertable` — rows that pass all checks of payloads.

## Main results

* `NameRules.checkPayload_eq_ok`, `NameRules.checkAssignments_eq_ok` — what an accepted payload is.
* `NameRules.insertable_of_checkPayload` — an accepted payload of mappings passes all checks.
-/

set_option relaxedAutoImplicit false
set_option autoImplicit false

namespace QueryChain

/-! ### Accepted payloads -/

namespace NameRules

variable {rules : NameRules}

/-- Keys pass when they are texts that are plain names. -/
theorem checkKeys_eq_ok_iff {entries : Value.Entries} {fields : Fields} :
    rules.checkKeys entries = .ok fields ↔
      entries = (fields.map fun field => (.text field.1, field.2))
        ∧ ∀ field ∈ fields, rules.checkPlain (.text "column") (.text field.1) = .ok field.1 := by
  induction entries generalizing fields with
  | nil => cases fields <;> simp [checkKeys]
  | cons entry entries ih =>
    obtain ⟨key, value⟩ := entry
    simp only [checkKeys, bind_eq_ok, ih]
    constructor
    · rintro ⟨name, hname, rest, ⟨rfl, plain⟩, e⟩
      cases e
      have spelled : key = .text name := by
        cases key
        case text s => rw [(checkPlain_eq_ok_iff.1 hname).1]
        all_goals cases hname
      subst spelled
      exact ⟨rfl, List.forall_mem_cons.2 ⟨hname, plain⟩⟩
    · rintro ⟨e, plain⟩
      cases fields with
      | nil => cases e
      | cons field fields =>
        obtain ⟨entry, rfl⟩ := List.cons.inj e
        cases entry
        obtain ⟨head, plain⟩ := List.forall_mem_cons.1 plain
        exact ⟨field.1, head, fields, ⟨rfl, plain⟩, rfl⟩

/-- An entry matches when its key is a text among the columns. -/
theorem eq_of_matchEntry? {columns : List String} {entry : Value × Value} {field : String × Value}
    (h : (entry.1.text?.bind fun name =>
      if columns.contains name then some (name, entry.2) else none) = some field) :
    entry = (.text field.1, field.2) ∧ field.1 ∈ columns := by
  obtain ⟨key, value⟩ := entry
  obtain ⟨name, hname, h⟩ := Option.bind_eq_some_iff.1 h
  split at h
  · rename_i listed
    cases h
    cases key <;> cases hname
    exact ⟨rfl, List.contains_iff_mem.1 listed⟩
  · cases h

/-- A row matches when its keys are texts among the columns and it has as many of them. -/
theorem eq_of_matchRow? {columns : List String} {row : Value.Entries} {fields : Fields}
    (h : matchRow? columns row = some fields) :
    row = (fields.map fun field => (.text field.1, field.2)) ∧ fields.length = columns.length
      ∧ ∀ field ∈ fields, field.1 ∈ columns := by
  have keys (row : Value.Entries) (fields : Fields)
      (h : row.mapM (fun entry => entry.1.text?.bind fun name =>
        if columns.contains name then some (name, entry.2) else none) = some fields) :
      row = (fields.map fun field => (.text field.1, field.2))
        ∧ ∀ field ∈ fields, field.1 ∈ columns := by
    induction row generalizing fields with
    | nil =>
      cases h
      exact ⟨rfl, fun field hfield => by cases hfield⟩
    | cons entry row ih =>
      rw [List.mapM_cons] at h
      obtain ⟨field, hfield, h⟩ := Option.bind_eq_some_iff.1 h
      obtain ⟨rest, hrest, e⟩ := Option.bind_eq_some_iff.1 h
      cases e
      obtain ⟨rfl, listed⟩ := eq_of_matchEntry? hfield
      obtain ⟨rfl, inside⟩ := ih rest hrest
      exact ⟨rfl, List.forall_mem_cons.2 ⟨listed, inside⟩⟩
  unfold matchRow? at h
  split at h
  · rename_i size
    obtain ⟨rfl, inside⟩ := keys row fields h
    exact ⟨rfl, by simpa using size, inside⟩
  · cases h

/-- The rows behind the first one match its columns. -/
theorem eq_of_checkRest {columns : List String} {index : Nat} {rows : List Value.Entries}
    {checked : List Fields} (h : checkRest columns index rows = .ok checked) :
    rows = checked.map (fun fields => fields.map fun field => (.text field.1, field.2))
      ∧ ∀ fields ∈ checked, fields.length = columns.length
        ∧ ∀ field ∈ fields, field.1 ∈ columns := by
  induction rows generalizing index checked with
  | nil =>
    cases h
    exact ⟨rfl, fun fields hfields => by cases hfields⟩
  | cons row rows ih =>
    rw [checkRest] at h
    cases hrow : matchRow? columns row with
    | none =>
      rw [hrow] at h
      cases h
    | some fields =>
      rw [hrow] at h
      obtain ⟨rest, hrest, rfl⟩ := map_eq_ok.1 h
      obtain ⟨rfl, size, inside⟩ := eq_of_matchRow? hrow
      obtain ⟨rfl, later⟩ := ih hrest
      exact ⟨rfl, List.forall_mem_cons.2 ⟨⟨size, inside⟩, later⟩⟩

/-- Rows that pass all checks of payloads, whose columns have plain names. -/
structure Insertable (rules : NameRules) (rows : List Fields) : Prop where
  /-- They are the rows of a payload. -/
  checked : checkRows rows = .ok rows
  /-- The names in one row are different. -/
  names : ∀ row ∈ rows, (row.map Prod.fst).Nodup
  /-- The names of the first row are plain. -/
  plain : ∀ name ∈ rowColumns rows, rules.checkPlain (.text "column") (.text name) = .ok name

/-- Insertable rows can be read again. -/
theorem Insertable.readRows_eq {rows : List Fields} (h : rules.Insertable rows) :
    readRows (.list (rows.map Fields.toValue)) = .ok rows :=
  readRows_of_nodup h.names h.checked

/-- Insertable rows can be inserted. -/
theorem Insertable.checkInserted {rows : List Fields} (h : rules.Insertable rows) :
    rules.checkInserted rows = .ok () := by
  have given : rows ≠ [] := by
    obtain ⟨-, first, rest, rfl, -⟩ := checkRows_eq_ok_iff.1 h.checked
    exact List.cons_ne_nil first rest
  refine checkInserted_eq_ok_iff.2 ⟨given, h.plain, fun row hrow => ?_⟩
  exact Fields.exists_values_of_has (has_of_checkRows h.names h.checked row hrow)

/-- The rows of an accepted payload are those of the payload under the texts of their keys. -/
theorem checkPayload_eq_ok {data : Value} {rows : List Fields}
    (h : rules.checkPayload data = .ok rows) :
    payloadRows? data
        = some (rows.map fun fields => fields.map fun field => (.text field.1, field.2))
      ∧ checkRows rows = .ok rows
      ∧ ∀ name ∈ rowColumns rows, rules.checkPlain (.text "column") (.text name) = .ok name := by
  unfold checkPayload at h
  split at h
  · cases h
  · cases h
  · cases h
  · rename_i first rest nonempty hrows
    obtain ⟨fields, hfirst, h⟩ := bind_eq_ok.1 h
    obtain ⟨others, hrest, e⟩ := bind_eq_ok.1 h
    cases e
    obtain ⟨rfl, plain⟩ := checkKeys_eq_ok_iff.1 hfirst
    obtain ⟨rfl, uniform⟩ := eq_of_checkRest hrest
    refine ⟨hrows, ?_, fun name hname => ?_⟩
    · refine checkRows_eq_ok_iff.2 ⟨rfl, fields, others, rfl, ?_, fun row hrow => ?_⟩
      · rintro rfl
        exact nonempty rfl
      · obtain ⟨size, inside⟩ := uniform row hrow
        rw [sameColumns, Bool.and_eq_true, beq_iff_eq, List.all_eq_true]
        refine ⟨by simpa using size, fun field hfield => ?_⟩
        exact Fields.has_iff_mem.2 (inside field hfield)
    · obtain ⟨field, hfield, rfl⟩ := List.mem_map.1 hname
      exact plain field hfield

/-- An accepted payload of mappings can be inserted. -/
theorem insertable_of_checkPayload {data : Value} {rows : List Fields}
    (h : rules.checkPayload data = .ok rows)
    (distinct : ∀ given, payloadRows? data = some given → ∀ row ∈ given, row.Distinct) :
    rules.Insertable rows := by
  obtain ⟨given, checked, plain⟩ := checkPayload_eq_ok h
  refine ⟨checked, fun row hrow => ?_, plain⟩
  exact (distinct _ given _ (List.mem_map_of_mem hrow)).nodup_names

/-- The columns that an accepted payload of an update sets. -/
theorem checkAssignments_eq_ok {data : Value} {fields : Fields}
    (h : rules.checkAssignments data = .ok fields) :
    data = .map (fields.map fun field => (.text field.1, field.2)) ∧ fields ≠ []
      ∧ rules.checkAssigned fields = .ok () := by
  unfold checkAssignments at h
  split at h
  · obtain ⟨e, plain⟩ := checkKeys_eq_ok_iff.1 h
    refine ⟨by rw [e], ?_, checkAssigned_eq_ok_iff.2 plain⟩
    rintro rfl
    cases e
  · cases h

end NameRules

end QueryChain
