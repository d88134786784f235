import QueryChain.Proofs.Schema.Operations

/-!
# Constructed operations

An operation that was made from loose fields, and not changed since, is well formed: its payload has
passed its check and every row of it has one value for each name, there is something to set and
something to collide on, and `IN` looks among a list.

## Main definitions

* `Operation.Constructed` — an operation as its fields are read.
* `Condition.Gathered`, `Payload`, `Operation.Sound` — what is known of it.
* `Condition.Listed`, `Operation.WellFormed` — the part of it that compiled statements depend on.

## Main results

* `Reader.nodup_fields` — the names of fields that were read are different.
* `gathered_of_readConditions` — what `IN` looks among in conditions that were read.
* `Operation.sound_of_ofFields`, `Operation.wellFormed_of_constructed` — constructed operations are
  sound, and so well formed.
-/

set_option relaxedAutoImplicit false
set_option autoImplicit false

namespace QueryChain

/-- What `IN` looks among is a list, or was left out. -/
def Condition.Gathered (c : Condition) : Prop :=
  c.operator = .isIn → c.operand = .null ∨ ∃ xs, c.operand = .list xs

/-- If `IN` looks among anything, then among a list.  An operand that was left out is null, and not
looked into before the statement is written. -/
def Condition.Listed (c : Condition) : Prop :=
  c.operator = .isIn → ∀ xs, c.operand.elements? = some xs → c.operand = .list xs

/-- Rows that passed the check of payloads, with one value for each name of a row. -/
structure Payload (rows : List Fields) : Prop where
  checked : checkRows rows = .ok rows
  names : ∀ row ∈ rows, (row.map Prod.fst).Nodup

namespace Operation

/-- An operation that was read from fields and has not been changed since. -/
def Constructed (op : Operation) : Prop := ∃ given, ofFields op.kind given = .ok op

/-- What is known of an operation that was read from fields. -/
def Sound : Operation → Prop
  | select s => ∀ c ∈ s.conditions, c.Gathered
  | insert s => Payload s.rows
  | upsert s => Payload s.rows ∧ s.conflictColumns ≠ []
  | update s => s.values ≠ [] ∧ ∀ c ∈ s.conditions, c.Gathered
  | delete s => ∀ c ∈ s.conditions, c.Gathered

/-- What is known of it as far as its conditions look among anything. -/
def WellFormed : Operation → Prop
  | select s => ∀ c ∈ s.conditions, c.Listed
  | insert s => Payload s.rows
  | upsert s => Payload s.rows ∧ s.conflictColumns ≠ []
  | update s => s.values ≠ [] ∧ ∀ c ∈ s.conditions, c.Listed
  | delete s => ∀ c ∈ s.conditions, c.Listed

end Operation

/-! ### Fields that were read -/

namespace Reader

variable {α : Type} {given : Fields} {name : String} {read : Value → Checked α} {a default : α}
  {v : Value}

/-- A field that has to be there was read from a value. -/
theorem exists_of_required (h : required given name read = .ok a) : ∃ v, read v = .ok a := by
  unfold required at h
  split at h
  · cases h
  · exact ⟨_, Checked.under_eq_ok.1 h⟩

/-- A field that may be left out is the default or was read from a value. -/
theorem eq_or_exists_of_optional (h : optional given name default read = .ok a) :
    a = default ∨ ∃ v, read v = .ok a := by
  unfold optional at h
  split at h
  · cases h
    exact .inl rfl
  · exact .inr ⟨_, Checked.under_eq_ok.1 h⟩

/-- Every element of a list was read from a value. -/
theorem exists_of_mem_listOf {as : List α} (h : listOf read v = .ok as) :
    ∀ a ∈ as, ∃ x, read x = .ok a := by
  obtain ⟨xs, -, all⟩ := bind_eq_ok.1 h
  have each := Checked.all_numbered_eq_ok_iff.1 all
  intro a ha
  have mem : (.ok a : Checked α) ∈ xs.map read := each ▸ List.mem_map_of_mem ha
  obtain ⟨x, -, hx⟩ := List.mem_map.1 mem
  exact ⟨x, hx⟩

/-- The names of fields that were read are different. -/
theorem nodup_fields {row : Fields} (h : fields v = .ok row) : (row.map Prod.fst).Nodup := by
  unfold fields at h
  split at h
  · obtain ⟨fs, -, rfl⟩ := map_eq_ok.1 h
    exact Fields.nodup_update List.nodup_nil
  · cases h

end Reader

/-- An operand of `IN` that was read is a list. -/
theorem Condition.exists_of_readOperand {v x : Value} (h : readOperand (some .isIn) v = .ok x) :
    ∃ xs, x = .list xs := by
  unfold readOperand at h
  split at h
  · split at h
    · cases h
    · cases h
    · split at h
      · cases h
        exact ⟨_, rfl⟩
      · cases h
  · rename_i other
    exact absurd rfl other

/-- A condition that was read has a list for `IN`, unless its operand was left out. -/
theorem Condition.gathered_of_ofFields {given : Fields} {c : Condition}
    (h : Condition.ofFields given = .ok c) : c.Gathered := by
  obtain ⟨⟨column, operator, operand⟩, parts, rfl⟩ := map_eq_ok.1 h
  obtain ⟨hop, hval⟩ := Checked.and_eq_ok.1 (Checked.and_eq_ok.1 parts).2
  rw [hop] at hval
  rintro rfl
  rcases Reader.eq_or_exists_of_optional hval with rfl | ⟨v, hv⟩
  · exact .inl rfl
  · exact .inr (exists_of_readOperand hv)

/-- A list is all that such a condition can look among. -/
theorem Condition.Gathered.listed {c : Condition} (h : c.Gathered) : c.Listed := by
  intro isIn xs hxs
  rcases h isIn with null | ⟨ys, list⟩
  · rw [null] at hxs
    cases hxs
  · rw [list] at hxs ⊢
    cases hxs
    rfl

/-- Conditions that were read. -/
theorem gathered_of_readConditions {v : Value} {cs : List Condition}
    (h : readConditions v = .ok cs) : ∀ c ∈ cs, c.Gathered := by
  intro c hc
  obtain ⟨x, hx⟩ := Reader.exists_of_mem_listOf h c hc
  obtain ⟨given, -, made⟩ := bind_eq_ok.1 hx
  exact Condition.gathered_of_ofFields made

/-- Conditions that were read, or left out. -/
theorem gathered_of_optional {given : Fields} {name : String} {cs : List Condition}
    (h : Reader.optional given name [] readConditions = .ok cs) : ∀ c ∈ cs, c.Gathered := by
  rcases Reader.eq_or_exists_of_optional h with rfl | ⟨v, hv⟩
  · intro c hc
    cases hc
  · exact gathered_of_readConditions hv

/-- A payload that was read. -/
theorem payload_of_readRows {v : Value} {rows : List Fields} (h : readRows v = .ok rows) :
    Payload rows := by
  obtain ⟨loose, read, checked⟩ := bind_eq_ok.1 h
  obtain rfl := (checkRows_eq_ok_iff.1 checked).1
  refine ⟨checked, fun row hrow => ?_⟩
  obtain ⟨x, hx⟩ := Reader.exists_of_mem_listOf read row hrow
  exact Reader.nodup_fields hx

/-- Columns to set that were read are at least one. -/
theorem ne_nil_of_readAssigned {v : Value} {fields : Fields} (h : readAssigned v = .ok fields) :
    fields ≠ [] := by
  obtain ⟨loose, -, checked⟩ := bind_eq_ok.1 h
  rintro rfl
  unfold checkAssigned at checked
  split at checked
  · cases checked
  · rename_i given
    cases checked
    exact given rfl

/-- Conflict columns that were read are at least one. -/
theorem ne_nil_of_readConflictColumns {v : Value} {columns : List String}
    (h : readConflictColumns v = .ok columns) : columns ≠ [] := by
  obtain ⟨loose, -, checked⟩ := bind_eq_ok.1 h
  rintro rfl
  unfold checkConflictColumns at checked
  split at checked
  · cases checked
  · rename_i given
    cases checked
    exact given rfl

namespace Operation

/-- **Operations that were read are sound**, whatever fields they were read from. -/
theorem sound_of_ofFields {kind : StatementKind} {given : Fields} {op : Operation}
    (h : ofFields kind given = .ok op) : op.Sound := by
  obtain ⟨⟨⟨⟩, made⟩, parts, rfl⟩ := map_eq_ok.1 h
  have body := (Checked.and_eq_ok.1 parts).2
  cases kind with
  | select =>
    obtain ⟨s, assembled, rfl⟩ := map_eq_ok.1 body
    obtain ⟨-, -, conditions, -, -⟩ := Select.assemble_eq_ok_iff.1 assembled
    exact gathered_of_optional conditions
  | insert =>
    obtain ⟨s, assembled, rfl⟩ := map_eq_ok.1 body
    obtain ⟨v, rows⟩ := Reader.exists_of_required (Insert.assemble_eq_ok_iff.1 assembled).2.1
    exact payload_of_readRows rows
  | upsert =>
    obtain ⟨s, assembled, rfl⟩ := map_eq_ok.1 body
    obtain ⟨-, rows, -, conflict⟩ := Upsert.assemble_eq_ok_iff.1 assembled
    obtain ⟨v, rows⟩ := Reader.exists_of_required rows
    obtain ⟨w, conflict⟩ := Reader.exists_of_required conflict
    exact ⟨payload_of_readRows rows, ne_nil_of_readConflictColumns conflict⟩
  | update =>
    obtain ⟨s, assembled, rfl⟩ := map_eq_ok.1 body
    obtain ⟨-, values, conditions, -⟩ := Update.assemble_eq_ok_iff.1 assembled
    obtain ⟨v, values⟩ := Reader.exists_of_required values
    exact ⟨ne_nil_of_readAssigned values, gathered_of_optional conditions⟩
  | delete =>
    obtain ⟨s, assembled, rfl⟩ := map_eq_ok.1 body
    obtain ⟨-, conditions, -⟩ := Delete.assemble_eq_ok_iff.1 assembled
    exact gathered_of_optional conditions

/-- A sound operation is well formed. -/
theorem Sound.wellFormed {op : Operation} (h : op.Sound) : op.WellFormed := by
  cases op with
  | select s => exact fun c hc => (h c hc).listed
  | insert s => exact h
  | upsert s => exact h
  | update s => exact ⟨h.1, fun c hc => (h.2 c hc).listed⟩
  | delete s => exact fun c hc => (h c hc).listed

/-- Constructed operations are well formed. -/
theorem wellFormed_of_constructed {op : Operation} (h : op.Constructed) : op.WellFormed := by
  obtain ⟨given, made⟩ := h
  exact (sound_of_ofFields made).wellFormed

end Operation

end QueryChain
