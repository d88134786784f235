import QueryChain.Proofs.Chain.Refusal
import QueryChain.Proofs.Schema.Assignment
import QueryChain.Proofs.Statement.Compile

/-!
# How compiling fails

Compiling an operation that can be reached is to refuse what it cannot write with a validation
failure.  The payload of such an operation has every column in every row, so that writing it cannot
fail.  One way to fail escapes the check of the operands: the operand of `IN` is turned into a list
when it is read, but an operand that is left out is not read, and nothing can be looked among.

## Main definitions

* `NameRules.checkHead`, `NameRules.checkTail` — the checks in front of the conditions and behind
  them.
* `NameRules.LooksAmongNothing` — the operations that escape.

## Main results

* `NameRules.unvalidated_checkConditions` — predicates fail as the first one of them that fails.
* `NameRules.compile_refusal_iff` — which operations fail without a validation failure, and how.
-/

set_option relaxedAutoImplicit false
set_option autoImplicit false

namespace QueryChain.NameRules

variable {rules : NameRules}

/-! ### Parts of the checks -/

/-- The checks of an operation in front of those of its conditions. -/
def checkHead (rules : NameRules) (op : Operation) : Except Failure Unit :=
  match op with
  | .select s => (checkColumnList (.text s.columns)).map fun _ => ()
  | .insert s => rules.checkInserted s.rows
  | .upsert s => do
    rules.checkInserted s.rows
    (rules.checkNames s.conflictColumns).map fun _ => ()
  | .update s => rules.checkAssigned s.values
  | .delete _ => .ok ()

/-- The checks of an operation behind those of its conditions. -/
def checkTail (rules : NameRules) (op : Operation) : Except Failure Unit :=
  match op with
  | .select s => rules.checkOrder s.orderBy
  | op => checkReturned op.columnList

/-- The checks of an operation are those of its head, its conditions and its tail. -/
theorem check_eq_parts (op : Operation) :
    rules.check op = (do
      rules.checkHead op
      rules.checkConditions op.conditions
      rules.checkTail op) := by
  cases op with
  | select s =>
    simp only [check, checkHead, Operation.conditions, checkTail]
    cases checkColumnList (.text s.columns) <;> rfl
  | insert s => rfl
  | upsert s =>
    simp only [check, checkHead, Operation.conditions, checkTail]
    cases rules.checkInserted s.rows with
    | error f => rfl
    | ok u => cases rules.checkNames s.conflictColumns <;> rfl
  | update s => rfl
  | delete s => rfl

/-- An operation whose head passes, and which has a condition with `IN` and without an operand, in
front of which every condition passes. -/
def LooksAmongNothing (rules : NameRules) (op : Operation) : Prop :=
  rules.checkHead op = .ok () ∧ ∃ before c after, op.conditions = before ++ c :: after
    ∧ (∀ b ∈ before, rules.checkCondition b = .ok ())
    ∧ rules.checkColumn (.text c.column) = .ok c.column ∧ c.operator = .isIn ∧ c.operand = .null

/-! ### Checks that refuse -/

/-- The check of names. -/
theorem not_unvalidated_checkNames (names : List String) :
    ¬ Unvalidated (rules.checkNames names) := by
  induction names with
  | nil => exact not_unvalidated_ok _
  | cons name names ih =>
    refine not_unvalidated_bind (not_unvalidated_checkPlain _ _) fun checked => ?_
    exact not_unvalidated_bind ih fun rest => not_unvalidated_ok _

/-- The check of what an update sets. -/
theorem not_unvalidated_checkAssigned (fields : Fields) :
    ¬ Unvalidated (rules.checkAssigned fields) := by
  induction fields with
  | nil => exact not_unvalidated_ok _
  | cons field fields ih =>
    exact not_unvalidated_bind (not_unvalidated_checkPlain _ _) fun checked => ih

/-- The check of an order. -/
theorem not_unvalidated_checkOrder (order : Option OrderBy) :
    ¬ Unvalidated (rules.checkOrder order) := by
  cases order with
  | none => exact not_unvalidated_ok _
  | some order =>
    exact not_unvalidated_bind (not_unvalidated_checkColumn _) fun checked => not_unvalidated_ok _

/-- The check of what is returned. -/
theorem not_unvalidated_checkReturned (columns : String) :
    ¬ Unvalidated (checkReturned columns) := by
  unfold checkReturned
  split
  · exact not_unvalidated_ok _
  · exact not_unvalidated_bind (not_unvalidated_checkColumnList _) fun checked =>
      not_unvalidated_ok _

/-- The check of a payload that was read: it has a row, and every row has every column. -/
theorem not_unvalidated_checkInserted {rows : List Fields} (payload : Payload rows) :
    ¬ Unvalidated (rules.checkInserted rows) := by
  obtain ⟨-, first, rest, e, -⟩ := checkRows_eq_ok_iff.1 payload.checked
  have found : columnNames rows = .ok (rowColumns rows) := by
    rw [e]
    rfl
  have valued : checkRowValues (rowColumns rows) rows = .ok () := by
    refine checkRowValues_eq_ok_iff.2 fun row hrow => ?_
    exact Fields.exists_values_of_has (has_of_checkRows payload.names payload.checked row hrow)
  rw [checkInserted, found, valued]
  refine not_unvalidated_bind (not_unvalidated_ok _) fun columns => ?_
  exact not_unvalidated_bind (not_unvalidated_checkNames _) fun checked => not_unvalidated_ok _

/-- The check of the head of a sound operation. -/
theorem not_unvalidated_checkHead {op : Operation} (sound : op.Sound) :
    ¬ Unvalidated (rules.checkHead op) := by
  cases op with
  | select s =>
    rw [checkHead, unvalidated_map]
    exact not_unvalidated_checkColumnList _
  | insert s => exact not_unvalidated_checkInserted sound
  | upsert s =>
    refine not_unvalidated_bind (not_unvalidated_checkInserted sound.1) fun _ => ?_
    rw [unvalidated_map]
    exact not_unvalidated_checkNames _
  | update s => exact not_unvalidated_checkAssigned _
  | delete s => exact not_unvalidated_ok _

/-- The check of the tail of an operation. -/
theorem not_unvalidated_checkTail (op : Operation) : ¬ Unvalidated (rules.checkTail op) := by
  cases op with
  | select s => exact not_unvalidated_checkOrder _
  | insert s | upsert s | update s | delete s => exact not_unvalidated_checkReturned _

/-! ### Conditions -/

/-- Predicates that pass are passed over. -/
theorem checkConditions_append {before : List Condition}
    (passed : ∀ b ∈ before, rules.checkCondition b = .ok ()) (cs : List Condition) :
    rules.checkConditions (before ++ cs) = rules.checkConditions cs := by
  induction before with
  | nil => rfl
  | cons b before ih =>
    obtain ⟨here, later⟩ := List.forall_mem_cons.1 passed
    rw [List.cons_append, checkConditions, here]
    exact ih later

/-- Predicates fail as the first one of them that fails. -/
theorem unvalidated_checkConditions (cs : List Condition) :
    Unvalidated (rules.checkConditions cs) ↔ ∃ before c after, cs = before ++ c :: after
      ∧ (∀ b ∈ before, rules.checkCondition b = .ok ()) ∧ Unvalidated (rules.checkCondition c) := by
  induction cs with
  | nil =>
    refine iff_of_false (not_unvalidated_ok _) ?_
    rintro ⟨before, c, after, e, -⟩
    simp at e
  | cons c cs ih =>
    rw [checkConditions, unvalidated_bind]
    constructor
    · rintro (h | ⟨_, passed, h⟩)
      · exact ⟨[], c, cs, rfl, by simp, h⟩
      · obtain ⟨before, d, after, rfl, earlier, failed⟩ := ih.1 h
        exact ⟨c :: before, d, after, rfl, List.forall_mem_cons.2 ⟨passed, earlier⟩, failed⟩
    · rintro ⟨before, d, after, e, earlier, failed⟩
      cases before with
      | nil =>
        obtain ⟨rfl, rfl⟩ := List.cons.inj e
        exact .inl failed
      | cons b before =>
        obtain ⟨rfl, rfl⟩ := List.cons.inj e
        obtain ⟨passed, earlier⟩ := List.forall_mem_cons.1 earlier
        exact .inr ⟨(), passed, ih.2 ⟨before, d, after, rfl, earlier, failed⟩⟩

/-- A predicate with `IN` fails at an operand without elements. -/
theorem checkCondition_of_elements {c : Condition}
    (column : rules.checkColumn (.text c.column) = .ok c.column) (isIn : c.operator = .isIn)
    (nothing : c.operand.elements? = none) :
    rules.checkCondition c = .error (.fault (.notIterable c.operand.qualifiedKindName)) := by
  rw [checkCondition, column, isIn, Value.elements, nothing]
  rfl

/-- A predicate fails in another way than by refusal only if it has `IN` and an operand without
elements. -/
theorem unvalidated_checkCondition_iff {c : Condition} :
    Unvalidated (rules.checkCondition c) ↔
      rules.checkColumn (.text c.column) = .ok c.column ∧ c.operator = .isIn
        ∧ c.operand.elements? = none := by
  constructor
  · rw [checkCondition, unvalidated_bind]
    rintro (h | ⟨name, passed, h⟩)
    · exact absurd h (not_unvalidated_checkColumn _)
    · have column := (checkColumn_eq_ok_iff.1 passed).1 ▸ passed
      refine ⟨column, ?_⟩
      have keyword : ¬ Unvalidated (checkKeyword c.operand >>= fun _ => pure ()) :=
        not_unvalidated_bind (not_unvalidated_checkKeyword _) fun _ => not_unvalidated_ok _
      cases operator : c.operator
      case isIn =>
        refine ⟨rfl, ?_⟩
        cases elements : c.operand.elements? with
        | none => rfl
        | some xs =>
          rw [operator, Value.elements, elements] at h
          exact absurd h (not_unvalidated_ok _)
      all_goals rw [operator] at h
      case is | isNot => exact absurd h keyword
      all_goals exact absurd h (not_unvalidated_ok _)
  · rintro ⟨column, isIn, nothing⟩
    exact ⟨_, checkCondition_of_elements column isIn nothing, id⟩

/-- A predicate with `IN` and without an operand fails at its operand. -/
theorem checkCondition_of_null {c : Condition}
    (column : rules.checkColumn (.text c.column) = .ok c.column) (isIn : c.operator = .isIn)
    (null : c.operand = .null) :
    rules.checkCondition c = .error (.fault (.notIterable "NoneType")) := by
  have fails := checkCondition_of_elements column isIn (by rw [null]; rfl)
  rw [null] at fails
  exact fails

/-- A predicate that was read fails in another way than by refusal only if it has `IN` and no
operand. -/
theorem unvalidated_checkCondition {c : Condition} (gathered : c.Gathered) :
    Unvalidated (rules.checkCondition c) ↔
      rules.checkColumn (.text c.column) = .ok c.column ∧ c.operator = .isIn
        ∧ c.operand = .null := by
  rw [unvalidated_checkCondition_iff]
  refine and_congr_right fun _ => and_congr_right fun isIn => ⟨fun nothing => ?_, fun null => ?_⟩
  · refine (gathered isIn).resolve_right ?_
    rintro ⟨xs, list⟩
    rw [list] at nothing
    cases nothing
  · rw [null]
    rfl

/-! ### Compiling -/

/-- An operation that looks among nothing fails there. -/
theorem LooksAmongNothing.compile_eq {op : Operation} (h : rules.LooksAmongNothing op) :
    rules.compile op = .error (.fault (.notIterable "NoneType")) := by
  obtain ⟨head, before, c, after, split, passed, column, isIn, null⟩ := h
  have conditions : rules.checkConditions op.conditions
      = .error (.fault (.notIterable "NoneType")) := by
    rw [split, checkConditions_append passed, checkConditions,
      checkCondition_of_null column isIn null]
    rfl
  rw [NameRules.compile_eq, check_eq_parts, head, conditions]
  rfl

/-- A sound operation fails in another way than by refusal only if it looks among nothing. -/
theorem unvalidated_compile_iff {op : Operation} (sound : op.Sound) :
    Unvalidated (rules.compile op) ↔ rules.LooksAmongNothing op := by
  have gathered : ∀ c ∈ op.conditions, c.Gathered := by
    cases op with
    | select s => exact sound
    | insert s | upsert s => exact fun c hc => by cases hc
    | update s => exact sound.2
    | delete s => exact sound
  constructor
  · -- of the three parts of the check, only that of the conditions can fail in another way
    rw [NameRules.compile_eq, unvalidated_map, check_eq_parts, unvalidated_bind]
    rintro (h | ⟨_, head, h⟩)
    · exact absurd h (not_unvalidated_checkHead sound)
    rcases unvalidated_bind.1 h with h | ⟨_, -, h⟩
    · obtain ⟨before, c, after, split, passed, failed⟩ := (unvalidated_checkConditions _).1 h
      have mem : c ∈ op.conditions := by
        rw [split]
        exact List.mem_append_right _ List.mem_cons_self
      exact ⟨head, before, c, after, split, passed,
        (unvalidated_checkCondition (gathered c mem)).1 failed⟩
    · exact absurd h (not_unvalidated_checkTail op)
  · exact fun h => ⟨_, h.compile_eq, id⟩

/-- **How compiling an operation that is reached fails**: with a validation failure, unless a
condition with `IN` has no operand.  Then, if everything in front of this operand passes, the
failure is that nothing can be looked among.

**Proof sketch.**  An operation that is reached is sound: its rows have every column, and `IN` has a
list or nothing.  So every check in front of the conditions and behind them can only refuse, and so
can the checks of conditions, but for that operand. -/
theorem compile_refusal_iff (rules : NameRules) {op : Operation} (reached : op.Reached)
    (f : Failure) :
    (rules.compile op = .error f ∧ ¬ f.IsValidation)
      ↔ rules.LooksAmongNothing op ∧ f = .fault (.notIterable "NoneType") := by
  have sound := Operation.sound_of_reached reached
  constructor
  · rintro ⟨failed, escaped⟩
    have nothing := (unvalidated_compile_iff sound).1 ⟨f, failed, escaped⟩
    exact ⟨nothing, Except.error.inj (failed.symm.trans nothing.compile_eq)⟩
  · rintro ⟨nothing, rfl⟩
    exact ⟨nothing.compile_eq, id⟩

/-- A query whose limit is assigned after it was read, with `IN` and without an operand. -/
theorem compile_refusal_iff_limit :
    let rules : NameRules := ⟨63, "id"⟩
    let op : Operation := .select ⟨"users", "*", [⟨"id", .isIn, .null⟩], none, some 5⟩
    op.Reached ∧ rules.compile op = .error (.fault (.notIterable "NoneType")) := by
  intro rules op
  have read : Operation.ofFields .select [("table", .text "users"), ("conditions", .list
      [.map [(.text "column", .text "id"), (.text "operator", .text "IN")]])]
      = .ok (.select ⟨"users", "*", [⟨"id", .isIn, .null⟩], none, none⟩) := by rfl
  have limited : Operation.assign (.select ⟨"users", "*", [⟨"id", .isIn, .null⟩], none, none⟩)
      "limit" (.int 5) = .ok op := by rfl
  have reached : op.Reached := .assigned (.read read) limited
  have column : rules.checkColumn (.text "id") = .ok "id" := by rfl
  refine ⟨reached, ((compile_refusal_iff rules reached _).2 ⟨⟨rfl, ?_⟩, rfl⟩).1⟩
  exact ⟨[], ⟨"id", .isIn, .null⟩, [], rfl, by simp, column, rfl, rfl⟩

/-- A condition is read without an operand for `IN`, and the query that has it does not compile: the
failure is not a validation failure. -/
theorem not_isValidation_compile_in :
    ∃ (op : Operation) (f : Failure),
      Operation.ofFields .select [("table", .text "users"), ("conditions", .list
        [.map [(.text "column", .text "id"), (.text "operator", .text "IN")]])] = .ok op
        ∧ compile ⟨63, "id"⟩ op = .error f ∧ ¬ f.IsValidation :=
  ⟨.select ⟨"users", "*", [⟨"id", .isIn, .null⟩], none, none⟩, .fault (.notIterable "NoneType"),
    rfl, rfl, id⟩

end QueryChain.NameRules
