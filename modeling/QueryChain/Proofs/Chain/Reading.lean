import QueryChain.Proofs.Chain.Payload
import QueryChain.Proofs.Chain.Record

/-!
# Reading a list of calls

A list of calls says what its statement is without running them: the kind is that of the last write,
filters count in their order, and of everything else the last call that mentions it counts.  As long
as every call succeeds, running the calls ends in the state that they say.

## Main definitions

* `Call.kind?`, `Call.columns?`, `Call.condition?`, … — what one call says.
* `lastOf` — what the last call says that says anything.
* `statementOf` — the statement of a list of calls.
* `Chain.Accepts` — every call of a list succeeds, run one after the other.
* `Chain.reading` — the state that a list of calls says.
* `Call.Fits` — what is known about a call that succeeded.

## Main results

* `Chain.apply_of_success` — a call that succeeds changes the state as it says.
* `Chain.run_eq_reading` — calls that succeed end in the state that they say.
-/

set_option relaxedAutoImplicit false
set_option autoImplicit false

namespace QueryChain

/-! ### What one call says -/

/-- The predicate of a comparison.  Comparing with null asks whether the column is null, and values
to look among are kept as a list. -/
def Comparison.condition (comparison : Comparison) (column : String) (operand : Value) :
    Condition :=
  match comparison with
  | .eq => if operand.isNull then ⟨column, .is, .null⟩ else ⟨column, .eq, operand⟩
  | .neq => if operand.isNull then ⟨column, .isNot, .null⟩ else ⟨column, .neq, operand⟩
  | .gt => ⟨column, .gt, operand⟩
  | .gte => ⟨column, .gte, operand⟩
  | .lt => ⟨column, .lt, operand⟩
  | .lte => ⟨column, .lte, operand⟩
  | .like => ⟨column, .like, operand⟩
  | .ilike => ⟨column, .ilike, operand⟩
  | .is => ⟨column, .is, operand⟩
  | .isIn => ⟨column, .isIn, .list (operand.elements?.getD [])⟩

/-- The conflict columns that a given target names: its segments between commas, those of the
default if it is blank or no text. -/
def NameRules.targetColumns (rules : NameRules) (given : Value) : List String :=
  match given with
  | .text s =>
    conflictSegments (if (Text.stripChars s.toList).isEmpty then rules.defaultConflict else s)
  | _ => conflictSegments rules.defaultConflict

namespace Call

/-- The kind of statement that a call asks for; only writes do. -/
@[simp] def kind? : Call → Option StatementKind
  | insert _ => some .insert
  | upsert _ _ => some .upsert
  | update _ => some .update
  | delete => some .delete
  | _ => none

/-- The column list that a call selects. -/
@[simp] def columns? : Call → Option String
  | select columns => columns.text?
  | _ => none

/-- The predicate that a call adds. -/
@[simp] def condition? : Call → Option Condition
  | filter comparison column operand =>
    column.text?.map fun name => comparison.condition name operand
  | _ => none

/-- The order that a call asks for; every argument but false orders upwards. -/
@[simp] def orderBy? : Call → Option OrderBy
  | order column ascending =>
    column.text?.map fun name =>
      ⟨name, match ascending with
        | .bool false => false
        | _ => true⟩
  | _ => none

/-- The number of rows that a call asks for. -/
@[simp] def limit? : Call → Option Nat
  | limit (.int (.ofNat n)) => some n
  | _ => none

/-- The rows that a call inserts. -/
@[simp] def insertRows? : Call → Option (List Fields)
  | insert data => (payloadRows? data).map (List.map Value.Entries.named)
  | _ => none

/-- The rows that a call inserts or overwrites. -/
@[simp] def upsertRows? : Call → Option (List Fields)
  | upsert data _ => (payloadRows? data).map (List.map Value.Entries.named)
  | _ => none

/-- The columns that a call sets. -/
@[simp] def assignments? : Call → Option Fields
  | update (.map entries) => some (Value.Entries.named entries)
  | _ => none

/-- The conflict columns that a call names. -/
@[simp] def conflict? (rules : NameRules) : Call → Option (List String)
  | upsert _ target => some (rules.targetColumns target)
  | _ => none

/-- The mappings of a payload have distinct keys. -/
def KeysDistinct : Call → Prop
  | insert data | upsert data _ | update data =>
    ∀ rows, payloadRows? data = some rows → ∀ row ∈ rows, row.Distinct
  | _ => True

end Call

/-! ### What a list of calls says -/

/-- What the last call says that says anything. -/
def lastOf {α : Type} (field : Call → Option α) (calls : List Call) : Option α :=
  calls.reverse.findSome? field

/-- The statement of a list of calls on a table.  Its kind is that of the last write, and a query
for rows without any.  Filters count in their order, wherever they stand; of every other part the
last mention counts. -/
def statementOf (rules : NameRules) (table : String) (calls : List Call) : Operation :=
  let columns := lastOf Call.columns? calls
  let conditions := calls.filterMap Call.condition?
  match lastOf Call.kind? calls with
  | none | some .select =>
    .select ⟨table, columns.getD "*", conditions, lastOf Call.orderBy? calls,
      lastOf Call.limit? calls⟩
  | some .insert => .insert ⟨table, (lastOf Call.insertRows? calls).getD [], columns⟩
  | some .upsert =>
    .upsert ⟨table, (lastOf Call.upsertRows? calls).getD [], some (columns.getD "*"),
      (lastOf (Call.conflict? rules) calls).getD []⟩
  | some .update =>
    .update ⟨table, (lastOf Call.assignments? calls).getD [], conditions, some (columns.getD "*")⟩
  | some .delete => .delete ⟨table, conditions, some (columns.getD "*")⟩

section LastOf

variable {α : Type} {field : Call → Option α} {calls : List Call} {call : Call} {a : α}

/-- One more call comes first if it says anything. -/
theorem lastOf_concat : lastOf field (calls ++ [call]) = (field call).or (lastOf field calls) := by
  simp only [lastOf, List.reverse_append, List.reverse_singleton, List.singleton_append,
    List.findSome?_cons]
  cases field call <;> rfl

/-- What a list of calls says is said by one of them. -/
theorem exists_of_lastOf (h : lastOf field calls = some a) :
    ∃ call ∈ calls, field call = some a := by
  obtain ⟨call, hcall, ha⟩ := List.exists_of_findSome?_eq_some h
  exact ⟨call, List.mem_reverse.1 hcall, ha⟩

/-- If the last write of a list of calls is of a kind, and calls of this kind say something, then
the list says it, and what it says has every property that calls guarantee. -/
theorem lastOf_of_kind {kind : StatementKind} {P : α → Prop}
    (said : ∀ call ∈ calls, call.kind? = some kind → ∃ a, field call = some a)
    (passes : ∀ call ∈ calls, ∀ a, field call = some a → P a)
    (h : lastOf Call.kind? calls = some kind) : ∃ a, lastOf field calls = some a ∧ P a := by
  obtain ⟨call, hcall, hkind⟩ := exists_of_lastOf h
  obtain ⟨a, ha⟩ := said call hcall hkind
  cases found : lastOf field calls with
  | none =>
    have nothing := List.findSome?_eq_none_iff.1 found call (List.mem_reverse.2 hcall)
    rw [ha] at nothing
    cases nothing
  | some b =>
    obtain ⟨call, hcall, hb⟩ := exists_of_lastOf found
    exact ⟨b, rfl, passes call hcall b hb⟩

end LastOf

/-! ### The state that a list of calls says -/

namespace Chain

/-- Every call of a list succeeds, run one after the other. -/
def Accepts (rules : NameRules) (c : Chain) : List Call → Prop
  | [] => True
  | call :: calls => (c.apply rules call).2 = none ∧ Accepts rules (c.apply rules call).1 calls

/-- The state that a list of calls on a table says. -/
def reading (rules : NameRules) (table : Value) (calls : List Call) : Chain where
  table := table
  kind := (lastOf Call.kind? calls).getD .select
  columns := (lastOf Call.columns? calls).getD "*"
  selected := (lastOf Call.columns? calls).isSome
  conditions := calls.filterMap Call.condition?
  orderBy := lastOf Call.orderBy? calls
  limit := lastOf Call.limit? calls
  insertRows := lastOf Call.insertRows? calls
  upsertRows := lastOf Call.upsertRows? calls
  assignments := lastOf Call.assignments? calls
  conflictColumns := lastOf (Call.conflict? rules) calls

/-- A state after a call that changes what it says. -/
def advance (rules : NameRules) (c : Chain) (call : Call) : Chain where
  table := c.table
  kind := call.kind?.getD c.kind
  columns := call.columns?.getD c.columns
  selected := call.columns?.isSome || c.selected
  conditions := c.conditions ++ call.condition?.toList
  orderBy := call.orderBy?.or c.orderBy
  limit := call.limit?.or c.limit
  insertRows := call.insertRows?.or c.insertRows
  upsertRows := call.upsertRows?.or c.upsertRows
  assignments := call.assignments?.or c.assignments
  conflictColumns := (call.conflict? rules).or c.conflictColumns

/-- One more call changes what a list of calls says as it changes a state. -/
theorem advance_reading (rules : NameRules) (table : Value) (calls : List Call) (call : Call) :
    (reading rules table calls).advance rules call = reading rules table (calls ++ [call]) := by
  simp only [advance, reading, lastOf_concat, List.filterMap_append, Option.getD_or,
    Option.isSome_or]
  congr 1

/-- The operation of the state that a list of calls says is their statement. -/
theorem operation_reading (rules : NameRules) (table : String) (calls : List Call) :
    (reading rules (.text table) calls).operation table = statementOf rules table calls := by
  unfold operation reading statementOf
  generalize lastOf Call.columns? calls = columns
  cases lastOf Call.kind? calls with
  | none => rfl
  | some kind =>
    cases kind
    case insert => cases columns <;> rfl
    all_goals rfl

end Chain

/-! ### Calls that succeed -/

namespace NameRules

variable {rules : NameRules}

/-- Only texts pass as columns. -/
theorem text_of_checkColumn {column : Value} {name : String}
    (h : rules.checkColumn column = .ok name) : column = .text name := by
  cases column
  case text s => rw [(checkColumn_eq_ok_iff.1 h).1]
  all_goals cases h

/-- Only texts pass as column lists. -/
theorem text_of_checkColumnList {columns : Value} {text : String}
    (h : checkColumnList columns = .ok text) : columns = .text text := by
  cases columns
  case text s => rw [(checkColumnList_eq_ok_iff.1 h).1]
  all_goals cases h

/-- Only integers that are not negative pass as numbers of rows. -/
theorem int_of_checkLimit {count : Value} {n : Nat} (h : checkLimit count = .ok n) :
    count = .int (.ofNat n) := by
  unfold checkLimit at h
  split at h <;> cases h
  rfl

/-- The text of a conflict target has the segments that the target names. -/
theorem conflictSegments_of_conflictText {given : Value} {text : String}
    (h : rules.conflictText given = .ok text) :
    conflictSegments text = rules.targetColumns given := by
  unfold conflictText at h
  cases given
  case text s =>
    by_cases empty : s = ""
    · subst empty
      cases h
      rfl
    · have truthy : (Value.text s).truthy = true := by simpa [Value.truthy] using empty
      rw [if_pos truthy] at h
      cases h
      rfl
  case bytes bs =>
    split at h
    · simp only at h
      split at h <;> cases h
      rfl
    · cases h
      rfl
  all_goals
    split at h <;> cases h
    rfl

/-- A conflict target that passes names plain columns, at least one. -/
theorem eq_of_checkConflictTarget {given : Value} {target : List String}
    (h : rules.checkConflictTarget given = .ok target) :
    target = rules.targetColumns given ∧ target ≠ []
      ∧ ∀ column ∈ target, Name.isPlain (Name.withoutFinalNewline column.toList) = true := by
  obtain ⟨text, htext, h⟩ := bind_eq_ok.1 h
  simp only at h
  split at h
  · rename_i plain
    cases h
    refine ⟨conflictSegments_of_conflictText htext, ?_, List.all_eq_true.1 plain⟩
    simpa [conflictSegments, Text.segments] using Text.splitAtChar_ne_nil ',' text.toList
  · cases h

end NameRules

/-- What is known about a call that succeeded: it says what it is for, and what it says passes every
check that is made later. -/
def Call.Fits (rules : NameRules) (call : Call) : Prop :=
  match call with
  | .select _ =>
    ∃ s, call.columns? = some s ∧ NameRules.checkColumnList (.text s) = .ok s
  | .insert _ => ∃ rows, call.insertRows? = some rows ∧ rules.Insertable rows
  | .upsert _ _ =>
    (∃ rows, call.upsertRows? = some rows ∧ rules.Insertable rows)
      ∧ ∃ target, call.conflict? rules = some target ∧ target ≠ []
        ∧ ∀ column ∈ target, Name.isPlain (Name.withoutFinalNewline column.toList) = true
  | .update _ =>
    ∃ fields, call.assignments? = some fields ∧ fields ≠ [] ∧ (fields.map Prod.fst).Nodup
      ∧ rules.checkAssigned fields = .ok ()
  | .delete => True
  | .filter _ _ _ => ∃ c, call.condition? = some c ∧ rules.checkCondition c = .ok ()
  | .order _ _ =>
    ∃ o, call.orderBy? = some o ∧ rules.checkColumn (.text o.column) = .ok o.column
  | .limit _ => ∃ n, call.limit? = some n

namespace Chain

variable {rules : NameRules} {c next : Chain} {call : Call}

/-- A filter that succeeds adds the predicate that it says. -/
theorem addFilter_eq_ok {comparison : Comparison} {column operand : Value}
    (h : c.addFilter rules comparison column operand = .ok next) :
    ∃ name, column = .text name
      ∧ next = { c with conditions := c.conditions ++ [comparison.condition name operand] }
      ∧ rules.checkCondition (comparison.condition name operand) = .ok () := by
  have added {operator : Operator} {operand : Value}
      (h : c.addCondition rules column operator operand = .ok next)
      (fits : NameRules.OperandFits ⟨column.display, operator, operand⟩) :
      ∃ name, column = .text name
        ∧ next = { c with conditions := c.conditions ++ [⟨name, operator, operand⟩] }
        ∧ rules.checkCondition ⟨name, operator, operand⟩ = .ok () := by
    obtain ⟨name, hname, e⟩ := bind_eq_ok.1 h
    cases e
    obtain rfl := NameRules.text_of_checkColumn hname
    exact ⟨name, rfl, rfl, NameRules.checkCondition_eq_ok_iff.2 ⟨hname, fits⟩⟩
  cases comparison
  case eq =>
    cases operand
    case null => exact added h ⟨_, rfl⟩
    all_goals exact added h trivial
  case neq =>
    cases operand
    case null => exact added h ⟨_, rfl⟩
    all_goals exact added h trivial
  case is =>
    obtain ⟨keyword, hkeyword, h⟩ := bind_eq_ok.1 h
    exact added h ⟨keyword, hkeyword⟩
  case isIn =>
    obtain ⟨values, hvalues, h⟩ := bind_eq_ok.1 h
    have members : operand.elements?.getD [] = values := by
      unfold memberList at hvalues
      split at hvalues <;> cases hvalues <;> rfl
    simp only [Comparison.condition, members]
    exact added h ⟨values, rfl⟩
  all_goals exact added h trivial

/-- A call that can only change the chain as a whole: it succeeds with the next chain. -/
theorem settle_of_success {x : Except Failure Chain} (h : (apply.settle c x).2 = none) :
    x = .ok (apply.settle c x).1 := by
  cases x with
  | error e => cases h
  | ok next => rfl

/-- The rows that an accepted payload says. -/
theorem rows_of_checkPayload {data : Value} {rows : List Fields}
    (h : rules.checkPayload data = .ok rows) :
    (payloadRows? data).map (List.map Value.Entries.named) = some rows := by
  have each : (rows.map fun fields => fields.map fun field => (Value.text field.1, field.2)).map
      Value.Entries.named = rows := by
    rw [List.map_map]
    exact List.map_id'' Value.Entries.named_of_fields rows
  rw [(NameRules.checkPayload_eq_ok h).1, Option.map_some, each]

/-- A call that succeeds changes the state as it says, and what it says passes every later check. -/
theorem apply_of_success (distinct : call.KeysDistinct) (h : (c.apply rules call).2 = none) :
    (c.apply rules call).1 = c.advance rules call ∧ call.Fits rules := by
  cases call with
  | select columns =>
    obtain ⟨text, htext, e⟩ := bind_eq_ok.1 (settle_of_success h)
    obtain rfl := NameRules.text_of_checkColumnList htext
    refine ⟨(Except.ok.inj e).symm.trans ?_, text, rfl, htext⟩
    simp [advance, Value.text?]
  | insert data =>
    obtain ⟨rows, hrows, e⟩ := bind_eq_ok.1 (settle_of_success h)
    have said := rows_of_checkPayload hrows
    refine ⟨(Except.ok.inj e).symm.trans ?_, rows, said,
      NameRules.insertable_of_checkPayload hrows distinct⟩
    simp [advance, said]
  | upsert data onConflict =>
    simp only [apply] at h ⊢
    cases htarget : rules.checkConflictTarget onConflict with
    | error f =>
      rw [htarget] at h
      cases h
    | ok target =>
      simp only [htarget] at h ⊢
      cases hrows : rules.checkPayload data with
      | error f =>
        rw [hrows] at h
        cases h
      | ok rows =>
        have said := rows_of_checkPayload hrows
        obtain ⟨rfl, given, plain⟩ := NameRules.eq_of_checkConflictTarget htarget
        refine ⟨?_, ⟨rows, said, NameRules.insertable_of_checkPayload hrows distinct⟩,
          rules.targetColumns onConflict, rfl, given, plain⟩
        simp [advance, said]
  | update data =>
    obtain ⟨fields, hfields, e⟩ := bind_eq_ok.1 (settle_of_success h)
    obtain ⟨rfl, given, assigned⟩ := NameRules.checkAssignments_eq_ok hfields
    have names := (distinct _ rfl _ List.mem_cons_self).nodup_names
    have said : Value.Entries.named (fields.map fun field => (.text field.1, field.2)) = fields :=
      Value.Entries.named_of_fields fields
    refine ⟨(Except.ok.inj e).symm.trans ?_, fields, congrArg some said, given, names, assigned⟩
    simp [advance, said]
  | delete =>
    refine ⟨?_, trivial⟩
    simp [apply, advance]
  | filter comparison column operand =>
    obtain ⟨name, rfl, e, checked⟩ := addFilter_eq_ok (settle_of_success h)
    refine ⟨e.trans ?_, _, rfl, checked⟩
    simp [advance, Value.text?]
  | order column ascending =>
    obtain ⟨name, hname, e⟩ := bind_eq_ok.1 (settle_of_success h)
    obtain rfl := NameRules.text_of_checkColumn hname
    refine ⟨(Except.ok.inj e).symm.trans ?_, _, rfl, hname⟩
    simp [advance, Value.text?]
    rfl
  | limit count =>
    obtain ⟨n, hn, e⟩ := bind_eq_ok.1 (settle_of_success h)
    obtain rfl := NameRules.int_of_checkLimit hn
    refine ⟨(Except.ok.inj e).symm.trans ?_, n, rfl⟩
    simp [advance]

/-- Whatever holds of a chain, and of the next one if a call succeeds with it, holds behind the
call. -/
theorem settle_induction (P : Chain → Prop) {x : Except Failure Chain} (before : P c)
    (changed : ∀ next, x = .ok next → P next) : P (apply.settle c x).1 := by
  cases x with
  | error f => exact before
  | ok next => exact changed next rfl

/-- A call leaves the table alone, whether it succeeds or not. -/
theorem table_apply (rules : NameRules) (c : Chain) (call : Call) :
    (c.apply rules call).1.table = c.table := by
  cases call with
  | upsert data onConflict =>
    simp only [apply]
    cases rules.checkConflictTarget onConflict with
    | error f => rfl
    | ok target => cases rules.checkPayload data <;> rfl
  | delete => rfl
  | filter comparison column operand =>
    refine settle_induction (fun next => next.table = c.table) rfl fun next h => ?_
    obtain ⟨name, -, rfl, -⟩ := addFilter_eq_ok h
    rfl
  | _ =>
    refine settle_induction (fun next => next.table = c.table) rfl fun next h => ?_
    obtain ⟨checked, -, e⟩ := bind_eq_ok.1 h
    cases e
    rfl

/-- Calls leave the table alone. -/
theorem table_run (rules : NameRules) (c : Chain) (calls : List Call) :
    (run rules c calls).table = c.table := by
  induction calls generalizing c with
  | nil => rfl
  | cons call calls ih => exact (ih (c.apply rules call).1).trans (table_apply rules c call)

/-- Running calls one after the other: the first call first. -/
theorem run_cons (rules : NameRules) (c : Chain) (call : Call) (calls : List Call) :
    run rules c (call :: calls) = run rules (c.apply rules call).1 calls := rfl

/-- **Calls that succeed end in the state that they say**, and each of them says only what passes
later checks.

**Proof sketch.**  Induction on the calls to come, behind any calls that are done already.  Whether
a call succeeds and how it changes the state does not depend on the state, so one more call changes
the state as it changes what the list says. -/
theorem run_eq_reading {table : Value} {calls : List Call}
    (distinct : ∀ call ∈ calls, call.KeysDistinct) (accepted : (start table).Accepts rules calls) :
    run rules (start table) calls = reading rules table calls
      ∧ ∀ call ∈ calls, call.Fits rules := by
  have behind (calls : List Call) (done : List Call)
      (distinct : ∀ call ∈ calls, call.KeysDistinct)
      (accepted : (reading rules table done).Accepts rules calls) :
      run rules (reading rules table done) calls = reading rules table (done ++ calls)
        ∧ ∀ call ∈ calls, call.Fits rules := by
    induction calls generalizing done with
    | nil => exact ⟨by rw [List.append_nil]; rfl, fun call hcall => by cases hcall⟩
    | cons call calls ih =>
      obtain ⟨first, distinct⟩ := List.forall_mem_cons.1 distinct
      obtain ⟨succeeds, accepted⟩ := accepted
      obtain ⟨changed, fits⟩ := apply_of_success first succeeds
      rw [changed, advance_reading] at accepted
      obtain ⟨ran, later⟩ := ih (done ++ [call]) distinct accepted
      refine ⟨?_, List.forall_mem_cons.2 ⟨fits, later⟩⟩
      rw [run_cons, changed, advance_reading, ran, List.append_assoc, List.singleton_append]
  exact behind calls [] distinct accepted

end Chain

end QueryChain
