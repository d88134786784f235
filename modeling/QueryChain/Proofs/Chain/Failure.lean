import QueryChain.Proofs.Chain.Reading
import QueryChain.Proofs.Statement.Compile
import QueryChain.Proofs.Statement.NameList

/-!
# Calls that fail

A call that fails leaves the chain as it was, with one exception.  An upsert keeps its conflict
target when the target is accepted and the payload is refused.  The target that is kept is seen only
if an upsert is in force already: then the statement of that upsert gets the new target.

## Main definitions

* `Call.target?` — the conflict target that a call leaves behind, whether it succeeds or not.
* `Chain.retargeted` — a chain with another conflict target.
* `Chain.Overrides` — a call leaves another conflict target in an upsert that is in force.

## Main results

* `Chain.apply_of_failure` — what a call that fails leaves behind.
* `Chain.apply_retargeted`, `Chain.run_retargeted` — calls do not look at the conflict target.
* `Chain.conflictColumns_eq_of_compile` — the statement of an upsert shows its target.
* `Chain.compile_run_of_failure` — when a call that fails can be told from no call at all.
-/

set_option relaxedAutoImplicit false
set_option autoImplicit false

namespace QueryChain

/-- The conflict target that a call leaves behind, whether it succeeds or not: that of an upsert, if
it is accepted. -/
def Call.target? (rules : NameRules) : Call → Option (List String)
  | .upsert _ given => (rules.checkConflictTarget given).toOption
  | _ => none

namespace Chain

/-- A chain with another conflict target. -/
def retargeted (c : Chain) (target : Option (List String)) : Chain :=
  { c with conflictColumns := target }

/-- A call leaves another conflict target in an upsert that is in force. -/
def Overrides (rules : NameRules) (c : Chain) (call : Call) : Prop :=
  c.kind = .upsert ∧ ∃ target, call.target? rules = some target ∧ c.conflictColumns ≠ some target

variable {rules : NameRules} {c : Chain} {call : Call} {target : Option (List String)}

/-! ### One call -/

/-- A filter does not look at the conflict target. -/
theorem addFilter_retargeted (comparison : Comparison) (column operand : Value) :
    (c.retargeted target).addFilter rules comparison column operand
      = (c.addFilter rules comparison column operand).map fun next => next.retargeted target := by
  have added (operator : Operator) (operand : Value) :
      (c.retargeted target).addCondition rules column operator operand
        = (c.addCondition rules column operator operand).map fun next =>
            next.retargeted target := by
    unfold addCondition
    cases rules.checkColumn column <;> rfl
  cases comparison
  case is =>
    simp only [addFilter, added]
    cases NameRules.checkKeyword operand <;> rfl
  case isIn =>
    simp only [addFilter, added]
    cases memberList operand <;> rfl
  all_goals exact added _ _

/-- A call does not look at the conflict target: it changes any other part of the chain, and fails,
whatever the target is. -/
theorem apply_retargeted :
    (c.retargeted target).apply rules call
      = ((c.apply rules call).1.retargeted ((call.target? rules).or target),
          (c.apply rules call).2) := by
  cases call with
  | select columns =>
    simp only [apply]
    cases NameRules.checkColumnList columns <;> rfl
  | insert data =>
    simp only [apply]
    cases rules.checkPayload data <;> rfl
  | upsert data given =>
    simp only [apply, Call.target?]
    cases rules.checkConflictTarget given with
    | error f => rfl
    | ok accepted => cases rules.checkPayload data <;> rfl
  | update data =>
    simp only [apply]
    cases rules.checkAssignments data <;> rfl
  | delete => rfl
  | filter comparison column operand =>
    simp only [apply, addFilter_retargeted]
    cases c.addFilter rules comparison column operand <;> rfl
  | order column ascending =>
    simp only [apply]
    cases rules.checkColumn column <;> rfl
  | limit count =>
    simp only [apply]
    cases NameRules.checkLimit count <;> rfl

/-- A call that can only change the chain as a whole changes nothing when it fails. -/
theorem settle_of_failure {x : Except Failure Chain} {f : Failure}
    (h : (apply.settle c x).2 = some f) : (apply.settle c x).1 = c := by
  cases x with
  | error e => rfl
  | ok next => cases h

/-- A call that fails leaves the chain as it was, but for the conflict target that it accepted. -/
theorem apply_of_failure {f : Failure} (failed : (c.apply rules call).2 = some f) :
    (c.apply rules call).1 = c.retargeted ((call.target? rules).or c.conflictColumns) := by
  cases call with
  | upsert data given =>
    simp only [apply, Call.target?] at failed ⊢
    cases htarget : rules.checkConflictTarget given with
    | error e => rfl
    | ok accepted =>
      simp only [htarget] at failed ⊢
      cases hrows : rules.checkPayload data with
      | error e => rfl
      | ok rows =>
        rw [hrows] at failed
        cases failed
  | delete => cases failed
  | _ => exact settle_of_failure failed

/-- The kind of a chain becomes that of an upsert only by a call that leaves a conflict target. -/
theorem kind_of_kind_apply (h : (c.apply rules call).1.kind = .upsert)
    (untouched : call.target? rules = none) : c.kind = .upsert := by
  cases call
  case upsert data given =>
    simp only [apply, Call.target?] at h untouched
    cases passed : rules.checkConflictTarget given <;> rw [passed] at h untouched
    case error => exact h
    case ok => cases untouched
  case delete => cases h
  case filter comparison column operand =>
    refine settle_induction (fun next => next.kind = .upsert → c.kind = .upsert) id
      (fun next passed h => ?_) h
    obtain ⟨name, -, rfl, -⟩ := addFilter_eq_ok passed
    exact h
  case insert | update =>
    -- these make a kind of their own when they succeed
    refine settle_induction (fun next => next.kind = .upsert → c.kind = .upsert) id
      (fun next passed h => ?_) h
    obtain ⟨checked, -, e⟩ := bind_eq_ok.1 passed
    cases e
    cases h
  all_goals
    refine settle_induction (fun next => next.kind = .upsert → c.kind = .upsert) id
      (fun next passed h => ?_) h
    obtain ⟨checked, -, e⟩ := bind_eq_ok.1 passed
    cases e
    exact h

/-! ### Several calls -/

/-- The conflict target after a call is the one that the call leaves behind, if it does. -/
theorem conflictColumns_apply :
    (c.apply rules call).1.conflictColumns = (call.target? rules).or c.conflictColumns := by
  have own : c.apply rules call
      = ((c.apply rules call).1.retargeted ((call.target? rules).or c.conflictColumns),
          (c.apply rules call).2) := apply_retargeted
  have first := congrArg (fun outcome => outcome.1.conflictColumns) own
  exact first

/-- Calls do not look at the conflict target.  If no upsert is in force that has another target
than a chain is given, then no upsert is after the calls. -/
theorem run_retargeted (rules : NameRules)
    (unused : c.kind = .upsert → c.conflictColumns = target) (calls : List Call) :
    ∃ later, run rules (c.retargeted target) calls = (run rules c calls).retargeted later
      ∧ ((run rules c calls).kind = .upsert → (run rules c calls).conflictColumns = later) := by
  induction calls generalizing c target with
  | nil => exact ⟨target, rfl, unused⟩
  | cons call calls ih =>
    rw [run_cons, run_cons, apply_retargeted]
    refine ih fun upserts => ?_
    rw [conflictColumns_apply]
    cases given : call.target? rules with
    | some accepted => rfl
    | none => exact unused (kind_of_kind_apply upserts given)

/-- The statement of a chain shows its conflict target only if an upsert is in force. -/
theorem compile_retargeted (unused : c.kind = .upsert → c.conflictColumns = target) :
    (c.retargeted target).compile rules = c.compile rules := by
  by_cases upserts : c.kind = .upsert
  · rw [← unused upserts]
    rfl
  · have recorded : (c.retargeted target).record = c.record := by
      unfold record retargeted
      cases h : c.kind with
      | upsert => exact absurd h upserts
      | _ => rfl
    unfold compile toOperation
    rw [recorded]
    cases c.record <;> rfl

/-! ### The text of an upsert -/

/-- A chain in which an upsert is in force is recorded as an upsert on its own conflict target. -/
theorem upsert_of_record {op : Operation} (upserts : c.kind = .upsert) (h : c.record = .ok op) :
    ∃ s : Upsert, op = .upsert s ∧ Reader.nonemptyText c.table = .ok s.table
      ∧ readRows (rowsValue c.upsertRows) = .ok s.rows ∧ s.returning = some c.columns
      ∧ c.conflictColumns = some s.conflictColumns ∧ s.conflictColumns ≠ [] := by
  rw [record] at h
  simp only [upserts, map_eq_ok] at h
  obtain ⟨s, assembled, rfl⟩ := h
  obtain ⟨table, rows, returning, conflict⟩ := Upsert.assemble_eq_ok_iff.1 assembled
  obtain ⟨read, hread, checked⟩ := bind_eq_ok.1 (Checked.under_eq_ok.1 conflict)
  have given : read = s.conflictColumns ∧ read ≠ [] := by
    unfold checkConflictColumns at checked
    split at checked
    · cases checked
    · rename_i nonempty
      exact ⟨Except.ok.inj checked, by simpa using nonempty⟩
  obtain ⟨rfl, nonempty⟩ := given
  refine ⟨s, rfl, Checked.under_eq_ok.1 table, Checked.under_eq_ok.1 rows,
    (Except.ok.inj returning).symm, ?_, nonempty⟩
  cases own : c.conflictColumns with
  | none =>
    rw [own] at hread
    cases hread
  | some columns =>
    rw [own, Option.map_some, Option.getD_some, Reader.listOf_text] at hread
    rw [Except.ok.inj hread]

/-- The text of an upsert: its conflict target stands between parts that do not depend on it. -/
theorem sql_upsert (s : Upsert) :
    (Operation.upsert s).compiled.sql
      = Piece.write Binder.dollarMark 0 (insertPieces s.table s.rows) ++ (" ON CONFLICT ("
        ++ (commaList s.conflictColumns ++ (") DO UPDATE SET "
          ++ commaList ((rowColumns s.rows).map NameRules.overwrite)
          ++ (if (Operation.upsert s).columnList = "" then "" else " RETURNING ")
          ++ (Operation.upsert s).columnList))) := by
  simp [Operation.compiled, NameRules.write_pieces, Operation.front, Operation.back, Piece.write,
    Piece.write_append, conflictPieces, NameRules.write_namePieces,
    NameRules.write_overwritePieces, NameRules.write_returningHead, String.append_assoc]

/-- The conflict columns of an upsert that compiles have no comma. -/
theorem comma_notMem_of_check {s : Upsert} (checked : rules.check (.upsert s) = .ok ()) :
    ∀ column ∈ s.conflictColumns, ',' ∉ column.toList := by
  obtain ⟨names, conflict, -⟩ := bind_eq_ok.1 (unit_bind_eq_ok.1 checked).2
  intro column hcolumn
  have plain := (NameRules.checkNames_eq_ok_iff.1 conflict).2 column hcolumn
  exact Name.comma_notMem_of_isPlain (NameRules.checkPlain_eq_ok_iff.1 plain).2.1

/-- Upserts on different conflict targets compile to different statements.

**Proof sketch.**  The texts agree in front of the targets and behind them, so the targets have the
same text.  Conflict columns have no comma, so the text of a target can be split into them again. -/
theorem conflictColumns_eq_of_compile {compiled : Compiled} (upserts : c.kind = .upsert)
    (h : c.compile rules = .ok compiled)
    (same : (c.retargeted target).compile rules = .ok compiled) :
    c.conflictColumns = target := by
  obtain ⟨op, recorded, h⟩ := bind_eq_ok.1 h
  obtain ⟨op', recorded', same⟩ := bind_eq_ok.1 same
  obtain ⟨s, rfl, table, rows, returning, own, given⟩ :=
    upsert_of_record upserts (toOperation_eq_ok_iff.1 recorded)
  obtain ⟨s', rfl, table', rows', returning', own', given'⟩ :=
    upsert_of_record (c := c.retargeted target) upserts (toOperation_eq_ok_iff.1 recorded')
  obtain ⟨checked, rfl⟩ := NameRules.compile_eq_ok_iff.1 h
  obtain ⟨checked', sql⟩ := NameRules.compile_eq_ok_iff.1 same
  have sameTable : s.table = s'.table := Except.ok.inj (table.symm.trans table')
  have sameRows : s.rows = s'.rows := Except.ok.inj (rows.symm.trans rows')
  have sameList : (Operation.upsert s).columnList = (Operation.upsert s').columnList := by
    simp only [Operation.columnList, returning, returning']
    rfl
  have text := congrArg Compiled.sql sql
  rw [sql_upsert, sql_upsert, sameTable, sameRows, sameList, String.append_right_inj,
    String.append_right_inj, String.append_left_inj] at text
  rw [own, commaList_injective (comma_notMem_of_check checked) (comma_notMem_of_check checked')
    given given' text]
  exact own'.symm

/-! ### Calls that fail -/

/-- **When a call that fails leaves a trace.**  It leaves none unless it overrides the conflict
target of an upsert in force: then whatever is called afterwards fails or succeeds as it would
without the call, and the chain compiles to the same statement or fails in the same way.  A call
that overrides the target changes the statement at once.

**Proof sketch.**  The chain that a failed call leaves behind has at most another conflict target.
Calls do not look at the target, and the statement shows it only if an upsert is in force.  Such an
upsert either was in force all the time, and then its target is the same, or came later with a
target of its own. -/
theorem compile_run_of_failure {f : Failure} (failed : (c.apply rules call).2 = some f) :
    (¬ c.Overrides rules call → ∀ calls : List Call,
      (run rules (c.apply rules call).1 calls).compile rules = (run rules c calls).compile rules
        ∧ ∀ next : Call, ((run rules (c.apply rules call).1 calls).apply rules next).2
          = ((run rules c calls).apply rules next).2)
      ∧ (c.Overrides rules call → ∀ compiled : Compiled, c.compile rules = .ok compiled →
        (c.apply rules call).1.compile rules ≠ .ok compiled) := by
  rw [apply_of_failure failed]
  constructor
  · intro keeps calls
    have unused (upserts : c.kind = .upsert) :
        c.conflictColumns = (call.target? rules).or c.conflictColumns := by
      cases accepted : call.target? rules with
      | none => rfl
      | some target =>
        by_contra other
        exact keeps ⟨upserts, target, accepted, other⟩
    obtain ⟨later, ran, still⟩ := run_retargeted rules unused calls
    rw [ran]
    exact ⟨compile_retargeted still, fun next => by rw [apply_retargeted]⟩
  · rintro ⟨upserts, target, accepted, other⟩ compiled h same
    rw [accepted] at same
    exact other (conflictColumns_eq_of_compile upserts h same)

/-- An upsert on a primary key is in force, and an upsert on another column is refused for its empty
payload: it overrides the conflict target. -/
theorem compile_run_of_failure_upsert :
    let rules : NameRules := ⟨63, "id"⟩
    let row : Value := .map [(.text "id", .int 1), (.text "email", .text "a")]
    let chain := run rules (start (.text "users")) [.upsert row (.text "id")]
    let refused := Call.upsert (.list []) (.text "email")
    (chain.apply rules refused).2.isSome = true ∧ chain.Overrides rules refused
      ∧ ∀ compiled : Compiled, chain.compile rules = .ok compiled →
        (chain.apply rules refused).1.compile rules ≠ .ok compiled := by
  intro rules row chain refused
  have fails : (chain.apply rules refused).2.isSome = true := by decide +kernel
  have upserts : chain.kind = .upsert := by decide +kernel
  have accepted : refused.target? rules = some ["email"] := by decide +kernel
  have other : chain.conflictColumns ≠ some ["email"] := by decide +kernel
  have overrides : chain.Overrides rules refused := ⟨upserts, ["email"], accepted, other⟩
  obtain ⟨f, failed⟩ := Option.isSome_iff_exists.1 fails
  exact ⟨fails, overrides, (compile_run_of_failure failed).2 overrides⟩

/-- A call that fails can change the statement of a chain: here the rows collide on another column
than before. -/
theorem sql_of_failure_upsert :
    let rules : NameRules := ⟨63, "id"⟩
    let row : Value := .map [(.text "id", .int 1), (.text "email", .text "a")]
    let chain := run rules (start (.text "users")) [.upsert row (.text "id")]
    let refused := Call.upsert (.list []) (.text "email")
    (chain.apply rules refused).2.isSome = true
      ∧ (chain.compile rules).toOption.map Compiled.sql
        = some ("INSERT INTO users (id, email) VALUES ($1, $2) ON CONFLICT (id) "
          ++ "DO UPDATE SET id = EXCLUDED.id, email = EXCLUDED.email RETURNING *")
      ∧ ((chain.apply rules refused).1.compile rules).toOption.map Compiled.sql
        = some ("INSERT INTO users (id, email) VALUES ($1, $2) ON CONFLICT (email) "
          ++ "DO UPDATE SET id = EXCLUDED.id, email = EXCLUDED.email RETURNING *") := by
  intro rules row chain refused
  refine ⟨?_, ?_, ?_⟩
  · decide +kernel
  · decide +kernel
  · decide +kernel

end Chain

end QueryChain
