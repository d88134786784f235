import QueryChain.Proofs.Chain.Reading
import QueryChain.Proofs.Statement.Compile

/-!
# Chains compile to the statements that their calls say

The calls of a chain check their arguments, the operation checks its fields, and compiling checks
every name once more.  What the first check accepts passes the others, with two exceptions: a table
that no bytes encode is refused with the operation, and the length of conflict columns is checked
with the statement only.

## Main results

* `NameRules.check_statementOf` — the statement of calls that succeeded passes its checks.
* `Chain.hasHalf_of_compile` — only tables without halves of pairs compile.
* `Chain.compile_run_eq` — calls that succeed compile to the statement that they say.
-/

set_option relaxedAutoImplicit false
set_option autoImplicit false

namespace QueryChain

/-! ### What one call passes on -/

namespace Call.Fits

variable {rules : NameRules} {call : Call}

/-- A selected column list passes. -/
theorem columns (h : call.Fits rules) {s : String} (said : call.columns? = some s) :
    NameRules.checkColumnList (.text s) = .ok s := by
  cases call
  case select =>
    obtain ⟨t, told, passes⟩ := h
    cases told.symm.trans said
    exact passes
  all_goals cases said

/-- An added predicate passes. -/
theorem condition (h : call.Fits rules) {c : Condition} (said : call.condition? = some c) :
    rules.checkCondition c = .ok () := by
  cases call
  case filter =>
    obtain ⟨d, told, passes⟩ := h
    cases told.symm.trans said
    exact passes
  all_goals cases said

/-- An order that was asked for passes. -/
theorem order (h : call.Fits rules) {o : OrderBy} (said : call.orderBy? = some o) :
    rules.checkColumn (.text o.column) = .ok o.column := by
  cases call
  case order =>
    obtain ⟨p, told, passes⟩ := h
    cases told.symm.trans said
    exact passes
  all_goals cases said

/-- Rows to insert pass. -/
theorem inserted (h : call.Fits rules) {rows : List Fields} (said : call.insertRows? = some rows) :
    rules.Insertable rows := by
  cases call
  case insert =>
    obtain ⟨others, told, passes⟩ := h
    cases told.symm.trans said
    exact passes
  all_goals cases said

/-- Rows to insert or overwrite pass. -/
theorem upserted (h : call.Fits rules) {rows : List Fields} (said : call.upsertRows? = some rows) :
    rules.Insertable rows := by
  cases call
  case upsert =>
    obtain ⟨⟨others, told, passes⟩, -⟩ := h
    cases told.symm.trans said
    exact passes
  all_goals cases said

/-- Conflict columns are plain names, and there is one. -/
theorem conflict (h : call.Fits rules) {target : List String}
    (said : call.conflict? rules = some target) :
    target ≠ []
      ∧ ∀ column ∈ target, Name.isPlain (Name.withoutFinalNewline column.toList) = true := by
  cases call
  case upsert =>
    obtain ⟨-, others, told, passes⟩ := h
    cases told.symm.trans said
    exact passes
  all_goals cases said

/-- Columns to set are different, at least one, and pass. -/
theorem assigned (h : call.Fits rules) {fields : Fields} (said : call.assignments? = some fields) :
    fields ≠ [] ∧ (fields.map Prod.fst).Nodup ∧ rules.checkAssigned fields = .ok () := by
  cases call
  case update =>
    obtain ⟨others, told, passes⟩ := h
    cases told.symm.trans said
    exact passes
  all_goals cases said

end Call.Fits

/-! ### What a list of calls passes on -/

/-- Plain names that are short enough pass as the columns of a conflict target. -/
theorem NameRules.checkNames_of_isPlain {rules : NameRules} {names : List String}
    (plain : ∀ name ∈ names, Name.isPlain (Name.withoutFinalNewline name.toList) = true)
    (short : ∀ name ∈ names, name.length ≤ rules.maxLength) :
    rules.checkNames names = .ok names := by
  refine checkNames_eq_ok_iff.2 ⟨rfl, fun name hname => ?_⟩
  have passes : rules.checkLength (.text "column") name = .ok () :=
    (checkLength_of_isPlain (plain name hname)).2 (short name hname)
  exact checkPlain_eq_ok_iff.2 ⟨rfl, plain name hname, passes⟩

section Calls

variable {rules : NameRules} {calls : List Call} (fits : ∀ call ∈ calls, call.Fits rules)

include fits

/-- The column list of calls that succeeded passes. -/
theorem checkColumnList_lastOf :
    NameRules.checkColumnList (.text ((lastOf Call.columns? calls).getD "*"))
      = .ok ((lastOf Call.columns? calls).getD "*") := by
  cases said : lastOf Call.columns? calls with
  | none => rfl
  | some s =>
    obtain ⟨call, hcall, said⟩ := exists_of_lastOf said
    exact (fits call hcall).columns said

/-- A column list that calls selected passes where it is returned. -/
theorem checkReturned_lastOf :
    NameRules.checkReturned ((lastOf Call.columns? calls).getD "*") = .ok () :=
  NameRules.checkReturned_eq_ok_iff.2 (.inr (checkColumnList_lastOf fits))

/-- The filters of calls that succeeded pass. -/
theorem checkConditions_filterMap :
    rules.checkConditions (calls.filterMap Call.condition?) = .ok () := by
  refine NameRules.checkConditions_eq_ok_iff.2 fun c hc => ?_
  obtain ⟨call, hcall, said⟩ := List.mem_filterMap.1 hc
  exact (fits call hcall).condition said

/-- The order of calls that succeeded passes. -/
theorem checkOrder_lastOf : rules.checkOrder (lastOf Call.orderBy? calls) = .ok () := by
  refine NameRules.checkOrder_eq_ok_iff.2 fun o ho => ?_
  obtain ⟨call, hcall, said⟩ := exists_of_lastOf ho
  exact (fits call hcall).order said

/-- After a last write that inserts there are rows to insert. -/
theorem insertable_lastOf (h : lastOf Call.kind? calls = some .insert) :
    ∃ rows, lastOf Call.insertRows? calls = some rows ∧ rules.Insertable rows := by
  refine lastOf_of_kind (fun call hcall hkind => ?_)
    (fun call hcall rows => (fits call hcall).inserted) h
  cases call
  case insert => exact (fits _ hcall).imp fun rows h => h.1
  all_goals cases hkind

/-- After a last write that upserts there are rows to insert or overwrite. -/
theorem upsertable_lastOf (h : lastOf Call.kind? calls = some .upsert) :
    ∃ rows, lastOf Call.upsertRows? calls = some rows ∧ rules.Insertable rows := by
  refine lastOf_of_kind (fun call hcall hkind => ?_)
    (fun call hcall rows => (fits call hcall).upserted) h
  cases call
  case upsert => exact (fits _ hcall).1.imp fun rows h => h.1
  all_goals cases hkind

/-- After a last write that upserts there are conflict columns. -/
theorem conflict_lastOf (h : lastOf Call.kind? calls = some .upsert) :
    ∃ target, lastOf (Call.conflict? rules) calls = some target ∧ target ≠ []
      ∧ ∀ column ∈ target, Name.isPlain (Name.withoutFinalNewline column.toList) = true := by
  refine lastOf_of_kind (fun call hcall hkind => ?_)
    (fun call hcall target => (fits call hcall).conflict) h
  cases call
  case upsert => exact ⟨_, rfl⟩
  all_goals cases hkind

/-- After a last write that updates there are columns to set. -/
theorem assignable_lastOf (h : lastOf Call.kind? calls = some .update) :
    ∃ fields, lastOf Call.assignments? calls = some fields ∧ fields ≠ []
      ∧ (fields.map Prod.fst).Nodup ∧ rules.checkAssigned fields = .ok () := by
  refine lastOf_of_kind (fun call hcall hkind => ?_)
    (fun call hcall fields => (fits call hcall).assigned) h
  cases call
  case update => exact (fits _ hcall).imp fun fields h => h.1
  all_goals cases hkind

/-- The state that calls which succeeded say can be read again. -/
theorem readable_reading (table : Value) : (Chain.reading rules table calls).Readable := by
  have kind : (Chain.reading rules table calls).kind = (lastOf Call.kind? calls).getD .select := rfl
  unfold Chain.Readable
  rw [kind]
  cases said : lastOf Call.kind? calls with
  | none => trivial
  | some k =>
    cases k with
    | select => trivial
    | delete => trivial
    | insert =>
      obtain ⟨rows, hrows, insertable⟩ := insertable_lastOf fits said
      simp only [Option.getD_some, Chain.reading, hrows]
      exact insertable.readRows_eq
    | upsert =>
      obtain ⟨rows, hrows, insertable⟩ := upsertable_lastOf fits said
      obtain ⟨target, htarget, given, -⟩ := conflict_lastOf fits said
      simp only [Option.getD_some, Chain.reading, hrows, htarget]
      exact ⟨insertable.readRows_eq, readConflictColumns_of_ne_nil given⟩
    | update =>
      obtain ⟨fields, hfields, given, names, -⟩ := assignable_lastOf fits said
      simp only [Option.getD_some, Chain.reading, hfields]
      exact readAssigned_of_nodup names given

/-- The statement of calls that succeeded passes its checks, if its conflict columns are short
enough. -/
theorem NameRules.check_statementOf (table : String)
    (short : lastOf Call.kind? calls = some .upsert →
      ∀ target ∈ lastOf (Call.conflict? rules) calls, ∀ column ∈ target,
        column.length ≤ rules.maxLength) :
    rules.check (statementOf rules table calls) = .ok () := by
  have columns := checkColumnList_lastOf fits
  have returned := checkReturned_lastOf fits
  have conditions := checkConditions_filterMap fits
  have order := checkOrder_lastOf fits
  unfold statementOf
  cases said : lastOf Call.kind? calls with
  | none => exact bind_eq_ok.2 ⟨_, columns, unit_bind_eq_ok.2 ⟨conditions, order⟩⟩
  | some k =>
    cases k with
    | select => exact bind_eq_ok.2 ⟨_, columns, unit_bind_eq_ok.2 ⟨conditions, order⟩⟩
    | insert =>
      obtain ⟨rows, hrows, insertable⟩ := insertable_lastOf fits said
      rw [hrows]
      refine unit_bind_eq_ok.2 ⟨insertable.checkInserted, ?_⟩
      cases selected : lastOf Call.columns? calls with
      | none => rfl
      | some s =>
        rw [selected] at returned
        exact returned
    | upsert =>
      obtain ⟨rows, hrows, insertable⟩ := upsertable_lastOf fits said
      obtain ⟨target, htarget, -, plain⟩ := conflict_lastOf fits said
      rw [hrows, htarget]
      have names := checkNames_of_isPlain plain (short said target htarget)
      refine unit_bind_eq_ok.2 ⟨insertable.checkInserted, bind_eq_ok.2 ⟨target, names, ?_⟩⟩
      simp only [Operation.columnList, Option.getD_some]
      split
      · rfl
      · exact returned
    | update =>
      obtain ⟨fields, hfields, -, -, assigned⟩ := assignable_lastOf fits said
      rw [hfields]
      exact unit_bind_eq_ok.2 ⟨assigned, unit_bind_eq_ok.2 ⟨conditions, returned⟩⟩
    | delete => exact unit_bind_eq_ok.2 ⟨conditions, returned⟩

end Calls

/-! ### Compiling chains -/

namespace Chain

variable {rules : NameRules}

/-- Only tables without halves of pairs compile. -/
theorem hasHalf_of_compile {c : Chain} {table : String} {compiled : Compiled}
    (named : c.table = .text table) (h : c.compile rules = .ok compiled) :
    Text.hasHalf table = false := by
  obtain ⟨op, recorded, -⟩ := bind_eq_ok.1 h
  have read := table_of_toOperation recorded
  rw [named] at read
  exact (Reader.nonemptyText_eq_ok_iff.1 read).2.2

/-- **A chain refines the reading of its calls.**  Let every call of a chain succeed, on a table
that is not empty and has no half of a pair alone.  Then the chain compiles, and to the statement
that the list of its calls says.  The mappings among the arguments have distinct keys, as all
mappings that are written entry by entry have (`Value.Entries.distinct_ofList`).

**Proof sketch.**  The calls end in the state that they say.  Its parts passed the checks of the
calls, so that they are recorded as they are, and the operation recorded is the statement of the
list.  Compiling it checks its names once more, and only the length of conflict columns has not been
checked before. -/
theorem compile_run_eq {table : String} {calls : List Call} (given : table ≠ "")
    (whole : Text.hasHalf table = false) (distinct : ∀ call ∈ calls, call.KeysDistinct)
    (accepted : (start (.text table)).Accepts rules calls)
    (short : lastOf Call.kind? calls = some .upsert →
      ∀ target ∈ lastOf (Call.conflict? rules) calls, ∀ column ∈ target,
        column.length ≤ rules.maxLength) :
    (run rules (start (.text table)) calls).compile rules
      = .ok (statementOf rules table calls).compiled := by
  obtain ⟨ran, fits⟩ := run_eq_reading distinct accepted
  have named : Reader.nonemptyText (reading rules (.text table) calls).table = .ok table :=
    Reader.nonemptyText_eq_ok_iff.2 ⟨rfl, given, whole⟩
  have recorded := record_eq named (readable_reading fits (.text table))
  rw [operation_reading] at recorded
  rw [ran]
  refine bind_eq_ok.2 ⟨_, toOperation_eq_ok_iff.2 recorded, ?_⟩
  exact NameRules.compile_eq_ok_iff.2 ⟨NameRules.check_statementOf fits table short, rfl⟩

/-- A chain that filters, orders and limits around an upsert: the write uses its own row, the
default conflict target and the columns selected last. -/
theorem compile_run_eq_upsert :
    let calls : List Call :=
      [.filter .eq (.text "name") .null, .order (.text "id") (.bool true),
        .upsert (.map [(.text "id", .int 1), (.text "name", .text "a")]) .null,
        .select (.text "id"), .limit (.int 5)]
    let chain := run ⟨63, "id"⟩ (start (.text "users")) calls
    chain.compile ⟨63, "id"⟩ = .ok (statementOf ⟨63, "id"⟩ "users" calls).compiled
      ∧ statementOf ⟨63, "id"⟩ "users" calls
        = .upsert ⟨"users", [[("id", .int 1), ("name", .text "a")]], some "id", ["id"]⟩ := by
  intro calls chain
  have distinct : ∀ call ∈ calls, call.KeysDistinct := by
    simp only [calls, List.forall_mem_cons, Call.KeysDistinct, payloadRows?, Option.some.injEq]
    refine ⟨trivial, trivial, ?_, trivial, trivial, fun _ h => by cases h⟩
    rintro rows rfl row hrow
    rw [List.mem_singleton.1 hrow, Value.Entries.Distinct]
    decide
  have short : ∀ target ∈ lastOf (Call.conflict? ⟨63, "id"⟩) calls, ∀ column ∈ target,
      column.length ≤ 63 := by
    rintro target ⟨⟩
    decide
  exact ⟨compile_run_eq (by decide) (by decide) distinct ⟨rfl, rfl, rfl, rfl, rfl, trivial⟩
    fun _ => short, rfl⟩

/-- A table that is half of a pair alone is not empty, and a chain without calls on it does not
compile. -/
theorem not_compile_half :
    let table := String.singleton (Text.ofCode 0xD800)
    table ≠ "" ∧ (start (.text table)).Accepts ⟨63, "id"⟩ []
      ∧ ∀ compiled : Compiled,
        (run ⟨63, "id"⟩ (start (.text table)) []).compile ⟨63, "id"⟩ ≠ .ok compiled := by
  intro table
  refine ⟨by decide, trivial, fun compiled h => ?_⟩
  have whole : Text.hasHalf table = false := hasHalf_of_compile rfl h
  have half : Text.hasHalf table = true := by decide
  rw [half] at whole
  cases whole

end Chain

end QueryChain
