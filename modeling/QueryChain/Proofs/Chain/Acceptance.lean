import QueryChain.Proofs.Chain.Refinement
import QueryChain.Settings.Basic

/-!
# Accepted calls that do not compile

Calls check their arguments, so that a chain should compile once all its calls have succeeded.  It
does, unless one of two things is the case that no call looks at: the table is kept as it is given,
and the columns of a conflict target are only compared with the grammar of names, while their length
is compared with the limit when the statement is written.  The limit is a setting, and no setting
keeps the default conflict target below it.

## Main results

* `NameRules.length_le_of_checkNames` — names that pass are no longer than the limit.
* `Chain.toOperation_run` — the operation of calls that succeeded is the statement that they say.
* `Chain.exists_compile_iff` — which chains of calls that succeeded compile.
-/

set_option relaxedAutoImplicit false
set_option autoImplicit false

namespace QueryChain

/-- Names that pass as columns are no longer than the limit. -/
theorem NameRules.length_le_of_checkNames {rules : NameRules} {names checked : List String}
    (h : rules.checkNames names = .ok checked) : ∀ name ∈ names, name.length ≤ rules.maxLength := by
  intro name hname
  have passes := (checkNames_eq_ok_iff.1 h).2 name hname
  obtain ⟨-, plain, short⟩ := checkPlain_eq_ok_iff.1 passes
  exact (checkLength_of_isPlain plain).1 short

/-- If the statement of a list of calls passes its checks, then its conflict columns are no longer
than the limit. -/
theorem NameRules.length_le_of_check_statementOf {rules : NameRules} {table : String}
    {calls : List Call} (upserts : lastOf Call.kind? calls = some .upsert)
    (h : rules.check (statementOf rules table calls) = .ok ()) :
    ∀ target ∈ lastOf (Call.conflict? rules) calls, ∀ column ∈ target,
      column.length ≤ rules.maxLength := by
  intro target htarget
  unfold statementOf at h
  simp only [upserts] at h
  obtain ⟨names, conflict, -⟩ := bind_eq_ok.1 (unit_bind_eq_ok.1 h).2
  rw [Option.mem_def.1 htarget] at conflict
  exact length_le_of_checkNames conflict

namespace Chain

variable {rules : NameRules}

/-- The operation of calls that succeeded is the statement that they say, on a table that is not
empty and has no half of a pair alone. -/
theorem toOperation_run {table : String} {calls : List Call} (given : table ≠ "")
    (whole : Text.hasHalf table = false) (distinct : ∀ call ∈ calls, call.KeysDistinct)
    (accepted : (start (.text table)).Accepts rules calls) :
    (run rules (start (.text table)) calls).toOperation = .ok (statementOf rules table calls) := by
  obtain ⟨ran, fits⟩ := run_eq_reading distinct accepted
  have named : Reader.nonemptyText (reading rules (.text table) calls).table = .ok table :=
    Reader.nonemptyText_eq_ok_iff.2 ⟨rfl, given, whole⟩
  have recorded := record_eq named (readable_reading fits (.text table))
  rw [operation_reading] at recorded
  rw [ran]
  exact toOperation_eq_ok_iff.2 recorded

/-- **Which accepted calls compile.**  Let every call of a chain succeed.  Then the chain compiles
exactly when the table has no half of a pair alone and, if an upsert is in force, no column of its
conflict target is longer than the limit.

**Proof sketch.**  What the calls accepted is recorded as the statement that they say.  Its names
have all passed, with their lengths, but for the conflict columns: of these the calls have compared
the grammar only. -/
theorem exists_compile_iff {table : String} {calls : List Call} (given : table ≠ "")
    (distinct : ∀ call ∈ calls, call.KeysDistinct)
    (accepted : (start (.text table)).Accepts rules calls) :
    (∃ compiled : Compiled, (run rules (start (.text table)) calls).compile rules = .ok compiled) ↔
      Text.hasHalf table = false
        ∧ (lastOf Call.kind? calls = some .upsert →
          ∀ target ∈ lastOf (Call.conflict? rules) calls, ∀ column ∈ target,
            column.length ≤ rules.maxLength) := by
  obtain ⟨ran, fits⟩ := run_eq_reading distinct accepted
  constructor
  · rintro ⟨compiled, h⟩
    have named : (run rules (start (.text table)) calls).table = .text table := by rw [ran]; rfl
    have whole := hasHalf_of_compile named h
    obtain ⟨op, recorded, h⟩ := bind_eq_ok.1 h
    rw [toOperation_run given whole distinct accepted] at recorded
    cases recorded
    obtain ⟨checked, -⟩ := NameRules.compile_eq_ok_iff.1 h
    exact ⟨whole, fun upserts => NameRules.length_le_of_check_statementOf upserts checked⟩
  · rintro ⟨whole, short⟩
    have recorded := toOperation_run given whole distinct accepted
    have checked := NameRules.check_statementOf fits table short
    exact ⟨_, bind_eq_ok.2 ⟨_, recorded, NameRules.compile_eq_ok_iff.2 ⟨checked, rfl⟩⟩⟩

/-- An upsert that names its conflict columns compiles: none of them is longer than the limit. -/
theorem exists_compile_iff_upsert :
    let rules : NameRules := ⟨5, "id"⟩
    let calls : List Call :=
      [.upsert (.map [(.text "email", .text "a")]) (.text "email"), .filter .is (.text "id") .null]
    (∃ compiled : Compiled, (run rules (start (.text "users")) calls).compile rules = .ok compiled)
      ∧ ∀ target ∈ lastOf (Call.conflict? rules) calls, ∀ column ∈ target,
        column.length ≤ rules.maxLength := by
  intro rules calls
  have distinct : ∀ call ∈ calls, call.KeysDistinct := by
    simp only [calls, List.forall_mem_cons, Call.KeysDistinct, payloadRows?, Option.some.injEq]
    refine ⟨?_, trivial, fun _ h => by cases h⟩
    rintro rows rfl row hrow
    rw [List.mem_singleton.1 hrow, Value.Entries.Distinct]
    decide
  have accepted : (start (.text "users")).Accepts rules calls := by
    refine ⟨?_, ?_, trivial⟩
    · exact Option.isNone_iff_eq_none.1 (by decide +kernel)
    · exact Option.isNone_iff_eq_none.1 (by decide +kernel)
  have short : ∀ target ∈ lastOf (Call.conflict? rules) calls, ∀ column ∈ target,
      column.length ≤ rules.maxLength := by
    have named : lastOf (Call.conflict? rules) calls = some ["email"] := by decide +kernel
    rw [named]
    rintro target ⟨⟩
    decide
  exact ⟨(exists_compile_iff (by decide) distinct accepted).2 ⟨by decide, fun _ => short⟩, short⟩

/-- A call that succeeds can leave a chain that does not compile: when names have one letter at
most, an upsert without a target is accepted, and its default target has two. -/
theorem not_compile_conflict :
    let rules : NameRules := ⟨1, "id"⟩
    let calls : List Call := [.upsert (.map [(.text "a", .int 1)]) .null]
    (Settings.ofFields [("max_identifier_length", .int 1)]).toOption.map Settings.nameRules
        = some rules
      ∧ (start (.text "t")).Accepts rules calls
      ∧ ∀ compiled : Compiled,
        (run rules (start (.text "t")) calls).compile rules ≠ .ok compiled := by
  intro rules calls
  have fails : ((run rules (start (.text "t")) calls).compile rules).toOption.isSome = false := by
    decide +kernel
  have accepted : (start (.text "t")).Accepts rules calls :=
    ⟨Option.isNone_iff_eq_none.1 (by decide +kernel), trivial⟩
  refine ⟨by decide +kernel, accepted, fun compiled h => ?_⟩
  rw [h] at fails
  cases fails

end Chain

end QueryChain
