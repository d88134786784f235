import QueryChain.Proofs.Chain.Reading
import QueryChain.Proofs.Sorting.Total

/-!
# How calls fail

A call on a chain is to refuse what it cannot use with a validation failure.  Two ways to fail
escape this.  A conflict target that is given, but is neither a text nor blank bytes, is taken apart
before its kind is looked at.  And the keys of a row with other columns than the first are sorted to
be shown, which fails if they have no order.

## Main definitions

* `Unvalidated` — a check fails, and not with a validation failure.
* `Value.Entries.SameKeys`, `NameRules.NamesColumn` — what rows of a payload have in common, and the
  keys that they may have.
* `Unreadable`, `NameRules.Unshowable` — the conflict targets and payloads that escape.
* `Call.Escapes` — the calls that fail without a validation failure.
* `Call.Textual` — the calls with texts for conflict targets and keys.

## Main results

* `NameRules.unvalidated_checkConflictTarget`, `NameRules.unvalidated_checkPayload` — the two checks
  that can fail in another way, and when they do.
* `NameRules.exists_checkConflictTarget_iff`, `NameRules.exists_checkKeys_iff` — which conflict targets
  and keys pass.
* `Chain.exists_unvalidated_iff` — which calls fail without a validation failure.
* `Call.Textual.not_escapes` — calls with texts for targets and keys never do.
-/

set_option relaxedAutoImplicit false
set_option autoImplicit false

namespace QueryChain

/-! ### Failures of checks -/

section Unvalidated

variable {α β : Type}

/-- A check fails, and not with a validation failure. -/
def Unvalidated (x : Except Failure α) : Prop := ∃ f, x = .error f ∧ ¬ f.IsValidation

/-- A result is no failure. -/
@[simp] theorem not_unvalidated_ok (a : α) : ¬ Unvalidated (.ok a) := by
  rintro ⟨f, h, -⟩
  cases h

/-- What is rejected under a validation code is a validation failure. -/
theorem not_unvalidated_rejected (message : String) (field value : Value) {code : Code}
    (h : code.isValidation = true) :
    ¬ Unvalidated (.error (.rejected message field value code) : Except Failure α) := by
  rintro ⟨f, rejected, escaped⟩
  cases rejected
  exact escaped (Failure.isValidation_rejected message field value h)

/-- A changed result fails as the result does. -/
@[simp] theorem unvalidated_map {x : Except Failure α} {f : α → β} :
    Unvalidated (x.map f) ↔ Unvalidated x := by
  cases x with
  | ok a => exact iff_of_false (not_unvalidated_ok _) (not_unvalidated_ok _)
  | error e => simp [Unvalidated, Except.map]

/-- One check after the other. -/
theorem unvalidated_bind {x : Except Failure α} {f : α → Except Failure β} :
    Unvalidated (x >>= f) ↔ Unvalidated x ∨ ∃ a, x = .ok a ∧ Unvalidated (f a) := by
  cases x with
  | ok a =>
    refine ⟨fun h => .inr ⟨a, rfl, h⟩, ?_⟩
    rintro (h | ⟨b, e, h⟩)
    · exact absurd h (not_unvalidated_ok a)
    · cases e
      exact h
  | error e =>
    constructor
    · rintro ⟨f, h, escaped⟩
      cases h
      exact .inl ⟨_, rfl, escaped⟩
    · rintro (⟨f, h, escaped⟩ | ⟨b, h, -⟩)
      · cases h
        exact ⟨_, rfl, escaped⟩
      · cases h

/-- Checks that can only refuse, one after the other. -/
theorem not_unvalidated_bind {x : Except Failure α} {f : α → Except Failure β}
    (first : ¬ Unvalidated x) (second : ∀ a, ¬ Unvalidated (f a)) : ¬ Unvalidated (x >>= f) := by
  rw [unvalidated_bind]
  rintro (h | ⟨a, -, h⟩)
  · exact first h
  · exact second a h

end Unvalidated

/-! ### What escapes -/

/-- A conflict target that is given, and is neither a text nor blank bytes. -/
def Unreadable (given : Value) : Prop :=
  given.truthy = true ∧
    match given with
    | .text _ => False
    | .bytes bs => bs.all (fun b => (9 ≤ b && b ≤ 13) || b == 32) = false
    | _ => True

/-- Two mappings have the same keys: as many of them, and no others. -/
def Value.Entries.SameKeys (first row : Value.Entries) : Prop :=
  row.length = first.length ∧ ∀ key ∈ row.keys, key ∈ first.keys

namespace NameRules

/-- A key that can name a column: a plain name that is no longer than the limit. -/
def NamesColumn (rules : NameRules) (key : Value) : Prop :=
  ∃ s, key = .text s ∧ Name.isPlain (Name.withoutFinalNewline s.toList) = true
    ∧ s.length ≤ rules.maxLength

/-- A payload whose first row has names of columns for keys, while the first row with other keys has
keys that cannot be sorted. -/
def Unshowable (rules : NameRules) (data : Value) : Prop :=
  ∃ first earlier row later, payloadRows? data = some (first :: (earlier ++ row :: later))
    ∧ first ≠ [] ∧ (∀ key ∈ first.keys, rules.NamesColumn key)
    ∧ (∀ other ∈ earlier, first.SameKeys other) ∧ ¬ first.SameKeys row
    ∧ ∃ e, Value.sortKeys row.keys = .error e

end NameRules

/-- The calls that fail without a validation failure. -/
def Call.Escapes (rules : NameRules) : Call → Prop
  | .insert data => rules.Unshowable data
  | .upsert data onConflict =>
    Unreadable onConflict
      ∨ (∀ column ∈ rules.targetColumns onConflict,
          Name.isPlain (Name.withoutFinalNewline column.toList) = true) ∧ rules.Unshowable data
  | _ => False

/-- All keys of a payload are texts. -/
def TextKeys (data : Value) : Prop :=
  ∀ rows, payloadRows? data = some rows → ∀ row ∈ rows, ∀ key ∈ row.keys, ∃ s, key = .text s

/-- The calls with texts for conflict targets, unless none is given, and for keys. -/
def Call.Textual : Call → Prop
  | .insert data => TextKeys data
  | .upsert data onConflict => (onConflict.truthy = true → ∃ s, onConflict = .text s) ∧ TextKeys data
  | _ => True

/-- A text can be read. -/
theorem not_unreadable_of_text {given : Value} (h : given.truthy = true → ∃ s, given = .text s) :
    ¬ Unreadable given := by
  rintro ⟨present, unreadable⟩
  obtain ⟨s, rfl⟩ := h present
  exact unreadable

/-- Texts can be sorted, so that a payload with texts for keys can be shown. -/
theorem TextKeys.not_unshowable {data : Value} (h : TextKeys data) (rules : NameRules) :
    ¬ rules.Unshowable data := by
  rintro ⟨first, earlier, row, later, shape, -, -, -, -, e, unsorted⟩
  have texts := h _ shape row (by simp)
  obtain ⟨a, ha, b, hb, e, incomparable⟩ := Sorting.exists_of_sort_eq_error unsorted
  obtain ⟨s, rfl⟩ := texts a ha
  obtain ⟨t, rfl⟩ := texts b hb
  rw [Value.less_text] at incomparable
  cases incomparable

/-- Calls with texts for conflict targets and keys fail with validation failures only. -/
theorem Call.Textual.not_escapes {call : Call} (h : call.Textual) (rules : NameRules) :
    ¬ call.Escapes rules := by
  cases call with
  | insert data => exact TextKeys.not_unshowable h rules
  | upsert data onConflict =>
    rintro (unreadable | ⟨-, unshowable⟩)
    · exact not_unreadable_of_text h.1 unreadable
    · exact h.2.not_unshowable rules unshowable
  | _ => exact id

/-! ### The checks -/

namespace NameRules

variable {rules : NameRules}

/-- The check of the length of a name. -/
theorem not_unvalidated_checkLength (noun : Value) (name : String) :
    ¬ Unvalidated (rules.checkLength noun name) := by
  unfold checkLength
  split
  · exact not_unvalidated_rejected _ _ _ rfl
  · exact not_unvalidated_ok _

/-- The check of a plain name. -/
theorem not_unvalidated_checkPlain (noun name : Value) :
    ¬ Unvalidated (rules.checkPlain noun name) := by
  unfold checkPlain
  split
  · split
    · rw [unvalidated_map]
      exact not_unvalidated_checkLength _ _
    · exact not_unvalidated_rejected _ _ _ rfl
  · exact not_unvalidated_rejected _ _ _ rfl

/-- The check of a column. -/
theorem not_unvalidated_checkColumn (column : Value) : ¬ Unvalidated (rules.checkColumn column) := by
  unfold checkColumn
  split
  · split
    · rw [unvalidated_map]
      exact not_unvalidated_checkLength _ _
    · exact not_unvalidated_rejected _ _ _ rfl
  · exact not_unvalidated_rejected _ _ _ rfl

/-- The check of a column list. -/
theorem not_unvalidated_checkColumnList (columns : Value) :
    ¬ Unvalidated (checkColumnList columns) := by
  unfold checkColumnList
  split
  · split
    · exact not_unvalidated_rejected _ _ _ rfl
    · split
      · exact not_unvalidated_ok _
      · exact not_unvalidated_rejected _ _ _ rfl
  · exact not_unvalidated_rejected _ _ _ rfl

/-- The check of a limit. -/
theorem not_unvalidated_checkLimit (count : Value) : ¬ Unvalidated (checkLimit count) := by
  unfold checkLimit
  split
  · exact not_unvalidated_ok _
  · exact not_unvalidated_rejected _ _ _ rfl

/-- The check of an operand of `IS`. -/
theorem not_unvalidated_checkKeyword (operand : Value) : ¬ Unvalidated (checkKeyword operand) := by
  unfold checkKeyword
  split
  · exact not_unvalidated_ok _
  · exact not_unvalidated_ok _
  · exact not_unvalidated_ok _
  · exact not_unvalidated_rejected _ _ _ rfl

/-- The check of keys. -/
theorem not_unvalidated_checkKeys (entries : Value.Entries) :
    ¬ Unvalidated (rules.checkKeys entries) := by
  induction entries with
  | nil => exact not_unvalidated_ok _
  | cons entry entries ih =>
    refine not_unvalidated_bind (not_unvalidated_checkPlain _ _) fun name => ?_
    exact not_unvalidated_bind ih fun rest => not_unvalidated_ok _

/-- The check of what an update sets. -/
theorem not_unvalidated_checkAssignments (data : Value) :
    ¬ Unvalidated (rules.checkAssignments data) := by
  unfold checkAssignments
  split
  · exact not_unvalidated_checkKeys _
  · exact not_unvalidated_rejected _ _ _ rfl

/-- Reading a conflict target never fails with a validation failure. -/
theorem not_isValidation_of_conflictText {given : Value} {f : Failure}
    (h : rules.conflictText given = .error f) : ¬ f.IsValidation := by
  unfold conflictText at h
  split at h
  · split at h
    · cases h
    · split at h
      · cases h
      · cases h
        exact id
    · cases h
      exact id
  · cases h

/-- The text of a conflict target fails in another way when the target cannot be read. -/
theorem unvalidated_conflictText (given : Value) :
    Unvalidated (rules.conflictText given) ↔ Unreadable given := by
  unfold conflictText Unreadable
  by_cases present : given.truthy = true
  · rw [if_pos present, and_iff_right present]
    cases given with
    | text s => exact iff_of_false (not_unvalidated_ok _) id
    | bytes bs =>
      simp only
      split
      · rename_i blank
        exact iff_of_false (not_unvalidated_ok _) (by rw [blank]; simp)
      · rename_i other
        exact iff_of_true ⟨_, rfl, id⟩ (Bool.eq_false_iff.2 other)
    | _ => exact iff_of_true ⟨_, rfl, id⟩ trivial
  · rw [if_neg present]
    exact iff_of_false (not_unvalidated_ok _) fun h => present h.1

/-- The check of a conflict target fails in another way when the target cannot be read. -/
theorem unvalidated_checkConflictTarget (given : Value) :
    Unvalidated (rules.checkConflictTarget given) ↔ Unreadable given := by
  unfold checkConflictTarget
  rw [unvalidated_bind, unvalidated_conflictText]
  refine or_iff_left ?_
  rintro ⟨text, -, h⟩
  simp only at h
  split at h
  · exact not_unvalidated_ok _ h
  · exact not_unvalidated_rejected _ _ _ rfl h

/-- A conflict target passes when it can be read and names plain columns. -/
theorem exists_checkConflictTarget_iff (given : Value) :
    (∃ target, rules.checkConflictTarget given = .ok target)
      ↔ ¬ Unreadable given ∧ ∀ column ∈ rules.targetColumns given,
          Name.isPlain (Name.withoutFinalNewline column.toList) = true := by
  constructor
  · rintro ⟨target, passed⟩
    obtain ⟨rfl, -, plain⟩ := eq_of_checkConflictTarget passed
    refine ⟨fun unreadable => ?_, plain⟩
    rw [← @unvalidated_checkConflictTarget rules, passed] at unreadable
    exact not_unvalidated_ok _ unreadable
  · rintro ⟨readable, plain⟩
    cases read : rules.conflictText given with
    | error f =>
      exact absurd ((unvalidated_conflictText given).1
        ⟨f, read, not_isValidation_of_conflictText read⟩) readable
    | ok text =>
      rw [← conflictSegments_of_conflictText read] at plain
      exact ⟨_, bind_eq_ok.2 ⟨text, read, if_pos (List.all_eq_true.2 plain)⟩⟩

/-- The check of later rows fails in another way when the keys of the first row with other columns
cannot be sorted. -/
theorem unvalidated_checkRest (columns : List String) (index : Nat) (rows : List Value.Entries) :
    Unvalidated (checkRest columns index rows) ↔
      ∃ row, rows.find? (fun row => (matchRow? columns row).isNone) = some row
        ∧ ∃ e, Value.sortKeys row.keys = .error e := by
  induction rows generalizing index with
  | nil => exact iff_of_false (not_unvalidated_ok _) (by simp)
  | cons row rows ih =>
    rw [checkRest, List.find?_cons]
    cases matched : matchRow? columns row with
    | some fields =>
      simp only [unvalidated_map, ih, Option.isNone_some]
    | none =>
      have shown : Unvalidated (.error (mismatch index row) : Except Failure (List Fields))
          ↔ ∃ e, Value.sortKeys row.keys = .error e := by
        unfold mismatch
        cases Value.sortKeys row.keys with
        | error e => exact iff_of_true ⟨_, rfl, id⟩ ⟨e, rfl⟩
        | ok keys => exact iff_of_false (not_unvalidated_rejected _ _ _ rfl) (by simp)
      simpa using shown

/-- A plain name passes as one when it is no longer than the limit. -/
theorem exists_checkPlain_iff {noun key : Value} :
    (∃ name, rules.checkPlain noun key = .ok name) ↔ rules.NamesColumn key := by
  constructor
  · rintro ⟨name, passed⟩
    cases key
    case text s =>
      obtain ⟨-, plain, short⟩ := checkPlain_eq_ok_iff.1 passed
      exact ⟨s, rfl, plain, (checkLength_of_isPlain plain).1 short⟩
    all_goals cases passed
  · rintro ⟨s, rfl, plain, short⟩
    exact ⟨s, checkPlain_eq_ok_iff.2 ⟨rfl, plain, (checkLength_of_isPlain plain).2 short⟩⟩

/-- Keys pass when each of them can name a column. -/
theorem exists_checkKeys_iff {entries : Value.Entries} :
    (∃ fields, rules.checkKeys entries = .ok fields)
      ↔ ∀ key ∈ entries.keys, rules.NamesColumn key := by
  induction entries with
  | nil => exact iff_of_true ⟨[], rfl⟩ fun key h => by cases h
  | cons entry entries ih =>
    have keys : Value.Entries.keys (entry :: entries) = entry.1 :: Value.Entries.keys entries := rfl
    rw [keys, List.forall_mem_cons, ← @exists_checkPlain_iff rules (.text "column"), ← ih]
    constructor
    · rintro ⟨fields, passed⟩
      obtain ⟨name, hname, rest⟩ := bind_eq_ok.1 passed
      obtain ⟨fields, hfields, -⟩ := bind_eq_ok.1 rest
      exact ⟨⟨name, hname⟩, fields, hfields⟩
    · rintro ⟨⟨name, hname⟩, fields, hfields⟩
      exact ⟨_, bind_eq_ok.2 ⟨name, hname, bind_eq_ok.2 ⟨fields, hfields, rfl⟩⟩⟩

/-- A list is taken apart when each of its elements is. -/
theorem isSome_mapM_iff {α β : Type} {f : α → Option β} {xs : List α} :
    (xs.mapM f).isSome = true ↔ ∀ x ∈ xs, (f x).isSome = true := by
  induction xs with
  | nil => simp
  | cons x xs ih =>
    rw [List.mapM_cons, List.forall_mem_cons, ← ih]
    cases f x with
    | none => simp
    | some y => cases xs.mapM f <;> simp

/-- A row matches the columns of the first row when it has the same keys. -/
theorem isSome_matchRow?_iff {first row : Value.Entries} {fields : Fields}
    (passed : rules.checkKeys first = .ok fields) :
    (matchRow? (fields.map Prod.fst) row).isSome = true ↔ first.SameKeys row := by
  obtain ⟨rfl, -⟩ := checkKeys_eq_ok_iff.1 passed
  have listed (key value : Value) :
      (key.text?.bind fun name =>
          if (fields.map Prod.fst).contains name then some (name, value) else none).isSome = true
        ↔ key ∈ Value.Entries.keys (fields.map fun field => (.text field.1, field.2)) := by
    cases key <;> simp [Value.text?, Value.Entries.keys]
  unfold matchRow? Value.Entries.SameKeys
  split
  · rename_i size
    have as_long : row.length
        = (fields.map fun field => (Value.text field.1, field.2)).length := by simpa using size
    rw [isSome_mapM_iff, and_iff_right as_long, Value.Entries.keys, List.forall_mem_map]
    exact forall₂_congr fun entry _ => listed entry.1 entry.2
  · rename_i other
    exact iff_of_false (by simp) fun h => other (by simpa using h.1)

/-- The check of a payload fails in another way when the payload cannot be shown. -/
theorem unvalidated_checkPayload (data : Value) :
    Unvalidated (rules.checkPayload data) ↔ rules.Unshowable data := by
  unfold checkPayload Unshowable
  cases shape : payloadRows? data with
  | none => exact iff_of_false (not_unvalidated_rejected _ _ _ rfl) (by simp)
  | some rows =>
    match rows with
    | [] => exact iff_of_false (not_unvalidated_rejected _ _ _ rfl) (by simp)
    | [] :: rest =>
      refine iff_of_false (not_unvalidated_rejected _ _ _ rfl) ?_
      rintro ⟨first, _, _, _, h, nonempty, _⟩
      cases h
      exact nonempty rfl
    | (entry :: first) :: rest =>
      have mapped (fields : Fields) :
          Unvalidated (do return fields :: (← checkRest (fields.map Prod.fst) 1 rest))
            ↔ Unvalidated (checkRest (fields.map Prod.fst) 1 rest) := unvalidated_map
      simp only [unvalidated_bind (x := rules.checkKeys (entry :: first)), not_unvalidated_checkKeys,
        false_or, mapped, unvalidated_checkRest]
      constructor
      · rintro ⟨fields, passed, row, found, unsorted⟩
        obtain ⟨other, earlier, later, rfl, same⟩ := List.find?_eq_some_iff_append.1 found
        refine ⟨_, earlier, row, later, rfl, List.cons_ne_nil _ _,
          exists_checkKeys_iff.1 ⟨fields, passed⟩, fun row hrow => ?_, fun same => ?_, unsorted⟩
        · rw [← isSome_matchRow?_iff passed]
          simpa using same row hrow
        · rw [← isSome_matchRow?_iff passed] at same
          simp [Option.isNone_iff_eq_none.1 other] at same
      · rintro ⟨_, earlier, row, later, h, -, named, same, other, unsorted⟩
        cases h
        obtain ⟨fields, passed⟩ := exists_checkKeys_iff.2 named
        refine ⟨fields, passed, row, List.find?_eq_some_iff_append.2
          ⟨?_, earlier, later, rfl, fun row hrow => ?_⟩, unsorted⟩
        · rw [← isSome_matchRow?_iff passed] at other
          simpa using other
        · have matched := (isSome_matchRow?_iff passed).2 (same row hrow)
          simpa using matched

end NameRules

/-! ### The calls -/

namespace Chain

variable {rules : NameRules} {c : Chain}

/-- The values that a filter looks among. -/
theorem not_unvalidated_memberList (values : Value) : ¬ Unvalidated (memberList values) := by
  unfold memberList
  split
  · exact not_unvalidated_ok _
  · exact not_unvalidated_ok _
  · exact not_unvalidated_ok _
  · exact not_unvalidated_rejected _ _ _ rfl

/-- A condition. -/
theorem not_unvalidated_addCondition (column : Value) (operator : Operator) (operand : Value) :
    ¬ Unvalidated (c.addCondition rules column operator operand) := by
  exact not_unvalidated_bind (NameRules.not_unvalidated_checkColumn column)
    fun name => not_unvalidated_ok _

/-- A filter. -/
theorem not_unvalidated_addFilter (comparison : Comparison) (column operand : Value) :
    ¬ Unvalidated (c.addFilter rules comparison column operand) := by
  cases comparison
  case is =>
    exact not_unvalidated_bind (NameRules.not_unvalidated_checkKeyword operand)
      fun _ => not_unvalidated_addCondition _ _ _
  case isIn =>
    exact not_unvalidated_bind (not_unvalidated_memberList operand)
      fun _ => not_unvalidated_addCondition _ _ _
  all_goals exact not_unvalidated_addCondition _ _ _

/-- A call that is one check fails as the check does. -/
theorem settle_eq_some_iff {x : Except Failure Chain} {f : Failure} :
    (apply.settle c x).2 = some f ↔ x = .error f := by
  cases x with
  | ok next => simp [apply.settle]
  | error e => simp [apply.settle]

/-- A call that changes the chain by what a check gives fails as the check does. -/
theorem exists_unvalidated_settle {α : Type} {x : Except Failure α} {next : α → Chain} :
    (∃ f, (apply.settle c (x.map next)).2 = some f ∧ ¬ f.IsValidation) ↔ Unvalidated x := by
  simp only [settle_eq_some_iff]
  exact unvalidated_map

/-- **Which calls fail without a validation failure**: exactly those with a conflict target that
cannot be read, or a payload that cannot be shown.

**Proof sketch.**  A call fails as its checks do, and of all the checks only two can fail in another
way: that of the conflict target, at the kind of what is given, and that of the payload, where it
sorts the keys of a row with other columns.  The payload of an upsert is looked at only once its
target has passed. -/
theorem exists_unvalidated_iff (rules : NameRules) (c : Chain) (call : Call) :
    (∃ f, (c.apply rules call).2 = some f ∧ ¬ f.IsValidation) ↔ call.Escapes rules := by
  cases call with
  | select columns =>
    exact exists_unvalidated_settle.trans
      (iff_of_false (NameRules.not_unvalidated_checkColumnList columns) id)
  | insert data => exact exists_unvalidated_settle.trans (NameRules.unvalidated_checkPayload data)
  | upsert data given =>
    -- the payload counts only when the target has passed, hence was readable
    have checked : (∃ f, (c.apply rules (.upsert data given)).2 = some f ∧ ¬ f.IsValidation)
        ↔ Unvalidated (rules.checkConflictTarget given)
          ∨ (∃ target, rules.checkConflictTarget given = .ok target)
            ∧ Unvalidated (rules.checkPayload data) := by
      simp only [apply]
      cases rules.checkConflictTarget given with
      | error e => simp [Unvalidated]
      | ok target => cases rules.checkPayload data <;> simp [Unvalidated]
    rw [checked, NameRules.unvalidated_checkConflictTarget, NameRules.unvalidated_checkPayload,
      NameRules.exists_checkConflictTarget_iff, Call.Escapes]
    by_cases unreadable : Unreadable given
    · exact iff_of_true (.inl unreadable) (.inl unreadable)
    · rw [and_iff_right unreadable]
  | update data =>
    exact exists_unvalidated_settle.trans
      (iff_of_false (NameRules.not_unvalidated_checkAssignments data) id)
  | delete => simp [apply, Call.Escapes]
  | filter comparison column operand =>
    simp only [apply, settle_eq_some_iff]
    exact iff_of_false (not_unvalidated_addFilter comparison column operand) id
  | order column ascending =>
    exact exists_unvalidated_settle.trans
      (iff_of_false (NameRules.not_unvalidated_checkColumn column) id)
  | limit count =>
    exact exists_unvalidated_settle.trans
      (iff_of_false (NameRules.not_unvalidated_checkLimit count) id)

/-- An upsert with a number for its conflict target: the number is stripped like a text. -/
theorem unvalidated_upsert_number :
    let call := Call.upsert (.map [(.text "id", .int 1)]) (.int 5)
    let failure := Failure.fault (.noMember "int" "strip")
    ((start (.text "users")).apply ⟨63, "id"⟩ call).2 = some failure ∧ ¬ failure.IsValidation :=
  ⟨rfl, id⟩

-- A second row with a text and a number for keys, neither of which comes first.
example : ((start (.text "users")).apply ⟨63, "id"⟩ (.insert (.list
    [.map [(.text "id", .int 1)], .map [(.text "id", .int 2), (.int 3, .int 4)]]))).2
    = some (.fault (.unordered "int" "str")) := by rfl

end Chain

end QueryChain
