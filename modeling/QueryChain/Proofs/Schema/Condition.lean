import Mathlib.Data.List.Induction
import QueryChain.Proofs.Statement.Refusal

/-!
# Assigned conditions

The fields of a condition are assigned one by one, and only the one that is assigned is read again.
An operand is read in the light of the operator, but an operator is read without the operand, so
that `IN` can come to a condition whose operand is no list; and what is left out when a condition is
made is not read at all.

## Main definitions

* `Condition.assignAll` — the fields of a condition assigned one after the other.
* `Condition.LacksList` — `IN` looks among something that is no list.
* `Condition.TakesUp`, `Condition.Begins` — the assignments and the fields that make it so.
* `Condition.Keeps` — the assignments that leave it so.

## Main results

* `Condition.assign_cases` — what an accepted assignment does.
* `Condition.lacksList_assign`, `Condition.lacksList_assignAll` — when `IN` lacks its list behind
  one assignment, and behind any number of them.
* `Condition.lacksList_iff` — this, and what it means for the text of the condition.
-/

set_option relaxedAutoImplicit false
set_option autoImplicit false

namespace QueryChain.Condition

variable {c d made : Condition} {given : Fields} {name : String} {v : Value}
  {changes : List (String × Value)}

/-- A condition with fields assigned one after the other, each of them accepted. -/
def assignAll (c : Condition) (changes : List (String × Value)) : Checked Condition :=
  changes.foldlM (fun c change => c.assign change.1 change.2) c

/-- `IN` looks among something that is no list. -/
def LacksList (c : Condition) : Prop := c.operator = .isIn ∧ ∀ xs, c.operand ≠ .list xs

/-- An assignment that leaves the operand alone, and `IN` where it is. -/
def Keeps (change : String × Value) : Prop :=
  change.1 = "column" ∨ change.1 = "operator" ∧ readOperator change.2 = .ok .isIn

/-- `IN` is assigned to a condition with another operator, whose operand is no list. -/
def TakesUp (c : Condition) (change : String × Value) : Prop :=
  change.1 = "operator" ∧ readOperator change.2 = .ok .isIn ∧ c.operator ≠ .isIn
    ∧ ∀ xs, c.operand ≠ .list xs

/-- The ways to lose the list: a condition is made with `IN` and without an operand, or `IN` is
assigned last. -/
def Begins (given : Fields) (made : Condition) (before : List (String × Value)) : Prop :=
  before = [] ∧ made.operator = .isIn ∧ given.get? "value" = none
    ∨ ∃ earlier change d, before = earlier ++ [change] ∧ made.assignAll earlier = .ok d
      ∧ d.TakesUp change

/-! ### One assignment -/

/-- What an accepted assignment does: it replaces one field by what was read for it, and an operand
is read in the light of the operator. -/
theorem assign_cases (accepted : c.assign name v = .ok d) :
    (name = "column" ∧ ∃ s, d = { c with column := s })
      ∨ (name = "operator" ∧ ∃ o, readOperator v = .ok o ∧ d = { c with operator := o })
      ∨ (name = "value" ∧ ∃ x, readOperand (some c.operator) v = .ok x
        ∧ d = { c with operand := x }) := by
  unfold assign at accepted
  split at accepted
  · obtain ⟨s, -, rfl⟩ := Operation.exists_read_of_assigned accepted
    exact .inl ⟨rfl, s, rfl⟩
  · obtain ⟨o, read, rfl⟩ := Operation.exists_read_of_assigned accepted
    exact .inr (.inl ⟨rfl, o, read, rfl⟩)
  · obtain ⟨x, read, rfl⟩ := Operation.exists_read_of_assigned accepted
    exact .inr (.inr ⟨rfl, x, read, rfl⟩)
  · cases accepted

/-- `IN` lacks its list behind an assignment if it did so before and the assignment keeps it so, or
if it is taken up there. -/
theorem lacksList_assign (accepted : c.assign name v = .ok d) :
    d.LacksList ↔ c.LacksList ∧ Keeps (name, v) ∨ c.TakesUp (name, v) := by
  rcases assign_cases accepted with ⟨rfl, s, rfl⟩ | ⟨rfl, o, read, rfl⟩ | ⟨rfl, x, read, rfl⟩
  · have untouched : ¬ c.TakesUp ("column", v) := fun taken =>
      absurd taken.1 (by decide : "column" ≠ "operator")
    exact ⟨fun h => .inl ⟨h, .inl rfl⟩, fun h => (h.resolve_right untouched).1⟩
  · constructor
    · rintro ⟨isIn, unlisted⟩
      obtain rfl : o = .isIn := isIn
      by_cases before : c.operator = .isIn
      · exact .inl ⟨⟨before, unlisted⟩, .inr ⟨rfl, read⟩⟩
      · exact .inr ⟨rfl, read, before, unlisted⟩
    · rintro (⟨⟨-, unlisted⟩, kept⟩ | ⟨-, isIn, -, unlisted⟩)
      · have isIn := (kept.resolve_left (by decide : "operator" ≠ "column")).2
        exact ⟨Except.ok.inj (read.symm.trans isIn), unlisted⟩
      · exact ⟨Except.ok.inj (read.symm.trans isIn), unlisted⟩
  · -- an operand of `IN` is a list, and with another operator there is nothing to show
    have listed : ¬ LacksList { c with operand := x } := by
      rintro ⟨isIn, unlisted⟩
      have isIn : c.operator = .isIn := isIn
      rw [isIn] at read
      obtain ⟨xs, rfl⟩ := exists_of_readOperand read
      exact unlisted xs rfl
    refine iff_of_false listed ?_
    rintro (⟨-, kept | kept⟩ | taken)
    · exact absurd kept (by decide : "value" ≠ "column")
    · exact absurd kept.1 (by decide : "value" ≠ "operator")
    · exact absurd taken.1 (by decide : "value" ≠ "operator")

/-! ### Any number of assignments -/

/-- One more assignment. -/
theorem assignAll_concat {change : String × Value} :
    made.assignAll (changes ++ [change]) = .ok c ↔
      ∃ d, made.assignAll changes = .ok d ∧ d.assign change.1 change.2 = .ok c := by
  rw [assignAll, List.foldlM_append, bind_eq_ok]
  simp [assignAll]

/-- A condition that was made has a list for `IN`, unless its operand was left out. -/
theorem lacksList_ofFields (read : ofFields given = .ok made) :
    made.LacksList ↔ made.operator = .isIn ∧ given.get? "value" = none := by
  obtain ⟨⟨column, operator, operand⟩, parts, rfl⟩ := map_eq_ok.1 read
  obtain ⟨hop, hval⟩ := Checked.and_eq_ok.1 (Checked.and_eq_ok.1 parts).2
  rw [hop] at hval
  refine and_congr_right fun isIn => ?_
  obtain rfl : operator = .isIn := isIn
  unfold Reader.optional at hval
  split at hval
  · rename_i absent
    cases hval
    exact iff_of_true (fun _ h => by cases h) absent
  · rename_i x present
    obtain ⟨xs, rfl⟩ := exists_of_readOperand (Checked.under_eq_ok.1 hval)
    exact iff_of_false (fun unlisted => unlisted xs rfl) (by simp [present])

/-- `IN` lacks its list behind any number of assignments if it has lost it at some point and every
assignment since has kept it so. -/
theorem lacksList_assignAll (read : ofFields given = .ok made)
    (accepted : made.assignAll changes = .ok c) :
    c.LacksList ↔ ∃ before after, changes = before ++ after ∧ Begins given made before
      ∧ ∀ change ∈ after, Keeps change := by
  induction changes using List.reverseRecOn generalizing c with
  | nil =>
    cases accepted
    rw [lacksList_ofFields read]
    constructor
    · exact fun lost => ⟨[], [], rfl, .inl ⟨rfl, lost⟩, by simp⟩
    · rintro ⟨before, after, split, ⟨-, lost⟩ | ⟨earlier, change, d, rfl, -⟩, -⟩
      · exact lost
      · simp at split
  | append_singleton changes change ih =>
    obtain ⟨d, earlier, last⟩ := assignAll_concat.1 accepted
    rw [lacksList_assign last, ih earlier]
    constructor
    · rintro (⟨⟨before, after, rfl, begins, kept⟩, keeps⟩ | taken)
      · refine ⟨before, after ++ [change], by rw [List.append_assoc], begins, fun x mem => ?_⟩
        rcases List.mem_append.1 mem with mem | mem
        · exact kept x mem
        · rw [List.mem_singleton.1 mem]
          exact keeps
      · exact ⟨changes ++ [change], [], by rw [List.append_nil],
          .inr ⟨changes, change, d, rfl, earlier, taken⟩, by simp⟩
    · rintro ⟨before, after, split, begins, kept⟩
      rcases List.eq_nil_or_concat after with rfl | ⟨after, x, rfl⟩
      · rw [List.append_nil] at split
        rcases begins with ⟨rfl, -⟩ | ⟨front, y, e, rfl, found, taken⟩
        · simp at split
        · obtain ⟨rfl, same⟩ := List.append_inj' split rfl
          cases same
          cases earlier.symm.trans found
          exact .inr taken
      · rw [List.concat_eq_append, ← List.append_assoc] at split
        obtain ⟨rfl, same⟩ := List.append_inj' split rfl
        cases same
        rw [List.concat_eq_append, List.forall_mem_append] at kept
        exact .inl ⟨⟨before, after, rfl, begins, kept.1⟩, kept.2 _ (List.mem_singleton_self _)⟩

/-- **When a condition has become invalid**, for every condition that was made, every sequence of
accepted assignments to it, and all rules for names.

* `IN` lacks its list if and only if the condition was made with `IN` and without an operand, or
  `IN` replaced another operator while the operand was no list, and since then nothing but columns
  and `IN` itself was assigned.
* Writing the condition fails otherwise than with a validation failure if and only if its column
  passes, `IN` lacks its list, and what it has in its place has no elements; the failure is then
  that nothing can be looked among.

**Proof sketch.**  Along the assignments, the list is lost only where `IN` replaces another
operator, since an operand that is assigned under `IN` is made a list.  Once it is lost, an
assignment of the operand makes a list again, and another operator needs none. -/
theorem lacksList_iff (rules : NameRules) (b : Binder) (read : ofFields given = .ok made)
    (accepted : made.assignAll changes = .ok c) :
    (c.LacksList ↔ ∃ before after, changes = before ++ after ∧ Begins given made before
        ∧ ∀ change ∈ after, Keeps change)
      ∧ ∀ f, (((rules.renderPredicate c.toPredicate).run b).1 = .error f ∧ ¬ f.IsValidation)
        ↔ rules.checkColumn (.text c.column) = .ok c.column ∧ c.LacksList
          ∧ c.operand.elements? = none ∧ f = .fault (.notIterable c.operand.qualifiedKindName) := by
  refine ⟨lacksList_assignAll read accepted, fun f => ?_⟩
  rw [(rules.renderPredicate_writes c).run_eq_error_iff b]
  constructor
  · rintro ⟨failed, escaped⟩
    obtain ⟨column, isIn, nothing⟩ :=
      NameRules.unvalidated_checkCondition_iff.1 ⟨f, failed, escaped⟩
    have fails := NameRules.checkCondition_of_elements column isIn nothing
    refine ⟨column, ⟨isIn, fun xs list => ?_⟩, nothing, Except.error.inj (failed.symm.trans fails)⟩
    rw [list] at nothing
    cases nothing
  · rintro ⟨column, ⟨isIn, -⟩, nothing, rfl⟩
    exact ⟨NameRules.checkCondition_of_elements column isIn nothing, id⟩

/-- A condition that is made with `IN` and a list, gets another operator and a number, and then `IN`
again. -/
theorem lacksList_iff_again :
    let rules : NameRules := ⟨63, "id"⟩
    let given : Fields :=
      [("column", .text "id"), ("operator", .text "IN"), ("value", .list [.int 1])]
    let changes : List (String × Value) := [("operator", .text "="), ("value", .int 5),
      ("operator", .text "IN"), ("column", .text "name"), ("operator", .text "IN")]
    ∃ made c : Condition, ofFields given = .ok made ∧ made.assignAll changes = .ok c ∧ c.LacksList
      ∧ ((rules.renderPredicate c.toPredicate).run Binder.dollar).1
        = .error (.fault (.notIterable "int")) := by
  intro rules given changes
  have read : ofFields given = .ok ⟨"id", .isIn, .list [.int 1]⟩ := by rfl
  have accepted :
      assignAll ⟨"id", .isIn, .list [.int 1]⟩ changes = .ok ⟨"name", .isIn, .int 5⟩ := by rfl
  obtain ⟨lost, fails⟩ := lacksList_iff rules Binder.dollar read accepted
  have taken : TakesUp ⟨"id", .eq, .int 5⟩ ("operator", .text "IN") :=
    ⟨rfl, by rfl, by decide, fun xs list => by cases list⟩
  have lacks : LacksList ⟨"name", .isIn, .int 5⟩ := by
    refine lost.2 ⟨changes.take 3, changes.drop 3, by rfl, ?_, ?_⟩
    · exact .inr ⟨changes.take 2, _, _, rfl, by rfl, taken⟩
    · intro change mem
      rcases List.mem_pair.1 mem with rfl | rfl
      · exact .inl rfl
      · exact .inr ⟨rfl, by rfl⟩
  exact ⟨_, _, read, accepted, lacks, ((fails _).2 ⟨by rfl, lacks, rfl, rfl⟩).1⟩

/-- `IN` is assigned to a condition with a number for its operand.  The assignment is accepted, and
writing the condition fails without a validation failure. -/
theorem lacksList_of_accepted :
    ∃ (made c : Condition) (f : Failure),
      ofFields [("column", .text "id"), ("operator", .text "="), ("value", .int 5)] = .ok made
        ∧ made.assign "operator" (.text "IN") = .ok c ∧ c.LacksList
        ∧ ((NameRules.renderPredicate ⟨63, "id"⟩ c.toPredicate).run Binder.dollar).1 = .error f
        ∧ ¬ f.IsValidation :=
  ⟨⟨"id", .eq, .int 5⟩, ⟨"id", .isIn, .int 5⟩, .fault (.notIterable "int"), rfl, rfl,
    ⟨rfl, fun xs list => by cases list⟩, rfl, id⟩

end QueryChain.Condition
