import QueryChain.Proofs.Statement.Numbering

/-!
# The `WHERE` clause behind other values

The `WHERE` clause is written by one function for all statements, and this function neither looks at
the spelling of the marks nor at the values that are bound already.  So the clause behind `k` values
is the clause alone with other marks: its `j`-th placeholder is the mark of `k + j`.

## Main definitions

* `Token.remarked`, `remark` — a text with its placeholders replaced one by one.
* `NameRules.boundInTurn` — the values that conditions bind, up to the first one that is refused.
* `NameRules.compileWhere` — the clause alone, with its parameters.

## Main results

* `Piece.remark_write` — replacing the placeholders of a written text is writing it with other
  marks.
* `NameRules.run_renderWhere` — the run of the clause, for every binder and for failures too.
* `NameRules.renderWhere_uniform` — the clause is the same for every binder, and in all statements.
-/

set_option relaxedAutoImplicit false
set_option autoImplicit false

namespace QueryChain

/-! ### Replacing placeholders -/

/-- The text of tokens with the `j`-th placeholder replaced by the mark of `k + j`. -/
def Token.remarked (mark : Nat → String) (k : Nat) : List Token → String
  | [] => ""
  | plain c :: tokens => String.singleton c ++ remarked mark k tokens
  | placeholder _ :: tokens => mark (k + 1) ++ remarked mark (k + 1) tokens

/-- A text with its `j`-th placeholder replaced by the mark of `k + j`. -/
def remark (mark : Nat → String) (k : Nat) (text : String) : String :=
  Token.remarked mark k (Token.scan text.toList)

namespace Piece

/-- Ordinary characters stay as they are. -/
theorem remarked_plain (mark : Nat → String) (k : Nat) (cs : List Char) (tokens : List Token) :
    Token.remarked mark k (cs.map .plain ++ tokens)
      = String.ofList cs ++ Token.remarked mark k tokens := by
  induction cs with
  | nil => simp
  | cons c cs ih =>
    have first : String.ofList (c :: cs) = String.singleton c ++ String.ofList cs := by
      apply String.toList_injective
      simp
    rw [List.map_cons, List.cons_append, Token.remarked, ih, first, String.append_assoc]

/-- The tokens of pieces, whatever numbers they have, are written as the pieces are. -/
theorem remarked_tokens (mark : Nat → String) (k j : Nat) (ps : List Piece) :
    Token.remarked mark k (tokens j ps) = write mark k ps := by
  induction ps generalizing k j with
  | nil => rfl
  | cons p ps ih =>
    cases p with
    | verbatim s => rw [tokens, remarked_plain, ih, write, String.ofList_toList]
    | value v => rw [tokens, Token.remarked, ih, write]

/-- Replacing the placeholders of a written text is writing it with other marks behind as many
values. -/
theorem remark_write {ps : List Piece} (spaced : Spaced ps)
    (plain : Spells (fun s => '$' ∉ s.toList) ps) (mark : Nat → String) (j k : Nat) :
    remark mark k (write Binder.dollarMark j ps) = write mark k ps := by
  rw [remark, scan_write spaced plain, remarked_tokens]

end Piece

namespace NameRules

variable {rules : NameRules} {cs : List Condition}

/-! ### The clause, for every binder -/

/-- The values that conditions bind in turn.  A condition is checked before it binds anything, so
that one that is refused binds nothing, and those behind it are not reached. -/
def boundInTurn (rules : NameRules) : List Condition → List Value
  | [] => []
  | c :: cs =>
    match rules.checkCondition c with
    | .ok _ => c.bound ++ boundInTurn rules cs
    | .error _ => []

/-- Conditions that pass bind all their values. -/
theorem boundInTurn_of_check (h : rules.checkConditions cs = .ok ()) :
    rules.boundInTurn cs = cs.flatMap Condition.bound := by
  induction cs with
  | nil => rfl
  | cons c cs ih =>
    obtain ⟨first, rest⟩ := unit_bind_eq_ok.1 h
    rw [boundInTurn, first, List.flatMap_cons, ← ih rest]

/-- A check that fails in front of nothing more to check. -/
theorem eq_error_of_bind {α : Type} {x : Except Failure α} {f : Failure}
    (h : (x >>= fun _ => .ok ()) = (.error f : Except Failure Unit)) : x = .error f := by
  cases x with
  | ok a => cases h
  | error e =>
    cases h
    rfl

/-- A rendering behind a check that fails. -/
theorem run_ofExcept_bind_of_error {α β : Type} {x : Except Failure α} {f : Failure}
    (h : x = .error f) (next : α → Rendering β) (b : Binder) :
    (Rendering.ofExcept x >>= next).run b = (.error f, b) := by
  rw [h]
  rfl

/-- A condition that is refused binds nothing. -/
theorem run_renderPredicate_of_refused {c : Condition} {f : Failure}
    (h : rules.checkCondition c = .error f) (b : Binder) :
    (rules.renderPredicate c.toPredicate).run b = (.error f, b) := by
  obtain ⟨column, operator, operand⟩ := c
  cases checked : rules.checkColumn (.text column) with
  | error e =>
    rw [checkCondition, checked] at h
    cases h
    exact run_ofExcept_bind_of_error checked _ b
  | ok text =>
    have next : (rules.renderPredicate (Condition.toPredicate ⟨column, operator, operand⟩)).run b
        = _ := congrArg (fun x => (Rendering.ofExcept x >>= _).run b) checked
    rw [next, Rendering.ofExcept_ok_bind]
    simp only [Condition.toPredicate, Operator.ofValue_text_sql, Rendering.ofExcept_ok_bind]
    rw [checkCondition, checked] at h
    cases operator
    case isIn => exact run_ofExcept_bind_of_error (eq_error_of_bind h) _ b
    case is => exact run_ofExcept_bind_of_error (eq_error_of_bind h) _ b
    case isNot => exact run_ofExcept_bind_of_error (eq_error_of_bind h) _ b
    all_goals cases h

/-- Conditions one by one: the texts of their pieces or the failure of their checks, and what they
bind in turn behind what is bound already. -/
theorem run_renderPredicates (rules : NameRules) (cs : List Condition) (b : Binder) :
    (rules.renderPredicates (cs.map Condition.toPredicate)).run b
      = ((rules.checkConditions cs).map fun _ =>
          Piece.writeEach b.mark b.bound.length (cs.map Condition.pieces),
        { b with bound := b.bound ++ rules.boundInTurn cs }) := by
  induction cs generalizing b with
  | nil => simp [renderPredicates, checkConditions, boundInTurn, Piece.writeEach, Except.map]
  | cons c cs ih =>
    rw [List.map_cons, renderPredicates, Rendering.run_bind]
    cases checked : rules.checkCondition c with
    | error f =>
      rw [run_renderPredicate_of_refused checked, checkConditions, boundInTurn, checked,
        List.append_nil]
      rfl
    | ok u =>
      have first := rules.renderPredicate_writes c b
      rw [checked] at first
      have first : (rules.renderPredicate c.toPredicate).run b = _ := first
      rw [first]
      simp only [Rendering.run_bind, ih]
      rw [checkConditions, boundInTurn, checked, Condition.values_pieces]
      cases rules.checkConditions cs with
      | error f => simp [Except.map, bind, Except.bind]
      | ok u => simp [Except.map, bind, Except.bind, Piece.writeEach]

/-- **The clause, for every binder**: the text of its pieces or the failure of its checks, and what
the conditions bind in turn behind what is bound already. -/
theorem run_renderWhere (rules : NameRules) (cs : List Condition) (b : Binder) :
    (rules.renderWhere (cs.map Condition.toPredicate)).run b
      = ((rules.checkConditions cs).map fun _ =>
          Piece.write b.mark b.bound.length (wherePieces cs),
        { b with bound := b.bound ++ rules.boundInTurn cs }) := by
  cases cs with
  | nil => simp [renderWhere, checkConditions, boundInTurn, wherePieces, Piece.write, Except.map]
  | cons c cs =>
    have given : ((c :: cs).map Condition.toPredicate).isEmpty = false := rfl
    have rendered := rules.run_renderPredicates (c :: cs) b
    rw [renderWhere, given, if_neg (by decide), Rendering.run_bind, rendered]
    cases rules.checkConditions (c :: cs) with
    | error f => rfl
    | ok u => simp [Except.map, wherePieces, Piece.write, Piece.write_joined]

/-- The text of a clause that passes has a placeholder for each value, and can be renumbered. -/
theorem remark_wherePieces (h : rules.checkConditions cs = .ok ()) (mark : Nat → String)
    (j k : Nat) :
    remark mark k (Piece.write Binder.dollarMark j (wherePieces cs))
      = Piece.write mark k (wherePieces cs) := by
  have plain : Piece.Spells (fun s => '$' ∉ s.toList) (wherePieces cs) :=
    spells_wherePieces (fun s hs => Name.notMem_of_all hs (by decide)) h
  exact Piece.remark_write (fenced_wherePieces cs).spaced plain mark j k

/-! ### The clause in statements -/

/-- The `WHERE` clause of conditions alone, with the placeholders `$1`, `$2`, … -/
def compileWhere (rules : NameRules) (cs : List Condition) : Except Failure Compiled :=
  match (rules.renderWhere (cs.map Condition.toPredicate)).run Binder.dollar with
  | (.ok sql, b) => .ok ⟨sql, b.bound⟩
  | (.error f, _) => .error f

/-- The clause alone has every condition, and the values of every condition. -/
theorem compileWhere_eq (rules : NameRules) (cs : List Condition) :
    rules.compileWhere cs = (rules.checkConditions cs).map fun _ =>
      ⟨Piece.write Binder.dollarMark 0 (wherePieces cs), cs.flatMap Condition.bound⟩ := by
  rw [compileWhere, run_renderWhere]
  cases checked : rules.checkConditions cs with
  | error f => rfl
  | ok u => simp [Except.map, Binder.dollar, boundInTurn_of_check checked]

/-- The assignments of an update. -/
def assignmentsText (fields : Fields) : String :=
  Piece.write Binder.dollarMark 0 (Piece.joined ", " (fields.map assignmentPieces))

/-- The order of a query for rows. -/
def orderText (order : Option OrderBy) : String :=
  Piece.write Binder.dollarMark 0 (orderPieces order)

/-- What a statement returns. -/
def returningText (columns : String) : String :=
  if columns = "" then "" else " RETURNING " ++ columns

/-- The assignments of an update bind the values in key order. -/
theorem values_assignments (fields : Fields) :
    Piece.values (Piece.joined ", " (fields.map assignmentPieces)) = fields.map Prod.snd := by
  rw [Piece.values_joined, List.flatMap_map]
  exact List.map_eq_flatMap.symm

/-- What a statement returns binds nothing. -/
theorem write_returning (mark : Nat → String) (k : Nat) (columns : String) :
    Piece.write mark k (returningHead columns) ++ columns = returningText columns := by
  rw [write_returningHead, returningText]
  split
  · rename_i empty
    rw [empty]
    rfl
  · rfl

/-- A query for rows is its column list and table, the clause, and its order and limit. -/
theorem compile_select (rules : NameRules) (s : Select) :
    rules.compile (.select s) = do
      let _ ← checkColumnList (.text s.columns)
      let filter ← rules.compileWhere s.conditions
      rules.checkOrder s.orderBy
      return ⟨"SELECT " ++ s.columns ++ " FROM " ++ s.table ++ filter.sql ++ orderText s.orderBy
        ++ renderLimit s.limit, filter.params⟩ := by
  have order_text (k) : Piece.write Binder.dollarMark k (orderPieces s.orderBy)
      = orderText s.orderBy := by
    cases s.orderBy <;> rfl
  have order_values : Piece.values (orderPieces s.orderBy) = [] := by
    cases s.orderBy <;> rfl
  have limit_text (k) : Piece.write Binder.dollarMark k (limitPieces s.limit)
      = renderLimit s.limit := by
    cases s.limit <;> simp [limitPieces, renderLimit, Piece.write]
  have limit_values : Piece.values (limitPieces s.limit) = [] := by
    cases s.limit <;> rfl
  have laid_out : (Operation.select s).compiled
      = ⟨"SELECT " ++ s.columns ++ " FROM " ++ s.table
          ++ Piece.write Binder.dollarMark 0 (wherePieces s.conditions) ++ orderText s.orderBy
          ++ renderLimit s.limit, s.conditions.flatMap Condition.bound⟩ := by
    simp [Operation.compiled, Operation.pieces, Operation.front, Operation.columnList,
      Operation.back, Piece.write, Piece.write_append, order_text, order_values, limit_text,
      limit_values, String.append_assoc]
  rw [compile_eq, compileWhere_eq, check, laid_out]
  cases checkColumnList (.text s.columns) with
  | error f => rfl
  | ok columns =>
    cases rules.checkConditions s.conditions with
    | error f => rfl
    | ok u => cases rules.checkOrder s.orderBy <;> rfl

/-- A deletion is its table, the clause, and what it returns. -/
theorem compile_delete (rules : NameRules) (s : Delete) :
    rules.compile (.delete s) = do
      let filter ← rules.compileWhere s.conditions
      checkReturned (s.returning.getD "")
      return ⟨"DELETE FROM " ++ s.table ++ filter.sql ++ returningText (s.returning.getD ""),
        filter.params⟩ := by
  have laid_out : (Operation.delete s).compiled
      = ⟨"DELETE FROM " ++ s.table ++ Piece.write Binder.dollarMark 0 (wherePieces s.conditions)
          ++ returningText (s.returning.getD ""), s.conditions.flatMap Condition.bound⟩ := by
    simp [Operation.compiled, Operation.pieces, Operation.front, Operation.columnList,
      Operation.back, Piece.write, Piece.write_append, write_returning, String.append_assoc]
  rw [compile_eq, compileWhere_eq, check, laid_out, Operation.columnList]
  cases rules.checkConditions s.conditions with
  | error f => rfl
  | ok u => cases checkReturned (s.returning.getD "") <;> rfl

/-- An update is its table and assignments, the clause with its placeholders numbered behind the
values set, and what it returns. -/
theorem compile_update (rules : NameRules) (s : Update) :
    rules.compile (.update s) = do
      rules.checkAssigned s.values
      let filter ← rules.compileWhere s.conditions
      checkReturned (s.returning.getD "")
      return ⟨"UPDATE " ++ s.table ++ " SET " ++ assignmentsText s.values
          ++ remark Binder.dollarMark s.values.length filter.sql
          ++ returningText (s.returning.getD ""),
        s.values.map Prod.snd ++ filter.params⟩ := by
  have laid_out : (Operation.update s).compiled
      = ⟨"UPDATE " ++ s.table ++ " SET " ++ assignmentsText s.values
          ++ Piece.write Binder.dollarMark s.values.length (wherePieces s.conditions)
          ++ returningText (s.returning.getD ""),
        s.values.map Prod.snd ++ s.conditions.flatMap Condition.bound⟩ := by
    have assigned := values_assignments s.values
    rw [Piece.values_joined] at assigned
    simp [Operation.compiled, Operation.pieces, Operation.front, Operation.columnList,
      Operation.back, Piece.write, Piece.write_append, write_returning, assigned, assignmentsText,
      String.append_assoc]
  rw [compile_eq, compileWhere_eq, check, laid_out, Operation.columnList]
  cases rules.checkAssigned s.values with
  | error f => rfl
  | ok u =>
    cases checked : rules.checkConditions s.conditions with
    | error f => rfl
    | ok u =>
      rw [← remark_wherePieces checked Binder.dollarMark 0]
      cases checkReturned (s.returning.getD "") <;> rfl

/-- **The clause is the same for every binder and in all statements.**

* For every spelling of the marks and all values bound before, say `k`, the clause is that of a
  binder for `$1`, `$2`, … with nothing bound, where the `j`-th placeholder is the mark of `k + j`;
  it binds the same values behind the others, and it fails exactly when that one fails, with the
  same error.  What was bound in front of the refused condition is the same then, too.
* The clause alone has the predicates and the values of all conditions, in order.
* Queries for rows, deletions and updates have this clause behind their tables and assignments, and
  its values behind the values that are set; in an update its placeholders are raised by their
  number.  If the clause fails, each of them fails with the same error, unless something in front of
  the clause is refused.

**Proof sketch.**  A condition is checked before it binds anything, so that neither the checks nor
the pieces of the clause depend on the binder.  No piece of a clause that passes has a dollar sign,
and no digit follows a mark, so that the placeholders of its text are its marks, and replacing them
is writing the pieces with other marks. -/
theorem renderWhere_uniform (rules : NameRules) (cs : List Condition) :
    (∀ b : Binder,
        let alone := (rules.renderWhere (cs.map Condition.toPredicate)).run Binder.dollar
        (rules.renderWhere (cs.map Condition.toPredicate)).run b
          = (alone.1.map (remark b.mark b.bound.length),
            { b with bound := b.bound ++ alone.2.bound }))
      ∧ (rules.compileWhere cs = (rules.checkConditions cs).map fun _ =>
          ⟨Piece.write Binder.dollarMark 0 (wherePieces cs), cs.flatMap Condition.bound⟩)
      ∧ (∀ table columns orderBy limit,
        rules.compile (.select ⟨table, columns, cs, orderBy, limit⟩) = do
          let _ ← checkColumnList (.text columns)
          let filter ← rules.compileWhere cs
          rules.checkOrder orderBy
          return ⟨"SELECT " ++ columns ++ " FROM " ++ table ++ filter.sql ++ orderText orderBy
            ++ renderLimit limit, filter.params⟩)
      ∧ (∀ table returning,
        rules.compile (.delete ⟨table, cs, returning⟩) = do
          let filter ← rules.compileWhere cs
          checkReturned (returning.getD "")
          return ⟨"DELETE FROM " ++ table ++ filter.sql ++ returningText (returning.getD ""),
            filter.params⟩)
      ∧ ∀ table values returning,
        rules.compile (.update ⟨table, values, cs, returning⟩) = do
          rules.checkAssigned values
          let filter ← rules.compileWhere cs
          checkReturned (returning.getD "")
          return ⟨"UPDATE " ++ table ++ " SET " ++ assignmentsText values
              ++ remark Binder.dollarMark values.length filter.sql
              ++ returningText (returning.getD ""),
            values.map Prod.snd ++ filter.params⟩ := by
  refine ⟨fun b => ?_, rules.compileWhere_eq cs, fun _ _ _ _ => rules.compile_select _,
    fun _ _ => rules.compile_delete _, fun _ _ _ => rules.compile_update _⟩
  intro alone
  have run_alone : alone = _ := rules.run_renderWhere cs Binder.dollar
  rw [run_alone, run_renderWhere]
  cases checked : rules.checkConditions cs with
  | error f => rfl
  | ok u =>
    have renumbered := remark_wherePieces checked b.mark 0 b.bound.length
    simp only [Except.map, Binder.dollar, List.length_nil, List.nil_append, renumbered]

end NameRules

end QueryChain
