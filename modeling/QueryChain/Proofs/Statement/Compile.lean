import QueryChain.Proofs.Statement.Layout

/-!
# Compiling is checking and laying out

Renderings put checks and text together clause by clause.  Here every clause is shown to fail as its
check does and to write its pieces otherwise, whatever is bound already, and from the clauses the
same for whole operations.

## Main results

* `NameRules.renderWhere_writes`, …, `NameRules.renderReturning_writes` — the clauses.
* `NameRules.render_writes` — a rendering checks and then writes the layout.
* `NameRules.compile_eq` — a compiled operation is the laid-out one, if the checks pass.
-/

set_option relaxedAutoImplicit false
set_option autoImplicit false

namespace QueryChain

namespace NameRules

/-! ### What passes a check -/

/-- An operand of `IS` that passes has its keyword. -/
theorem eq_of_checkKeyword {v : Value} {s : String} (h : checkKeyword v = .ok s) :
    s = keywordText v := by
  unfold checkKeyword at h
  split at h <;> cases h <;> rfl

/-- The values of a row that has the columns. -/
theorem eq_of_rowValues {row : Fields} {columns : List String} {vs : List Value}
    (h : rowValues row columns = .ok vs) : vs = columns.filterMap row.get? := by
  have found := rowValues_eq_ok_iff.1 h
  have : columns.filterMap row.get? = (columns.map row.get?).filterMap id := by
    simp [List.filterMap_map]
  rw [this, found]
  simp [List.filterMap_map]

/-- The columns of a payload with at least one row. -/
theorem eq_of_columnNames {rows : List Fields} {columns : List String}
    (h : columnNames rows = .ok columns) : columns = rowColumns rows := by
  cases rows with
  | nil => cases h
  | cons row rows => cases h; rfl

/-! ### Lists of parts -/

open Rendering

/-- Ending a check with nothing more to check. -/
theorem check_bind_ok (check : Except Failure Unit) : (check >>= fun _ => .ok ()) = check := by
  cases check <;> rfl

/-- Parts rendered one after the other are the texts of their pieces. -/
theorem yields_cons {x : Rendering String} {xs : Rendering (List String)}
    {check check' : Except Failure Unit} {ps : List Piece} {pss : List (List Piece)}
    (hx : x.Writes check ps)
    (hxs : xs.Yields check' (fun mark k => Piece.writeEach mark k pss)
      (pss.flatMap Piece.values)) :
    (do let text ← x; let texts ← xs; return text :: texts : Rendering (List String)).Yields
      (check >>= fun _ => check') (fun mark k => Piece.writeEach mark k (ps :: pss))
      ((ps :: pss).flatMap Piece.values) := by
  have both := hx.bind fun text => hxs.bind fun texts => Yields.pure (text :: texts)
  exact both.congr (by rw [check_bind_ok]) (fun _ _ => rfl) (by simp)

/-- Values bound one after the other. -/
theorem bindValues_yields (vs : List Value) :
    (bindValues vs).Yields (.ok ())
      (fun mark k => Piece.writeEach mark k (vs.map fun v => [.value v]))
      ((vs.map fun v => [Piece.value v]).flatMap Piece.values) := by
  induction vs with
  | nil => exact Yields.pure []
  | cons v vs ih => exact (yields_cons (bindValue_writes v) ih).congr rfl (fun _ _ => rfl) rfl

/-- Texts of parts with commas between, bracketed by text in front and behind. -/
theorem commaList_writes {xs : Rendering (List String)} {check : Except Failure Unit}
    {pss : List (List Piece)} (before after : String)
    (hxs : xs.Yields check (fun mark k => Piece.writeEach mark k pss)
      (pss.flatMap Piece.values)) :
    (do let texts ← xs; return before ++ commaList texts ++ after : Rendering String).Writes check
      (.verbatim before :: Piece.joined ", " pss ++ [.verbatim after]) := by
  have whole := hxs.bind fun texts => Yields.pure (before ++ commaList texts ++ after)
  refine whole.congr (check_bind_ok check) (fun mark k => ?_) (by simp)
  simp [commaList, Piece.write, Piece.write_append, Piece.write_joined, String.append_assoc]

/-! ### Clauses -/

/-- A comparison binds its operand. -/
theorem comparison_writes (column operator : String) (operand : Value) :
    (do let mark ← bindValue operand
        return column ++ " " ++ operator ++ " " ++ mark : Rendering String).Writes (.ok ())
      [.verbatim column, .verbatim " ", .verbatim operator, .verbatim " ", .value operand] := by
  have whole := (bindValue_writes operand).bind fun mark =>
    Yields.pure (column ++ " " ++ operator ++ " " ++ mark)
  exact whole.congr rfl (fun mark k => by simp [Piece.write, String.append_assoc]) rfl

/-- A question for null, true or false binds nothing. -/
theorem keyword_writes (column words : String) (operand : Value) :
    (do let keyword ← .ofExcept (checkKeyword operand)
        return column ++ words ++ keyword : Rendering String).Writes
      (checkKeyword operand >>= fun _ => .ok ())
      [.verbatim column, .verbatim words, .verbatim (keywordText operand)] := by
  refine Yields.ofExcept_bind fun keyword accepted => ?_
  rw [eq_of_checkKeyword accepted]
  refine (Yields.pure _).congr rfl (fun mark k => ?_) rfl
  simp [Piece.write, String.append_assoc]

/-- A predicate. -/
theorem renderPredicate_writes (rules : NameRules) (c : Condition) :
    (rules.renderPredicate c.toPredicate).Writes (rules.checkCondition c) c.pieces := by
  obtain ⟨column, operator, operand⟩ := c
  refine Yields.ofExcept_bind fun text accepted => ?_
  obtain rfl := (checkColumn_eq_ok_iff.1 accepted).1
  simp only [Condition.toPredicate, Operator.ofValue_text_sql, ofExcept_ok_bind]
  cases operator
  case isIn =>
    refine Yields.ofExcept_bind fun members found => ?_
    have same : Condition.members ⟨text, .isIn, operand⟩ = members := by
      simp only [mapError_eq_ok, Value.elements] at found
      split at found
      · rename_i xs given
        cases found
        simp [Condition.members, given]
      · cases found
    cases members with
    | nil =>
      refine (Yields.pure "FALSE").congr rfl (fun mark k => ?_) ?_
      · simp [Condition.pieces, same, Piece.write]
      · simp [Condition.pieces, same]
    | cons v vs =>
      refine (commaList_writes (text ++ " IN (") ")" (bindValues_yields (v :: vs))).congr rfl
        (fun mark k => ?_) ?_
      · simp [Condition.pieces, same, valuePieces, Piece.write, String.append_assoc]
      · simp [Condition.pieces, same, valuePieces]
  case is => exact keyword_writes text " IS " operand
  case isNot => exact keyword_writes text " IS NOT " operand
  all_goals exact comparison_writes text _ operand

/-- Predicates one by one. -/
theorem renderPredicates_yields (rules : NameRules) (cs : List Condition) :
    (rules.renderPredicates (cs.map Condition.toPredicate)).Yields (rules.checkConditions cs)
      (fun mark k => Piece.writeEach mark k (cs.map Condition.pieces))
      ((cs.map Condition.pieces).flatMap Piece.values) := by
  induction cs with
  | nil => exact Yields.pure []
  | cons c cs ih => exact yields_cons (rules.renderPredicate_writes c) ih

/-- The `WHERE` clause. -/
theorem renderWhere_writes (rules : NameRules) (cs : List Condition) :
    (rules.renderWhere (cs.map Condition.toPredicate)).Writes (rules.checkConditions cs)
      (wherePieces cs) := by
  cases cs with
  | nil => exact Yields.pure ""
  | cons c cs =>
    have whole := (rules.renderPredicates_yields (c :: cs)).bind fun texts =>
      Yields.pure (" WHERE " ++ String.intercalate " AND " texts)
    refine whole.congr (check_bind_ok _) (fun mark k => ?_) ?_
    · simp [wherePieces, Piece.write, Piece.write_joined]
    · simp [wherePieces]

/-- One row of placeholders. -/
theorem renderRow_writes (row : Fields) (columns : List String) :
    (do let values ← .ofExcept (rowValues row columns)
        let marks ← bindValues values
        return "(" ++ commaList marks ++ ")" : Rendering String).Writes
      (rowValues row columns >>= fun _ => .ok ()) (rowPieces columns row) := by
  refine Yields.ofExcept_bind fun values found => ?_
  rw [eq_of_rowValues found]
  exact commaList_writes "(" ")" (bindValues_yields _)

/-- Rows of placeholders one by one. -/
theorem renderRowList_yields (columns : List String) (rows : List Fields) :
    (renderRowList columns rows).Yields (checkRowValues columns rows)
      (fun mark k => Piece.writeEach mark k (rows.map (rowPieces columns)))
      ((rows.map (rowPieces columns)).flatMap Piece.values) := by
  induction rows with
  | nil => exact Yields.pure []
  | cons row rows ih =>
    have one := yields_cons (renderRow_writes row columns) ih
    simp only [bind_assoc, pure_bind] at one
    exact one.congr rfl (fun _ _ => rfl) rfl

/-- One assignment. -/
theorem renderAssignment_writes (rules : NameRules) (field : String × Value) :
    (do let column ← .ofExcept (rules.checkPlain (.text "column") (.text field.1))
        let mark ← bindValue field.2
        return column ++ " = " ++ mark : Rendering String).Writes
      (rules.checkPlain (.text "column") (.text field.1) >>= fun _ => .ok ())
      (assignmentPieces field) := by
  refine Yields.ofExcept_bind fun column accepted => ?_
  rw [(checkPlain_eq_ok_iff.1 accepted).1]
  have whole := (bindValue_writes field.2).bind fun mark =>
    Yields.pure (field.1 ++ " = " ++ mark)
  refine whole.congr rfl (fun mark k => ?_) rfl
  simp [assignmentPieces, Piece.write, String.append_assoc]

/-- Assignments one by one. -/
theorem renderAssignmentList_yields (rules : NameRules) (fields : Fields) :
    (rules.renderAssignmentList (fields.map fun field => (.text field.1, field.2))).Yields
      (rules.checkAssigned fields)
      (fun mark k => Piece.writeEach mark k (fields.map assignmentPieces))
      ((fields.map assignmentPieces).flatMap Piece.values) := by
  induction fields with
  | nil => exact Yields.pure []
  | cons field fields ih =>
    have one := yields_cons (rules.renderAssignment_writes field) ih
    simp only [bind_assoc, pure_bind] at one
    exact one.congr rfl (fun _ _ => rfl) rfl

/-- The `ORDER BY` clause. -/
theorem renderOrder_writes (rules : NameRules) (order : Option OrderBy) :
    (rules.renderOrder order).Writes (rules.checkOrder order) (orderPieces order) := by
  cases order with
  | none => exact Yields.pure ""
  | some order =>
    refine Yields.ofExcept_bind fun column accepted => ?_
    rw [(checkColumn_eq_ok_iff.1 accepted).1]
    refine (Yields.pure _).congr rfl (fun mark k => ?_) rfl
    simp [orderPieces, Piece.write, String.append_assoc]

/-- The beginning of the `RETURNING` clause is text, and is absent for the empty list. -/
theorem write_returningHead (mark : Nat → String) (k : Nat) (columns : String) :
    Piece.write mark k (returningHead columns)
      = if columns = "" then "" else " RETURNING " := by
  unfold returningHead
  split <;> simp [Piece.write]

/-- The beginning of the `RETURNING` clause binds nothing. -/
@[simp] theorem values_returningHead (columns : String) :
    Piece.values (returningHead columns) = [] := by
  unfold returningHead
  split <;> rfl

/-- The `RETURNING` clause. -/
theorem renderReturning_writes (columns : String) :
    (renderReturning (.text columns)).Writes (checkReturned columns)
      (returningHead columns ++ [.verbatim columns]) := by
  by_cases empty : columns = ""
  · subst empty
    exact Yields.pure ""
  · have given : (Value.text columns).truthy = true := by simpa [Value.truthy] using empty
    simp only [renderReturning, given, checkReturned, if_neg empty, if_true]
    refine Yields.ofExcept_bind fun list accepted => ?_
    rw [(checkColumnList_eq_ok_iff.1 accepted).1]
    refine (Yields.pure _).congr rfl (fun mark k => ?_) ?_
    · simp [returningHead, empty, Piece.write]
    · simp [returningHead, empty]

/-- The `RETURNING` clause of a column list that may be absent. -/
theorem renderReturning_optional (returning : Option String) :
    renderReturning (optionalText returning) = renderReturning (.text (returning.getD "")) := by
  cases returning <;> rfl

/-- The text of pieces that bind nothing. -/
theorem writeEach_of_unbound {α : Type} (mark : Nat → String) (k : Nat) (f : α → List Piece)
    (g : α → String) (unbound : ∀ a, Piece.values (f a) = [])
    (text : ∀ a k, Piece.write mark k (f a) = g a) (xs : List α) :
    Piece.writeEach mark k (xs.map f) = xs.map g := by
  induction xs with
  | nil => rfl
  | cons x xs ih => simp [Piece.writeEach, unbound, text, ih]

/-- Names with commas between. -/
theorem write_namePieces (mark : Nat → String) (k : Nat) (names : List String) :
    Piece.write mark k (namePieces names) = commaList names := by
  have each := writeEach_of_unbound mark k (fun name => [.verbatim name]) id (fun _ => rfl)
    (fun name k => by simp [Piece.write]) names
  rw [namePieces, Piece.write_joined, each, List.map_id, commaList]

/-- Names bind nothing. -/
@[simp] theorem values_namePieces (names : List String) : Piece.values (namePieces names) = [] := by
  simp [namePieces, List.flatMap_map]

/-- The part that both kinds of insert begin with. -/
theorem renderInsertHead_writes (rules : NameRules) (table : String) (rows : List Fields) :
    (rules.renderInsertHead table rows).Writes (rules.checkInserted rows)
      (insertPieces table rows) := by
  refine Yields.ofExcept_bind fun columns found => ?_
  obtain rfl := eq_of_columnNames found
  refine Yields.ofExcept_bind fun names accepted => ?_
  rw [(checkNames_eq_ok_iff.1 accepted).1]
  have whole := (renderRowList_yields (rowColumns rows) rows).bind fun texts => Yields.pure
    ("INSERT INTO " ++ table ++ " (" ++ commaList (rowColumns rows) ++ ") VALUES "
      ++ commaList texts)
  simp only [renderRows, bind_assoc, pure_bind]
  refine whole.congr (check_bind_ok _) (fun mark k => ?_) ?_
  · simp [insertPieces, Piece.write, Piece.write_append, write_namePieces, Piece.write_joined,
      commaList, String.append_assoc]
  · simp [insertPieces]

/-! ### Operations -/

/-- Writing the pieces of an operation: those in front of the column list, the list, and those
behind it. -/
theorem write_pieces (mark : Nat → String) (k : Nat) (op : Operation) :
    Piece.write mark k op.pieces
      = Piece.write mark k op.front ++ op.columnList
        ++ Piece.write mark (k + (Piece.values op.front).length) op.back := by
  simp [Operation.pieces, Piece.write_append, Piece.write, String.append_assoc]

/-- A query for rows. -/
theorem renderSelect_writes (rules : NameRules) (s : Select) :
    (rules.renderSelect s).Writes (rules.check (.select s)) (Operation.select s).pieces := by
  refine Yields.ofExcept_bind fun columns accepted => ?_
  rw [(checkColumnList_eq_ok_iff.1 accepted).1]
  have whole := (rules.renderWhere_writes s.conditions).bind fun filter =>
    (rules.renderOrder_writes s.orderBy).bind fun order =>
      Yields.pure ("SELECT " ++ s.columns ++ " FROM " ++ s.table ++ filter ++ order
        ++ renderLimit s.limit)
  have limit_text (mark k) : Piece.write mark k (limitPieces s.limit) = renderLimit s.limit := by
    cases s.limit <;> simp [limitPieces, renderLimit, Piece.write]
  have limit_values : Piece.values (limitPieces s.limit) = [] := by
    cases s.limit <;> rfl
  refine whole.congr (by simp only [check_bind_ok]) (fun mark k => ?_) ?_
  · simp [write_pieces, Operation.front, Operation.columnList, Operation.back, Piece.write,
      Piece.write_append, limit_text, String.append_assoc]
  · simp [Operation.pieces, Operation.front, Operation.columnList, Operation.back, limit_values]

/-- An insert. -/
theorem renderInsert_writes (rules : NameRules) (s : Insert) :
    (rules.renderInsert s).Writes (rules.check (.insert s)) (Operation.insert s).pieces := by
  unfold renderInsert
  rw [renderReturning_optional]
  have whole := (rules.renderInsertHead_writes s.table s.rows).bind fun head =>
    (renderReturning_writes (s.returning.getD "")).bind fun returning =>
      Yields.pure (head ++ returning)
  refine whole.congr (by simp only [check_bind_ok]; rfl) (fun mark k => ?_) ?_
  · simp [write_pieces, Operation.front, Operation.columnList, Operation.back, Piece.write,
      Piece.write_append, String.append_assoc]
  · simp [Operation.pieces, Operation.front, Operation.columnList, Operation.back]

/-- The columns that an upsert overwrites. -/
theorem write_overwritePieces (mark : Nat → String) (k : Nat) (columns : List String) :
    Piece.write mark k (Piece.joined ", " (columns.map overwritePieces))
      = commaList (columns.map overwrite) := by
  have each := writeEach_of_unbound mark k overwritePieces overwrite (fun _ => rfl)
    (fun column k => by simp [overwritePieces, overwrite, Piece.write, String.append_assoc]) columns
  rw [Piece.write_joined, each, commaList]

/-- What an upsert writes behind its head. -/
theorem renderCollision_yields (rules : NameRules) (s : Upsert) (head : String) :
    (do let conflict ← .ofExcept (rules.checkNames s.conflictColumns)
        let names ← .ofExcept (columnNames s.rows)
        let returning ← renderReturning (.text (Operation.upsert s).columnList)
        return head ++ " ON CONFLICT (" ++ commaList conflict ++ ") DO UPDATE SET "
          ++ commaList (names.map overwrite) ++ returning : Rendering String).Yields
      (rules.checkNames s.conflictColumns >>= fun _ => columnNames s.rows >>= fun _ =>
        checkReturned (Operation.upsert s).columnList)
      (fun _ _ => head ++ " ON CONFLICT (" ++ commaList s.conflictColumns ++ ") DO UPDATE SET "
        ++ commaList ((rowColumns s.rows).map overwrite)
        ++ (if (Operation.upsert s).columnList = "" then "" else " RETURNING ")
        ++ (Operation.upsert s).columnList) [] := by
  refine Yields.ofExcept_bind fun conflict accepted => ?_
  rw [(checkNames_eq_ok_iff.1 accepted).1]
  refine Yields.ofExcept_bind fun names found => ?_
  rw [eq_of_columnNames found]
  have whole := (renderReturning_writes (Operation.upsert s).columnList).bind fun returning =>
    Yields.pure (head ++ " ON CONFLICT (" ++ commaList s.conflictColumns ++ ") DO UPDATE SET "
      ++ commaList ((rowColumns s.rows).map overwrite) ++ returning)
  refine whole.congr (check_bind_ok _) (fun mark k => ?_) (by simp)
  simp [Piece.write_append, write_returningHead, Piece.write, String.append_assoc]

/-- An upsert. -/
theorem renderUpsert_writes (rules : NameRules) (s : Upsert) :
    (rules.renderUpsert s).Writes (rules.check (.upsert s)) (Operation.upsert s).pieces := by
  have whole := (rules.renderInsertHead_writes s.table s.rows).bind (rules.renderCollision_yields s)
  -- the columns are looked up twice, and the second time cannot fail
  have checks : (rules.checkInserted s.rows >>= fun _ =>
      rules.checkNames s.conflictColumns >>= fun _ => columnNames s.rows >>= fun _ =>
        checkReturned (Operation.upsert s).columnList) = rules.check (.upsert s) := by
    simp only [check, checkInserted]
    cases s.rows <;> rfl
  refine whole.congr checks (fun mark k => ?_) ?_
  · simp [write_pieces, Operation.front, Operation.back, Piece.write, Piece.write_append,
      conflictPieces, write_namePieces, write_overwritePieces, write_returningHead,
      String.append_assoc]
  · simp [Operation.pieces, Operation.front, Operation.back, conflictPieces, List.flatMap_map,
      overwritePieces]

/-- An update. -/
theorem renderUpdate_writes (rules : NameRules) (s : Update) :
    (rules.renderUpdate s).Writes (rules.check (.update s)) (Operation.update s).pieces := by
  unfold renderUpdate renderAssignments
  rw [renderReturning_optional]
  have whole := (rules.renderAssignmentList_yields s.values).bind fun assignments =>
    (rules.renderWhere_writes s.conditions).bind fun filter =>
      (renderReturning_writes (s.returning.getD "")).bind fun returning =>
        Yields.pure ("UPDATE " ++ s.table ++ " SET " ++ commaList assignments ++ filter
          ++ returning)
  simp only [bind_assoc, pure_bind]
  refine whole.congr (by simp only [check_bind_ok]; rfl) (fun mark k => ?_) ?_
  · simp [write_pieces, Operation.front, Operation.columnList, Operation.back, Piece.write,
      Piece.write_append, Piece.write_joined, commaList, String.append_assoc]
  · simp [Operation.pieces, Operation.front, Operation.columnList, Operation.back]

/-- A deletion. -/
theorem renderDelete_writes (rules : NameRules) (s : Delete) :
    (rules.renderDelete s).Writes (rules.check (.delete s)) (Operation.delete s).pieces := by
  unfold renderDelete
  rw [renderReturning_optional]
  have whole := (rules.renderWhere_writes s.conditions).bind fun filter =>
    (renderReturning_writes (s.returning.getD "")).bind fun returning =>
      Yields.pure ("DELETE FROM " ++ s.table ++ filter ++ returning)
  refine whole.congr (by simp only [check_bind_ok]; rfl) (fun mark k => ?_) ?_
  · simp [write_pieces, Operation.front, Operation.columnList, Operation.back, Piece.write,
      Piece.write_append, String.append_assoc]
  · simp [Operation.pieces, Operation.front, Operation.columnList, Operation.back]

/-- **Rendering is checking and laying out**: every operation fails as its check does, and
otherwise writes its pieces. -/
theorem render_writes (rules : NameRules) (op : Operation) :
    (rules.render op).Writes (rules.check op) op.pieces := by
  cases op with
  | select s => exact rules.renderSelect_writes s
  | insert s => exact rules.renderInsert_writes s
  | upsert s => exact rules.renderUpsert_writes s
  | update s => exact rules.renderUpdate_writes s
  | delete s => exact rules.renderDelete_writes s

/-- **Compiling is checking and laying out**: a compiled operation is the laid-out one if the
checks pass, and the failure of the checks otherwise. -/
theorem compile_eq (rules : NameRules) (op : Operation) :
    rules.compile op = (rules.check op).map fun _ => op.compiled := by
  have written := rules.render_writes op Binder.dollar
  unfold compile
  cases checked : rules.check op with
  | error e =>
    simp only [checked] at written
    obtain ⟨b', hb⟩ := written
    rw [hb]
    rfl
  | ok u =>
    simp only [checked] at written
    rw [written]
    simp [Except.map, Operation.compiled, Binder.dollar]

/-- What compiles is the laid-out operation, and passed the checks. -/
theorem compile_eq_ok_iff {rules : NameRules} {op : Operation} {c : Compiled} :
    rules.compile op = .ok c ↔ rules.check op = .ok () ∧ c = op.compiled := by
  rw [compile_eq, map_eq_ok]
  constructor
  · rintro ⟨⟨⟩, checked, rfl⟩
    exact ⟨checked, rfl⟩
  · rintro ⟨checked, rfl⟩
    exact ⟨(), checked, rfl⟩

end NameRules

end QueryChain
