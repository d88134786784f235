import QueryChain.Proofs.Statement.Verbatim

/-!
# Numbered placeholders

The placeholders of a statement are found again by scanning its text.  For the scan to find the
marks that were written and nothing else, no verbatim piece may have a dollar sign, and no digit may
stand directly behind a mark.  In statements a mark is followed by a blank, a comma, a closing
parenthesis or nothing, so that readers of other kinds find its end too.

## Main definitions

* `Piece.detached`, `Piece.Spaced` — pieces that cannot lengthen a mark in front of them, and pieces
  without a digit behind a mark.
* `Piece.closes`, `Piece.Fenced` — pieces that end what stands in front of them, and pieces with
  such an end behind every mark.
* `Piece.tokens` — the tokens that pieces are meant to be read as.
* `Condition.bound`, `Operation.readings` — what an operation says about its parameters.

## Main results

* `Piece.scan_write` — spaced pieces are read as the tokens that they are meant to be.
* `Piece.placeholders_write` — the scan of spaced pieces finds one placeholder for each value.
* `Operation.fenced_pieces` — the layout of every operation is fenced, hence spaced.
* `NameRules.placeholders_compile` — a compiled statement has the placeholders `1`, `2`, …, `n` in
  this order, for its `n` parameters, and the parameters are those of the operation.
-/

set_option relaxedAutoImplicit false
set_option autoImplicit false

namespace QueryChain

/-! ### No digit behind a mark -/

namespace Piece

/-- Whether the text of pieces does not start with a decimal digit, whatever is bound. -/
def detached : List Piece → Bool
  | [] => true
  | value _ :: _ => true
  | verbatim s :: ps =>
    match s.toList with
    | [] => detached ps
    | c :: _ => !Text.isDecimalDigit c

/-- Behind every value stands something that does not start with a decimal digit. -/
def Spaced : List Piece → Prop
  | [] => True
  | verbatim _ :: ps => Spaced ps
  | value _ :: ps => detached ps = true ∧ Spaced ps

variable {ps qs : List Piece}

/-- What is detached does not start with a digit. -/
theorem not_digit_of_detached (h : detached ps = true) {k : Nat} :
    ∀ c ∈ (write Binder.dollarMark k ps).toList.head?, Text.isDecimalDigit c = false := by
  induction ps with
  | nil =>
    intro c hc
    cases hc
  | cons p ps ih =>
    cases p with
    | value v =>
      intro c hc
      rw [write, Binder.dollarMark, String.toList_append, String.toList_append] at hc
      cases hc
      decide
    | verbatim s =>
      rw [write, String.toList_append]
      cases hs : s.toList with
      | nil =>
        rw [detached, hs] at h
        exact ih h
      | cons d rest =>
        rw [detached, hs] at h
        intro c hc
        cases hc
        simpa using h

/-- The tokens that pieces behind `k` bound values are meant to be read as: every character of a
verbatim piece is an ordinary one, and every value is a placeholder. -/
def tokens (k : Nat) : List Piece → List Token
  | [] => []
  | verbatim s :: ps => s.toList.map .plain ++ tokens k ps
  | value _ :: ps => .placeholder (natChars (k + 1)) :: tokens (k + 1) ps

/-- **Scanning finds what was written**: spaced pieces without a verbatim dollar sign are read as
the tokens that they are meant to be. -/
theorem scan_write (spaced : Spaced ps) (plain : Spells (fun s => '$' ∉ s.toList) ps) (k : Nat) :
    Token.scan (write Binder.dollarMark k ps).toList = tokens k ps := by
  induction ps generalizing k with
  | nil => rfl
  | cons p ps ih =>
    cases p with
    | verbatim s =>
      obtain ⟨hs, plain⟩ := spells_verbatim.1 plain
      rw [write, String.toList_append, Token.scan_append_of_plain hs, tokens, ih spaced plain k]
    | value v =>
      -- the mark ends where its digits end, since what follows does not go on with a digit
      have rest := ih spaced.2 (spells_value.1 plain) (k + 1)
      have mark : (Binder.dollarMark (k + 1)).toList = '$' :: natChars (k + 1) := by
        simp [Binder.dollarMark, natText]
      have nonempty : natChars (k + 1) ≠ [] := by simp [natChars]
      have digits : ∀ c ∈ natChars (k + 1), Text.isDecimalDigit c = true := fun c hc =>
        Text.isDecimalDigit_of_isDigit (Text.isDigit_of_mem_natChars hc)
      rw [write, String.toList_append, Token.scan_append _ (not_digit_of_detached spaced.1), mark,
        Token.scan_dollar nonempty digits, rest, tokens, List.singleton_append]

/-- The placeholders among the tokens of pieces are numbered behind the values bound before. -/
theorem filterMap_tokens (ps : List Piece) (k : Nat) :
    (tokens k ps).filterMap Token.digits?
      = (List.range' (k + 1) (values ps).length).map natChars := by
  induction ps generalizing k with
  | nil => rfl
  | cons p ps ih =>
    cases p with
    | verbatim s =>
      have plain_only : (s.toList.map Token.plain).filterMap Token.digits? = [] := by
        simp [Token.digits?]
      rw [tokens, List.filterMap_append, plain_only, List.nil_append, ih, values_verbatim]
    | value v =>
      rw [tokens, List.filterMap_cons, Token.digits?, ih, values_value, List.length_cons,
        List.range'_succ, List.map_cons]

/-- Spaced pieces without a verbatim dollar sign have one placeholder for each value, numbered
behind the values bound before. -/
theorem placeholders_write (spaced : Spaced ps) (plain : Spells (fun s => '$' ∉ s.toList) ps)
    (k : Nat) :
    Token.placeholders (write Binder.dollarMark k ps).toList
      = (List.range' (k + 1) (values ps).length).map natChars := by
  rw [Token.placeholders, scan_write spaced plain, filterMap_tokens]

/-! ### A fence behind every mark -/

/-- A character that ends whatever stands in front of it: a blank, a comma or a closing
parenthesis. -/
def isFence (c : Char) : Bool := c == ' ' || c == ',' || c == ')'

/-- Whether the text of pieces is empty or starts with a fence. -/
def closes : List Piece → Bool
  | [] => true
  | value _ :: _ => false
  | verbatim s :: ps =>
    match s.toList with
    | [] => closes ps
    | c :: _ => isFence c

/-- Behind every value stands a fence, or nothing at all. -/
def Fenced : List Piece → Prop
  | [] => True
  | verbatim _ :: ps => Fenced ps
  | value _ :: ps => closes ps = true ∧ Fenced ps

/-- What closes starts with a fence, however marks are spelled. -/
theorem isFence_of_closes (h : closes ps = true) {mark : Nat → String} {k : Nat} :
    ∀ c ∈ (write mark k ps).toList.head?, isFence c = true := by
  induction ps with
  | nil =>
    intro c hc
    cases hc
  | cons p ps ih =>
    cases p with
    | value v => cases h
    | verbatim s =>
      rw [write, String.toList_append]
      cases hs : s.toList with
      | nil =>
        rw [closes, hs] at h
        exact ih h
      | cons d rest =>
        rw [closes, hs] at h
        intro c hc
        cases hc
        exact h

/-- No fence is a digit. -/
theorem not_digit_of_isFence {c : Char} (h : isFence c = true) : Text.isDecimalDigit c = false := by
  simp only [isFence, Bool.or_eq_true, beq_iff_eq] at h
  rcases h with (rfl | rfl) | rfl <;> decide

/-- What closes cannot lengthen a mark. -/
theorem detached_of_closes (h : closes ps = true) : detached ps = true := by
  induction ps with
  | nil => rfl
  | cons p ps ih =>
    cases p with
    | value v => rfl
    | verbatim s =>
      rw [detached]
      rw [closes] at h
      cases hs : s.toList with
      | nil =>
        rw [hs] at h
        exact ih h
      | cons d rest =>
        rw [hs] at h
        simp [not_digit_of_isFence h]

/-- Fenced pieces are spaced. -/
theorem Fenced.spaced (h : Fenced ps) : Spaced ps := by
  induction ps with
  | nil => trivial
  | cons p ps ih =>
    cases p with
    | verbatim s => exact ih h
    | value v => exact ⟨detached_of_closes h.1, ih h.2⟩

/-- Two lists that close, one after the other. -/
theorem closes_append (hp : closes ps = true) (hq : closes qs = true) :
    closes (ps ++ qs) = true := by
  induction ps with
  | nil => exact hq
  | cons p ps ih =>
    cases p with
    | value v => cases hp
    | verbatim s =>
      rw [List.cons_append, closes]
      rw [closes] at hp
      cases hs : s.toList with
      | nil =>
        rw [hs] at hp
        exact ih hp
      | cons d rest =>
        rw [hs] at hp
        exact hp

/-- Two fenced lists one after the other, where the second ends what stands in front of it. -/
theorem Fenced.append (hp : Fenced ps) (closes_qs : closes qs = true) (hq : Fenced qs) :
    Fenced (ps ++ qs) := by
  induction ps with
  | nil => exact hq
  | cons p ps ih =>
    cases p with
    | verbatim s => exact ih hp
    | value v => exact ⟨closes_append hp.1 closes_qs, ih hp.2⟩

/-- Joined lists are fenced if each of them is and the separator starts with a fence. -/
theorem Fenced.joined {sep : String} {pss : List (List Piece)}
    (hsep : ∀ ps, closes (verbatim sep :: ps) = true) (h : ∀ ps ∈ pss, Fenced ps) :
    Fenced (joined sep pss) := by
  induction pss with
  | nil => trivial
  | cons ps pss ih =>
    have hps := h ps List.mem_cons_self
    have hrest := ih fun qs hqs => h qs (List.mem_cons_of_mem _ hqs)
    cases pss with
    | nil => exact hps
    | cons qs qss => exact hps.append (hsep _) hrest

end Piece

open Piece

/-! ### The layout is fenced -/

/-- Values with commas between are fenced. -/
theorem fenced_valuePieces (vs : List Value) : Fenced (valuePieces vs) := by
  refine Fenced.joined (fun _ => rfl) fun ps hps => ?_
  obtain ⟨v, -, rfl⟩ := List.mem_map.1 hps
  exact ⟨rfl, trivial⟩

/-- Names with commas between are fenced, since they have no values. -/
theorem fenced_namePieces (names : List String) : Fenced (namePieces names) := by
  refine Fenced.joined (fun _ => rfl) fun ps hps => ?_
  obtain ⟨name, -, rfl⟩ := List.mem_map.1 hps
  trivial

/-- Predicates are fenced. -/
theorem Condition.fenced_pieces (c : Condition) : Fenced c.pieces := by
  unfold Condition.pieces
  split
  · split
    · trivial
    · exact (fenced_valuePieces _).append rfl trivial
  · trivial
  · trivial
  · exact ⟨rfl, trivial⟩

/-- The `WHERE` clause is fenced. -/
theorem fenced_wherePieces (cs : List Condition) : Fenced (wherePieces cs) := by
  unfold wherePieces
  split
  · trivial
  refine Fenced.joined (fun _ => rfl) fun ps hps => ?_
  obtain ⟨c, -, rfl⟩ := List.mem_map.1 hps
  exact c.fenced_pieces

/-- The `WHERE` clause starts with a blank. -/
theorem closes_wherePieces (cs : List Condition) : closes (wherePieces cs) = true := by
  unfold wherePieces
  split <;> rfl

/-- The part that both kinds of insert begin with is fenced. -/
theorem fenced_insertPieces (table : String) (rows : List Fields) :
    Fenced (insertPieces table rows) := by
  have each : Fenced (joined ", " (rows.map (rowPieces (rowColumns rows)))) := by
    refine Fenced.joined (fun _ => rfl) fun ps hps => ?_
    obtain ⟨row, -, rfl⟩ := List.mem_map.1 hps
    exact Fenced.append (fenced_valuePieces _) rfl trivial
  exact Fenced.append (fenced_namePieces _) rfl each

/-- What an upsert does about rows that collide is fenced. -/
theorem fenced_conflictPieces (conflict columns : List String) :
    Fenced (conflictPieces conflict columns) := by
  have each : Fenced (joined ", " (columns.map overwritePieces)) := by
    refine Fenced.joined (fun _ => rfl) fun ps hps => ?_
    obtain ⟨column, -, rfl⟩ := List.mem_map.1 hps
    trivial
  exact Fenced.append (fenced_namePieces _) rfl each

/-- Assignments are fenced. -/
theorem fenced_assignments (fields : Fields) :
    Fenced (joined ", " (fields.map assignmentPieces)) := by
  refine Fenced.joined (fun _ => rfl) fun ps hps => ?_
  obtain ⟨field, -, rfl⟩ := List.mem_map.1 hps
  exact ⟨rfl, trivial⟩

/-- The `RETURNING` clause closes: it is empty, or starts with a blank. -/
theorem fenced_returning {ps : List Piece} (fenced : Fenced ps) (columns : String) :
    Fenced (ps ++ returningHead columns ++ [.verbatim columns]) := by
  rw [List.append_assoc]
  unfold returningHead
  split
  · rename_i empty
    subst empty
    exact fenced.append rfl trivial
  · exact fenced.append rfl trivial

/-- The layout of every operation is fenced. -/
theorem Operation.fenced_pieces (op : Operation) : Fenced op.pieces := by
  cases op with
  | select s =>
    have tail : Fenced (orderPieces s.orderBy ++ limitPieces s.limit) := by
      cases s.orderBy <;> cases s.limit <;> trivial
    have tail_closes : closes (orderPieces s.orderBy ++ limitPieces s.limit) = true := by
      cases s.orderBy <;> cases s.limit <;> rfl
    have filtered := (fenced_wherePieces s.conditions).append tail_closes tail
    rw [← List.append_assoc] at filtered
    exact filtered
  | insert s => exact fenced_returning (fenced_insertPieces _ _) _
  | upsert s =>
    exact fenced_returning ((fenced_insertPieces _ _).append rfl (fenced_conflictPieces _ _)) _
  | update s =>
    have assigned := fenced_assignments s.values
    exact fenced_returning
      (assigned.append (closes_wherePieces s.conditions) (fenced_wherePieces _)) _
  | delete s => exact fenced_returning (fenced_wherePieces s.conditions) _

/-- The layout of every operation is spaced. -/
theorem Operation.spaced_pieces (op : Operation) : Spaced op.pieces := op.fenced_pieces.spaced

/-! ### The parameters -/

/-- The values that a predicate contributes: the elements that `IN` looks among, nothing for `IS`
and `IS NOT`, and otherwise the operand. -/
def Condition.bound (c : Condition) : List Value :=
  match c.operator with
  | .isIn => c.members
  | .is | .isNot => []
  | _ => [c.operand]

/-- The values of rows, row by row, each read in the order of the columns of the first row. -/
def rowReadings (rows : List Fields) : List (Option Value) :=
  rows.flatMap fun row => (rowColumns rows).map row.get?

/-- The parameters that an operation asks for; a column that a row lacks is read as nothing. -/
def Operation.readings : Operation → List (Option Value)
  | select s => (s.conditions.flatMap Condition.bound).map some
  | insert s => rowReadings s.rows
  | upsert s => rowReadings s.rows
  | update s => (s.values.map Prod.snd ++ s.conditions.flatMap Condition.bound).map some
  | delete s => (s.conditions.flatMap Condition.bound).map some

/-- Values with commas between. -/
@[simp] theorem values_valuePieces (vs : List Value) : Piece.values (valuePieces vs) = vs := by
  simp [valuePieces, List.flatMap_map]

/-- The values of a predicate. -/
@[simp] theorem Condition.values_pieces (c : Condition) : Piece.values c.pieces = c.bound := by
  obtain ⟨column, operator, operand⟩ := c
  cases operator
  case isIn =>
    by_cases none_given : members ⟨column, .isIn, operand⟩ = []
    · simp [pieces, bound, none_given]
    · simp [pieces, bound, none_given]
  all_goals rfl

/-- The values of the `WHERE` clause. -/
@[simp] theorem values_wherePieces (cs : List Condition) :
    Piece.values (wherePieces cs) = cs.flatMap Condition.bound := by
  unfold wherePieces
  split
  · rename_i empty
    subst empty
    rfl
  · simp [List.flatMap_map]

/-- The values of rows that have every column. -/
theorem values_insertPieces {rules : NameRules} {table : String} {rows : List Fields}
    (h : rules.checkInserted rows = .ok ()) :
    (Piece.values (insertPieces table rows)).map some = rowReadings rows := by
  obtain ⟨-, -, complete⟩ := NameRules.checkInserted_eq_ok_iff.1 h
  have one (row : Fields) (hrow : row ∈ rows) :
      ((rowColumns rows).filterMap row.get?).map some = (rowColumns rows).map row.get? := by
    obtain ⟨vs, hvs⟩ := complete row hrow
    rw [hvs, ← NameRules.eq_of_rowValues (NameRules.rowValues_eq_ok_iff.2 hvs)]
  have each : (rows.flatMap fun row => (rowColumns rows).filterMap row.get?).map some
      = rowReadings rows := by
    rw [List.map_flatMap, rowReadings, List.flatMap_def, List.flatMap_def]
    exact congrArg List.flatten (List.map_congr_left one)
  simpa [insertPieces, rowPieces, List.flatMap_map] using each

/-- The values of an operation that passes its checks are the parameters it asks for. -/
theorem Operation.values_pieces {rules : NameRules} {op : Operation}
    (h : rules.check op = .ok ()) : (Piece.values op.pieces).map some = op.readings := by
  cases op with
  | select s =>
    have order : Piece.values (orderPieces s.orderBy) = [] := by cases s.orderBy <;> rfl
    have limit : Piece.values (limitPieces s.limit) = [] := by cases s.limit <;> rfl
    simp [pieces, front, back, readings, order, limit]
  | insert s =>
    have inserted : (Piece.values (insertPieces s.table s.rows)).map some = rowReadings s.rows :=
      values_insertPieces (unit_bind_eq_ok.1 h).1
    simpa [pieces, front, back, readings] using inserted
  | upsert s =>
    have inserted : (Piece.values (insertPieces s.table s.rows)).map some = rowReadings s.rows :=
      values_insertPieces (unit_bind_eq_ok.1 h).1
    have unbound : (rowColumns s.rows).flatMap (fun _ => ([] : List Value)) = [] :=
      List.flatMap_eq_nil_iff.2 fun _ _ => rfl
    simpa [pieces, front, back, readings, conflictPieces, List.flatMap_map, overwritePieces,
      unbound] using inserted
  | update s =>
    have assigned : (s.values.flatMap fun field => [field.2]) = s.values.map Prod.snd :=
      List.map_eq_flatMap.symm
    simp [pieces, front, back, readings, List.flatMap_map, assignmentPieces, assigned]
  | delete s => simp [pieces, front, back, readings]

/-! ### Compiled statements -/

namespace NameRules

/-- The placeholders of a compiled statement are the numerals of the positions of its parameters. -/
theorem numerals_of_compile {rules : NameRules} {op : Operation} {c : Compiled}
    (table : '$' ∉ op.table.toList) (h : rules.compile op = .ok c) :
    Token.placeholders c.sql.toList = (List.range' 1 c.params.length).map natChars := by
  obtain ⟨checked, rfl⟩ := compile_eq_ok_iff.1 h
  exact placeholders_write op.spaced_pieces (dollarless_pieces table checked) 0

/-- **Placeholder discipline.**  Scanning a compiled statement from left to right finds the indices
`1`, `2`, …, `n` in this order, each of them once, where `n` is the number of parameters, and the
parameters are those that the operation asks for.

**Proof sketch.**  The statement is the layout of the operation, in which a value is never followed
by a digit.  Its verbatim pieces are the table, the column list, and texts of clauses, and none of
them has a dollar sign, so that scanning the pieces finds the marks of the values.  A row that
lacks a column does not pass the checks, hence every column of every row is read. -/
theorem placeholders_compile {rules : NameRules} {op : Operation} {c : Compiled}
    (table : '$' ∉ op.table.toList) (h : rules.compile op = .ok c) :
    (Token.placeholders c.sql.toList).map Text.decimalValue?
        = (List.range' 1 c.params.length).map some
      ∧ c.params.map some = op.readings := by
  constructor
  · rw [numerals_of_compile table h, List.map_map]
    exact List.map_congr_left fun n _ => Text.decimalValue?_natChars n
  · obtain ⟨checked, rfl⟩ := compile_eq_ok_iff.1 h
    exact Operation.values_pieces checked

/-- An insert of two rows, the second of which has its keys in another order. -/
theorem placeholders_compile_rows :
    let op := Operation.insert
      ⟨"users", [[("id", .int 1), ("name", .text "a")], [("name", .text "b"), ("id", .int 2)]],
        none⟩
    let c : Compiled :=
      ⟨"INSERT INTO users (id, name) VALUES ($1, $2), ($3, $4)",
        [.int 1, .text "a", .int 2, .text "b"]⟩
    NameRules.compile ⟨63, "id"⟩ op = .ok c
      ∧ (Token.placeholders c.sql.toList).map Text.decimalValue? = [some 1, some 2, some 3, some 4]
      ∧ c.params.map some = op.readings := by
  intro op c
  have compiled : NameRules.compile ⟨63, "id"⟩ op = .ok c := rfl
  exact ⟨compiled, placeholders_compile (by decide) compiled⟩

end NameRules

end QueryChain
