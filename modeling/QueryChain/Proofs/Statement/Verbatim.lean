import QueryChain.Proofs.Placeholder.Scan
import QueryChain.Proofs.Statement.Compile

/-!
# The text that stands in statements

Values never enter a statement, so its text consists of marks and of verbatim pieces.  When the
checks pass, a verbatim piece is the table, the column list, or made of the few characters that
clauses, names and numbers are written with.

## Main definitions

* `isClauseChar`, `isClauseText` — the characters of clauses, and texts made of them.
* `Piece.Spells` — every verbatim piece of a list has a property.

## Main results

* `Piece.mem_write` — a character of a statement is part of a mark or of a verbatim piece.
* `NameRules.spells_front`, `NameRules.spells_back` — the verbatim pieces of what passes the checks.
* `NameRules.notMem_pieces` — signs that stand in none of them, unless the table has them.
-/

set_option relaxedAutoImplicit false
set_option autoImplicit false

namespace QueryChain

/-- A character that clauses, names and numbers are written with.  The line break is one, since it
may end a name. -/
def isClauseChar (c : Char) : Bool := c.isAlphanum || "_.,()=<>! \n".toList.contains c

/-- A text of characters that clauses are written with. -/
def isClauseText (s : String) : Bool := s.toList.all isClauseChar

/-! ### Properties of verbatim pieces -/

namespace Piece

/-- Every verbatim piece has a property. -/
def Spells (P : String → Prop) (ps : List Piece) : Prop := ∀ s, verbatim s ∈ ps → P s

variable {P : String → Prop} {ps qs : List Piece}

@[simp] theorem spells_nil : Spells P [] := fun _ h => by cases h

@[simp] theorem spells_verbatim {s : String} : Spells P (verbatim s :: ps) ↔ P s ∧ Spells P ps := by
  simp [Spells]

@[simp] theorem spells_value {v : Value} : Spells P (value v :: ps) ↔ Spells P ps := by
  simp [Spells]

@[simp] theorem spells_append : Spells P (ps ++ qs) ↔ Spells P ps ∧ Spells P qs := by
  simp only [Spells, List.mem_append, or_imp, forall_and]

/-- Joined lists have a property if the lists and the separator do. -/
theorem Spells.joined {sep : String} {pss : List (List Piece)} (hsep : P sep)
    (h : ∀ ps ∈ pss, Spells P ps) : Spells P (joined sep pss) := by
  induction pss with
  | nil => exact spells_nil
  | cons ps pss ih =>
    have hps := h ps List.mem_cons_self
    have hrest := ih fun qs hqs => h qs (List.mem_cons_of_mem _ hqs)
    cases pss with
    | nil => exact hps
    | cons qs qss => exact spells_append.2 ⟨hps, spells_verbatim.2 ⟨hsep, hrest⟩⟩

/-- A weaker property of the same pieces. -/
theorem Spells.imp {Q : String → Prop} (h : Spells P ps) (hPQ : ∀ s, P s → Q s) : Spells Q ps :=
  fun s hs => hPQ s (h s hs)

/-- The digits of a number are ASCII digits. -/
theorem isDigit_of_mem_natText {c : Char} {n : Nat} (h : c ∈ (natText n).toList) :
    c.isDigit = true := by
  rw [natText, String.toList_ofList] at h
  exact Text.isDigit_of_mem_natChars h

/-- A character of a text is part of a mark or of a verbatim piece. -/
theorem mem_write {c : Char} {k : Nat} (h : c ∈ (write Binder.dollarMark k ps).toList) :
    c = '$' ∨ c.isDigit = true ∨ ∃ s, verbatim s ∈ ps ∧ c ∈ s.toList := by
  induction ps generalizing k with
  | nil => simp [write] at h
  | cons p ps ih =>
    have later {k' : Nat} (h : c ∈ (write Binder.dollarMark k' ps).toList) :
        c = '$' ∨ c.isDigit = true ∨ ∃ s, verbatim s ∈ p :: ps ∧ c ∈ s.toList :=
      (ih h).imp id (Or.imp id (Exists.imp fun s hs => ⟨List.mem_cons_of_mem _ hs.1, hs.2⟩))
    cases p with
    | verbatim s =>
      rw [write, String.toList_append] at h
      rcases List.mem_append.1 h with h | h
      · exact .inr (.inr ⟨s, List.mem_cons_self, h⟩)
      · exact later h
    | value v =>
      rw [write, String.toList_append] at h
      rcases List.mem_append.1 h with h | h
      · rw [Binder.dollarMark, String.toList_append] at h
        rcases List.mem_append.1 h with h | h
        · exact .inl (List.mem_singleton.1 h)
        · exact .inr (.inl (isDigit_of_mem_natText h))
      · exact later h

end Piece

/-! ### Clauses -/

section Clauses

/-- What may go on in a name is a character of clauses. -/
theorem isClauseChar_of_isPart {c : Char} (h : Name.isPart c = true) : isClauseChar c = true := by
  rcases Bool.or_eq_true_iff.1 h with h | h
  · simp [isClauseChar, h]
  · rw [beq_iff_eq] at h
    subst h
    decide

/-- A number is a text of clauses. -/
theorem isClauseText_natText (n : Nat) : isClauseText (natText n) = true := by
  refine List.all_eq_true.2 fun c hc => ?_
  have digit := Piece.isDigit_of_mem_natText hc
  simp [isClauseChar, Char.isAlphanum, digit]

variable {rules : NameRules} {noun : Value} {s : String}

/-- A checked plain name is a text of clauses. -/
theorem isClauseText_of_checkPlain (h : rules.checkPlain noun (.text s) = .ok s) :
    isClauseText s = true := by
  refine List.all_eq_true.2 fun c hc => ?_
  rcases Name.mem_of_isPlain (NameRules.checkPlain_eq_ok_iff.1 h).2.1 hc with rfl | hc
  · decide
  · exact isClauseChar_of_isPart hc

/-- A checked column is a text of clauses. -/
theorem isClauseText_of_checkColumn (h : rules.checkColumn (.text s) = .ok s) :
    isClauseText s = true := by
  refine List.all_eq_true.2 fun c hc => ?_
  rcases Name.mem_of_isColumn (NameRules.checkColumn_eq_ok_iff.1 h).2.1 hc with rfl | rfl | hc
  · decide
  · decide
  · exact isClauseChar_of_isPart hc

variable {P : String → Prop} (clauses : ∀ s, isClauseText s = true → P s)

include clauses

/-- Values with commas between. -/
theorem spells_valuePieces (vs : List Value) : Piece.Spells P (valuePieces vs) := by
  refine Piece.Spells.joined (clauses _ (by decide)) fun ps hps => ?_
  obtain ⟨v, -, rfl⟩ := List.mem_map.1 hps
  exact Piece.spells_value.2 Piece.spells_nil

/-- Names with commas between. -/
theorem spells_namePieces {names : List String}
    (h : ∀ name ∈ names, rules.checkPlain (.text "column") (.text name) = .ok name) :
    Piece.Spells P (namePieces names) := by
  refine Piece.Spells.joined (clauses _ (by decide)) fun ps hps => ?_
  obtain ⟨name, hname, rfl⟩ := List.mem_map.1 hps
  simpa using clauses _ (isClauseText_of_checkPlain (h name hname))

/-- A predicate that passes. -/
theorem spells_condition {c : Condition} (h : rules.checkCondition c = .ok ()) :
    Piece.Spells P c.pieces := by
  have column := isClauseText_of_checkColumn (NameRules.checkCondition_eq_ok_iff.1 h).1
  have keyword : isClauseText (keywordText c.operand) = true := by
    unfold keywordText
    split <;> decide
  have operator : isClauseText c.operator.sql = true := by
    cases c.operator <;> decide
  unfold Condition.pieces
  split
  · split
    · simpa using clauses _ (by decide)
    · simp only [Piece.spells_append, Piece.spells_verbatim, Piece.spells_nil, and_true]
      exact ⟨⟨⟨clauses _ column, clauses _ (by decide)⟩, spells_valuePieces clauses _⟩,
        clauses _ (by decide)⟩
  · simp only [Piece.spells_verbatim, Piece.spells_nil, and_true]
    exact ⟨clauses _ column, clauses _ (by decide), clauses _ keyword⟩
  · simp only [Piece.spells_verbatim, Piece.spells_nil, and_true]
    exact ⟨clauses _ column, clauses _ (by decide), clauses _ keyword⟩
  · simp only [Piece.spells_verbatim, Piece.spells_value, Piece.spells_nil, and_true]
    exact ⟨clauses _ column, clauses _ (by decide), clauses _ operator, clauses _ (by decide)⟩

/-- A `WHERE` clause that passes. -/
theorem spells_wherePieces {cs : List Condition} (h : rules.checkConditions cs = .ok ()) :
    Piece.Spells P (wherePieces cs) := by
  unfold wherePieces
  split
  · exact Piece.spells_nil
  refine Piece.spells_verbatim.2 ⟨clauses _ (by decide), ?_⟩
  refine Piece.Spells.joined (clauses _ (by decide)) fun ps hps => ?_
  obtain ⟨c, hc, rfl⟩ := List.mem_map.1 hps
  exact spells_condition clauses (NameRules.checkConditions_eq_ok_iff.1 h c hc)

/-- The beginning of a `RETURNING` clause. -/
theorem spells_returningHead (columns : String) : Piece.Spells P (returningHead columns) := by
  unfold returningHead
  split
  · exact Piece.spells_nil
  · simpa using clauses _ (by decide)

/-- The part that both kinds of insert begin with. -/
theorem spells_insertPieces {table : String} {rows : List Fields} (htable : P table)
    (h : rules.checkInserted rows = .ok ()) : Piece.Spells P (insertPieces table rows) := by
  obtain ⟨-, names, -⟩ := NameRules.checkInserted_eq_ok_iff.1 h
  have rows_spell : Piece.Spells P
      (Piece.joined ", " (rows.map (rowPieces (rowColumns rows)))) := by
    refine Piece.Spells.joined (clauses _ (by decide)) fun ps hps => ?_
    obtain ⟨row, -, rfl⟩ := List.mem_map.1 hps
    simp only [rowPieces, Piece.spells_append, Piece.spells_verbatim, Piece.spells_nil, and_true]
    exact ⟨⟨clauses _ (by decide), spells_valuePieces clauses _⟩, clauses _ (by decide)⟩
  simp only [insertPieces, Piece.spells_append, Piece.spells_verbatim, Piece.spells_nil, and_true]
  exact ⟨⟨⟨clauses _ (by decide), htable, clauses _ (by decide)⟩, spells_namePieces clauses names⟩,
    clauses _ (by decide), rows_spell⟩

/-- What an upsert does about rows that collide. -/
theorem spells_conflictPieces {conflict columns : List String}
    (hconflict : ∀ name ∈ conflict, rules.checkPlain (.text "column") (.text name) = .ok name)
    (hcolumns : ∀ name ∈ columns, rules.checkPlain (.text "column") (.text name) = .ok name) :
    Piece.Spells P (conflictPieces conflict columns) := by
  have overwritten : Piece.Spells P (Piece.joined ", " (columns.map overwritePieces)) := by
    refine Piece.Spells.joined (clauses _ (by decide)) fun ps hps => ?_
    obtain ⟨name, hname, rfl⟩ := List.mem_map.1 hps
    have column := clauses _ (isClauseText_of_checkPlain (hcolumns name hname))
    simpa [overwritePieces, column] using clauses _ (by decide)
  simp only [conflictPieces, Piece.spells_append, Piece.spells_verbatim, Piece.spells_nil, and_true]
  exact ⟨⟨clauses _ (by decide), spells_namePieces clauses hconflict⟩, clauses _ (by decide),
    overwritten⟩

/-- Assignments that pass. -/
theorem spells_assignments {fields : Fields} (h : rules.checkAssigned fields = .ok ()) :
    Piece.Spells P (Piece.joined ", " (fields.map assignmentPieces)) := by
  refine Piece.Spells.joined (clauses _ (by decide)) fun ps hps => ?_
  obtain ⟨field, hfield, rfl⟩ := List.mem_map.1 hps
  have column := isClauseText_of_checkPlain (NameRules.checkAssigned_eq_ok_iff.1 h field hfield)
  simp only [assignmentPieces, Piece.spells_verbatim, Piece.spells_value, Piece.spells_nil,
    and_true]
  exact ⟨clauses _ column, clauses _ (by decide)⟩

/-- An `ORDER BY` clause that passes. -/
theorem spells_orderPieces {order : Option OrderBy} (h : rules.checkOrder order = .ok ()) :
    Piece.Spells P (orderPieces order) := by
  cases order with
  | none => exact Piece.spells_nil
  | some o =>
    have column := isClauseText_of_checkColumn (NameRules.checkOrder_eq_ok_iff.1 h o rfl)
    have direction : isClauseText (if o.ascending then " ASC" else " DESC") = true := by
      cases o.ascending <;> decide
    simp only [orderPieces, Piece.spells_verbatim, Piece.spells_nil, and_true]
    exact ⟨clauses _ (by decide), clauses _ column, clauses _ direction⟩

/-- A `LIMIT` clause. -/
theorem spells_limitPieces (limit : Option Nat) : Piece.Spells P (limitPieces limit) := by
  cases limit with
  | none => exact Piece.spells_nil
  | some n =>
    simp only [limitPieces, Piece.spells_verbatim, Piece.spells_nil, and_true]
    exact ⟨clauses _ (by decide), clauses _ (isClauseText_natText n)⟩

end Clauses

/-! ### Operations -/

namespace NameRules

variable {rules : NameRules} {op : Operation} {P : String → Prop}
  (clauses : ∀ s, isClauseText s = true → P s) (table : P op.table)

include clauses table

/-- The verbatim pieces in front of the column list: the table, or texts of clauses. -/
theorem spells_front (h : rules.check op = .ok ()) : Piece.Spells P op.front := by
  cases op with
  | select s => simpa [Operation.front] using clauses _ (by decide)
  | insert s =>
    have head := spells_insertPieces clauses table (unit_bind_eq_ok.1 h).1
    exact Piece.spells_append.2 ⟨head, spells_returningHead clauses _⟩
  | upsert s =>
    obtain ⟨inserted, h⟩ := unit_bind_eq_ok.1 h
    obtain ⟨conflict, names, -⟩ := bind_eq_ok.1 h
    have collision := spells_conflictPieces clauses (checkNames_eq_ok_iff.1 names).2
      (checkInserted_eq_ok_iff.1 inserted).2.1
    have head := spells_insertPieces clauses table inserted
    exact Piece.spells_append.2 ⟨Piece.spells_append.2 ⟨head, collision⟩,
      spells_returningHead clauses _⟩
  | update s =>
    obtain ⟨assigned, h⟩ := unit_bind_eq_ok.1 h
    obtain ⟨conditions, -⟩ := unit_bind_eq_ok.1 h
    simp only [Operation.front, Piece.spells_append, Piece.spells_verbatim, Piece.spells_nil,
      and_true]
    exact ⟨⟨⟨⟨clauses _ (by decide), table, clauses _ (by decide)⟩,
      spells_assignments clauses assigned⟩, spells_wherePieces clauses conditions⟩,
      spells_returningHead clauses _⟩
  | delete s =>
    obtain ⟨conditions, -⟩ := unit_bind_eq_ok.1 h
    simp only [Operation.front, Piece.spells_append, Piece.spells_verbatim, Piece.spells_nil,
      and_true]
    exact ⟨⟨⟨clauses _ (by decide), table⟩, spells_wherePieces clauses conditions⟩,
      spells_returningHead clauses _⟩

/-- The verbatim pieces behind the column list: the table, or texts of clauses. -/
theorem spells_back (h : rules.check op = .ok ()) : Piece.Spells P op.back := by
  cases op with
  | select s =>
    obtain ⟨-, -, h⟩ := bind_eq_ok.1 h
    obtain ⟨conditions, order⟩ := unit_bind_eq_ok.1 h
    simp only [Operation.back, Piece.spells_append, Piece.spells_verbatim, Piece.spells_nil,
      and_true]
    exact ⟨⟨⟨⟨clauses _ (by decide), table⟩, spells_wherePieces clauses conditions⟩,
      spells_orderPieces clauses order⟩, spells_limitPieces clauses _⟩
  | insert s => exact Piece.spells_nil
  | upsert s => exact Piece.spells_nil
  | update s => exact Piece.spells_nil
  | delete s => exact Piece.spells_nil

omit clauses table

/-- A character that neither clauses nor column lists have stands in no verbatim piece, unless the
table has it. -/
theorem notMem_pieces {c : Char} (clause : isClauseChar c = false)
    (listed : Name.isListed c = false) (table : c ∉ op.table.toList)
    (h : rules.check op = .ok ()) : Piece.Spells (fun s => c ∉ s.toList) op.pieces := by
  have clauses (s : String) (hs : isClauseText s = true) : c ∉ s.toList :=
    Name.notMem_of_all hs clause
  have columns : c ∉ op.columnList.toList := Name.notMem_of_all (all_isListed_of_check h) listed
  exact Piece.spells_append.2 ⟨spells_front clauses table h,
    Piece.spells_verbatim.2 ⟨columns, spells_back clauses table h⟩⟩

/-- No verbatim piece has a dollar sign, unless the table has one. -/
theorem dollarless_pieces (table : '$' ∉ op.table.toList) (h : rules.check op = .ok ()) :
    Piece.Spells (fun s => '$' ∉ s.toList) op.pieces :=
  notMem_pieces (by decide) (by decide) table h

end NameRules

end QueryChain
