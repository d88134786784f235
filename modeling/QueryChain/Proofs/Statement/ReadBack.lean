import QueryChain.Proofs.Schema.Constructed
import QueryChain.Proofs.Statement.Lockstep
import QueryChain.Proofs.Statement.Matching

/-!
# Reading clauses back

Where two layouts start with the same clause and agree, the parts of the clause match and what
follows it agrees.  Names may be spelled like the words of statements, and what is returned may
contain such words; a clause is read to its end all the same, since the text is read from left to
right and every name is told by the fence behind it.

## Main results

* `Condition.read_pieces`, `read_where` — conditions.
* `read_insert`, `read_conflict`, `read_assignments` — what is written.
* `read_order`, `read_limit`, `read_returning` — the other clauses.
-/

set_option relaxedAutoImplicit false
set_option autoImplicit false

namespace QueryChain

variable {E : Value → Value → Prop}

open Piece

/-! ### Names and values -/

/-- What may stand in a name is no fence. -/
theorem not_isFence_of_isPart {c : Char} (h : Name.isPart c = true) : isFence c = false := by
  refine Bool.eq_false_iff.2 fun fence => ?_
  simp only [isFence, Bool.or_eq_true, beq_iff_eq] at fence
  rcases fence with (rfl | rfl) | rfl <;> exact absurd h (by decide)

/-- A checked plain name is a word. -/
theorem isWord_of_checkPlain {rules : NameRules} {noun : Value} {s : String}
    (h : rules.checkPlain noun (.text s) = .ok s) : isWord s = true := by
  refine List.all_eq_true.2 fun c hc => ?_
  rcases Name.mem_of_isPlain (NameRules.checkPlain_eq_ok_iff.1 h).2.1 hc with rfl | hc
  · decide
  · rw [not_isFence_of_isPart hc]
    rfl

/-- A checked column is a word. -/
theorem isWord_of_checkColumn {rules : NameRules} {s : String}
    (h : rules.checkColumn (.text s) = .ok s) : isWord s = true := by
  refine List.all_eq_true.2 fun c hc => ?_
  rcases Name.mem_of_isColumn (NameRules.checkColumn_eq_ok_iff.1 h).2.1 hc with rfl | rfl | hc
  · decide
  · decide
  · rw [not_isFence_of_isPart hc]
    rfl

variable {ps qs : List Piece}

/-- Values with commas between are read up to the parenthesis behind them. -/
theorem read_values {vs ws : List Value} (hv : vs ≠ []) (hw : ws ≠ []) {close : String}
    (told : apart close ", " = true)
    (h : Agree E (valuePieces vs ++ verbatim close :: ps) (valuePieces ws ++ verbatim close :: qs)) :
    List.Forall₂ E vs ws ∧ Agree E ps qs := by
  obtain ⟨values, rest⟩ := Agree.joined (fun v => [Piece.value v]) ", " [close]
    (by simpa using told) (by decide) hv hw (fun _ _ _ _ _ _ _ _ one => one.of_value)
    (Leads.cons List.mem_cons_self) (Leads.cons List.mem_cons_self) h
  exact ⟨values, rest.of_verbatim⟩

/-- Names with commas between are read up to the parenthesis behind them. -/
theorem read_names {names others : List String} (hn : names ≠ []) (ho : others ≠ [])
    (words : ∀ name ∈ names, isWord name = true) (words' : ∀ name ∈ others, isWord name = true)
    {close : String} (told : apart close ", " = true)
    (fenced : close.toList.head?.any isFence = true)
    (h : Agree E (namePieces names ++ verbatim close :: ps)
      (namePieces others ++ verbatim close :: qs)) :
    names = others ∧ Agree E ps qs := by
  have fences : [", ", close].all (fun w => w.toList.head?.any isFence) = true := by
    simp [fenced, show isFence ',' = true from rfl]
  obtain ⟨same, rest⟩ := Agree.joined (fun name => [Piece.verbatim name]) ", " [close]
    (by simpa using told) (by decide) hn ho
    (fun name hname other hother _ _ hp hq one =>
      one.word (words name hname) (words' other hother) (hp.stops fences) (hq.stops fences))
    (Leads.cons List.mem_cons_self) (Leads.cons List.mem_cons_self) h
  rw [List.forall₂_eq_eq_eq] at same
  exact ⟨same, rest.of_verbatim⟩

/-! ### Conditions -/

/-- What stands between the column and the operand of a predicate. -/
def Operator.lead : Operator → String
  | .isIn => " IN ("
  | o => " " ++ o.sql ++ " "

/-- The words that may stand behind a predicate. -/
def conditionEnds : List String := [" AND ", " ORDER BY ", " LIMIT ", " RETURNING "]

/-- No operator is taken for the end of a predicate. -/
theorem Operator.apart_lead (o : Operator) :
    conditionEnds.all (fun w => apart w o.lead) = true := by
  cases o <;> decide

/-- Every lead starts with a blank. -/
theorem Operator.stops_lead (o : Operator) (ps : List Piece) : Stops (.verbatim o.lead :: ps) := by
  cases o <;> exact stops_of_closes rfl

/-- Operators are told apart, but for the one that goes on with a negation. -/
theorem Operator.eq_or_of_not_apart {o o' : Operator} (h : apart o.lead o'.lead = false) :
    o = o' ∨ o = .is ∧ o' = .isNot ∨ o = .isNot ∧ o' = .is := by
  revert h
  cases o <;> cases o' <;> decide

/-- No keyword is taken for a negation. -/
theorem apart_keywordText (v : Value) : apart (keywordText v) "NOT " = true := by
  unfold keywordText
  split <;> decide

/-- Keywords are words. -/
theorem isWord_keywordText (v : Value) : isWord (keywordText v) = true := by
  unfold keywordText
  split <;> decide

/-- A keyword is read back as its operand. -/
theorem eq_of_keywordText {v w : Value} {s t : String} (hv : NameRules.checkKeyword v = .ok s)
    (hw : NameRules.checkKeyword w = .ok t) (h : keywordText v = keywordText w) : v = w := by
  have accepted {x : Value} {r : String} (hx : NameRules.checkKeyword x = .ok r) :
      x = .null ∨ x = .bool true ∨ x = .bool false := by
    unfold NameRules.checkKeyword at hx
    split at hx
    · exact .inl rfl
    · exact .inr (.inl rfl)
    · exact .inr (.inr rfl)
    · cases hx
  rcases accepted hv with rfl | rfl | rfl <;> rcases accepted hw with rfl | rfl | rfl
  all_goals first | rfl | exact absurd h (by decide)

namespace Condition

/-- What stands behind the lead of a predicate. -/
def object (c : Condition) : List Piece :=
  match c.operator with
  | .isIn => valuePieces c.members ++ [.verbatim ")"]
  | .is | .isNot => [.verbatim (keywordText c.operand)]
  | _ => [.value c.operand]

/-- A predicate that looks among nothing. -/
def Void (c : Condition) : Prop := c.operator = .isIn ∧ c.members = []

variable {c d : Condition}

/-- A predicate that looks among nothing names no column. -/
theorem pieces_of_void (h : c.Void) : c.pieces = [.verbatim "FALSE"] := by
  obtain ⟨column, operator, operand⟩ := c
  obtain ⟨rfl, none_given⟩ := h
  exact if_pos none_given

/-- Every other predicate is its column, its lead and what stands behind. -/
theorem agree_of_not_void (hc : ¬ c.Void) (h : Agree E (c.pieces ++ ps) qs) :
    Agree E (.verbatim c.column :: .verbatim c.operator.lead :: (c.object ++ ps)) qs := by
  obtain ⟨k, text, params⟩ := h
  obtain ⟨column, operator, operand⟩ := c
  cases operator
  case isIn =>
    have given : members ⟨column, .isIn, operand⟩ ≠ [] := fun none_given => hc ⟨rfl, none_given⟩
    have laid_out : pieces ⟨column, .isIn, operand⟩
        = .verbatim column :: .verbatim " IN (" :: object ⟨column, .isIn, operand⟩ := if_neg given
    rw [laid_out] at text params
    exact ⟨k, text, params⟩
  case is => exact ⟨k, text, params⟩
  case isNot => exact ⟨k, text, params⟩
  all_goals
    refine ⟨k, ?_, params⟩
    rw [← text]
    simp [pieces, object, Operator.lead, write, String.append_assoc]

/-- What looks among values, passes its check and was constructed looks among a list. -/
theorem operand_eq_members {rules : NameRules} (operator : c.operator = .isIn)
    (hc : rules.checkCondition c = .ok ()) (listed : c.Listed) : c.operand = .list c.members := by
  have fits := (NameRules.checkCondition_eq_ok_iff.1 hc).2
  rw [NameRules.OperandFits, operator] at fits
  obtain ⟨vs, found⟩ := fits
  unfold Value.elements at found
  split at found
  · rename_i xs given
    have list := listed operator xs given
    rw [members, given]
    exact list
  · cases found

variable {rules : NameRules}

/-- Two predicates with the same operator on the same column are read back to their ends. -/
theorem read_object (operator : c.operator = d.operator) (column : c.column = d.column)
    (hc : rules.checkCondition c = .ok ()) (hd : rules.checkCondition d = .ok ()) (lc : c.Listed)
    (ld : d.Listed) (vc : ¬ c.Void) (vd : ¬ d.Void) (hp : Stops ps) (hq : Stops qs)
    (h : Agree E (c.object ++ ps) (d.object ++ qs)) : MatchingCondition E c d ∧ Agree E ps qs := by
  have fits := (NameRules.checkCondition_eq_ok_iff.1 hc).2
  have fits' := (NameRules.checkCondition_eq_ok_iff.1 hd).2
  obtain ⟨name, o, operand⟩ := c
  obtain ⟨name', o', operand'⟩ := d
  obtain rfl : o = o' := operator
  obtain rfl : name = name' := column
  cases o
  case isIn =>
    have list := operand_eq_members rfl hc lc
    have list' := operand_eq_members rfl hd ld
    simp only [object, List.append_assoc] at h
    obtain ⟨values, rest⟩ := read_values (fun e => vc ⟨rfl, e⟩) (fun e => vd ⟨rfl, e⟩)
      (by decide) h
    exact ⟨⟨rfl, _, _, list, list', values, fun _ => rfl⟩, rest⟩
  case is =>
    obtain ⟨keyword, found⟩ := fits
    obtain ⟨keyword', found'⟩ := fits'
    obtain ⟨text, rest⟩ := h.word (isWord_keywordText _) (isWord_keywordText _) hp hq
    exact ⟨⟨rfl, rfl, eq_of_keywordText found found' text⟩, rest⟩
  case isNot =>
    obtain ⟨keyword, found⟩ := fits
    obtain ⟨keyword', found'⟩ := fits'
    obtain ⟨text, rest⟩ := h.word (isWord_keywordText _) (isWord_keywordText _) hp hq
    exact ⟨⟨rfl, rfl, eq_of_keywordText found found' text⟩, rest⟩
  all_goals
    obtain ⟨operands, rest⟩ := h.of_value
    exact ⟨⟨rfl, rfl, operands⟩, rest⟩

/-- A question for a keyword is not read as its negation. -/
theorem not_agree_negated (is : c.operator = .is) (isNot : d.operator = .isNot)
    (h : Agree E (.verbatim c.operator.lead :: (c.object ++ ps))
      (.verbatim d.operator.lead :: (d.object ++ qs))) : False := by
  have lead : Operator.lead .isNot = Operator.lead .is ++ "NOT " := rfl
  have asked : c.object = [.verbatim (keywordText c.operand)] := by rw [object, is]
  rw [is, isNot, lead, asked] at h
  have rest := h.symm.split.of_verbatim.symm
  have told := apart_keywordText c.operand
  rw [rest.not_apart] at told
  cases told

/-- A predicate that looks among nothing is read as no other. -/
theorem not_agree_void (hc : ¬ c.Void) (column : rules.checkColumn (.text c.column) = .ok c.column)
    (hd : d.Void) (hq : Leads conditionEnds qs) (h : Agree E (c.pieces ++ ps) (d.pieces ++ qs)) :
    False := by
  rw [pieces_of_void hd] at h
  obtain ⟨-, rest⟩ := (agree_of_not_void hc h).word (isWord_of_checkColumn column) (by decide)
    (c.operator.stops_lead _) (hq.stops (by decide))
  exact hq.not_agree c.operator.apart_lead (by cases c.operator <;> decide) rest.symm

/-- **A predicate is read back to its end.**

**Proof sketch.**  Its first word is the column, or stands for a predicate that looks among nothing.
In the latter case the end of the predicate follows, which no operator looks like, so that the other
predicate looks among nothing as well.  Otherwise the columns are the same, and the operators are
told apart by their first words, except that a question for a keyword goes on like its negation; the
keyword tells these two apart. -/
theorem read_pieces (hc : rules.checkCondition c = .ok ()) (hd : rules.checkCondition d = .ok ())
    (lc : c.Listed) (ld : d.Listed) (hp : Leads conditionEnds ps) (hq : Leads conditionEnds qs)
    (h : Agree E (c.pieces ++ ps) (d.pieces ++ qs)) : MatchingCondition E c d ∧ Agree E ps qs := by
  have column := (NameRules.checkCondition_eq_ok_iff.1 hc).1
  have column' := (NameRules.checkCondition_eq_ok_iff.1 hd).1
  by_cases vc : c.Void
  · by_cases vd : d.Void
    · have list := operand_eq_members vc.1 hc lc
      have list' := operand_eq_members vd.1 hd ld
      rw [vc.2] at list
      rw [vd.2] at list'
      rw [pieces_of_void vc, pieces_of_void vd] at h
      refine ⟨⟨vc.1.trans vd.1.symm, ?_⟩, h.of_verbatim⟩
      rw [vc.1]
      exact ⟨[], [], list, list', .nil, fun given => absurd rfl given⟩
    · exact (not_agree_void vd column' vc hp h.symm).elim
  by_cases vd : d.Void
  · exact (not_agree_void vc column vd hq h).elim
  have led := agree_of_not_void vd (agree_of_not_void vc h).symm
  obtain ⟨same, led⟩ := led.symm.word (isWord_of_checkColumn column) (isWord_of_checkColumn column')
    (c.operator.stops_lead _) (d.operator.stops_lead _)
  rcases Operator.eq_or_of_not_apart led.not_apart with operator | ⟨is, isNot⟩ | ⟨isNot, is⟩
  · rw [operator] at led
    exact read_object operator same hc hd lc ld vc vd (hp.stops (by decide)) (hq.stops (by decide))
      led.of_verbatim
  · exact (not_agree_negated is isNot led).elim
  · exact (not_agree_negated is isNot led.symm).elim

end Condition

/-- Conditions that were constructed and pass their checks are read back, clause and all. -/
theorem read_where {rules : NameRules} {cs ds : List Condition}
    (hc : rules.checkConditions cs = .ok ()) (hd : rules.checkConditions ds = .ok ())
    (lc : ∀ c ∈ cs, c.Listed) (ld : ∀ d ∈ ds, d.Listed)
    (hp : Leads [" ORDER BY ", " LIMIT ", " RETURNING "] ps)
    (hq : Leads [" ORDER BY ", " LIMIT ", " RETURNING "] qs)
    (h : Agree E (wherePieces cs ++ ps) (wherePieces ds ++ qs)) :
    List.Forall₂ (MatchingCondition E) cs ds ∧ Agree E ps qs := by
  by_cases none_left : cs = []
  · by_cases none_right : ds = []
    · subst none_left none_right
      exact ⟨.nil, h⟩
    · rw [wherePieces, if_pos none_left, wherePieces, if_neg none_right] at h
      exact (hp.not_agree (by decide) (by decide) h).elim
  by_cases none_right : ds = []
  · rw [wherePieces, if_neg none_left, wherePieces, if_pos none_right] at h
    exact (hq.not_agree (by decide) (by decide) h.symm).elim
  rw [wherePieces, if_neg none_left, wherePieces, if_neg none_right] at h
  exact Agree.joined Condition.pieces " AND " _ (by decide) (by decide) none_left none_right
    (fun c hcs d hds _ _ hp hq one =>
      Condition.read_pieces (NameRules.checkConditions_eq_ok_iff.1 hc c hcs)
        (NameRules.checkConditions_eq_ok_iff.1 hd d hds) (lc c hcs) (ld d hds) hp hq one)
    hp hq h.of_verbatim

/-! ### Payloads -/

namespace Payload

variable {rows : List Fields}

/-- A payload has a row, and its first row a column. -/
theorem ne_nil (h : Payload rows) : rows ≠ [] ∧ rowColumns rows ≠ [] := by
  obtain ⟨-, first, rest, rfl, given, -⟩ := checkRows_eq_ok_iff.1 h.checked
  exact ⟨List.cons_ne_nil _ _, fun no_columns => given (List.map_eq_nil_iff.1 no_columns)⟩

/-- The names of every row are columns. -/
theorem mem_rowColumns (h : Payload rows) {row : Fields} (hrow : row ∈ rows) {name : String}
    (hname : row.has name = true) : name ∈ rowColumns rows := by
  obtain ⟨-, first, rest, rfl, -, uniform⟩ := checkRows_eq_ok_iff.1 h.checked
  rcases List.mem_cons.1 hrow with rfl | later
  · exact Fields.has_iff_mem.1 hname
  · have same := uniform row later
    rw [sameColumns, Bool.and_eq_true, List.all_eq_true] at same
    obtain ⟨field, hfield, rfl⟩ := List.mem_map.1 (Fields.has_iff_mem.1 hname)
    exact Fields.has_iff_mem.1 (same.2 field hfield)

end Payload

/-- The values of a row under columns that it has. -/
theorem map_get?_eq {row : Fields} {columns : List String}
    (complete : ∃ vs : List Value, columns.map row.get? = vs.map some) :
    columns.map row.get? = (columns.filterMap row.get?).map some := by
  obtain ⟨vs, hvs⟩ := complete
  rw [hvs, ← NameRules.eq_of_rowValues (NameRules.rowValues_eq_ok_iff.2 hvs)]

/-- Two rows with corresponding values under all their names are the same mapping. -/
theorem sameMapping_of_values {row other : Fields} {columns : List String}
    (complete : ∃ vs : List Value, columns.map row.get? = vs.map some)
    (complete' : ∃ vs : List Value, columns.map other.get? = vs.map some)
    (only : ∀ name, row.has name = true → name ∈ columns)
    (only' : ∀ name, other.has name = true → name ∈ columns)
    (h : List.Forall₂ E (columns.filterMap row.get?) (columns.filterMap other.get?)) :
    SameMapping E row other := by
  have found : List.Forall₂ (Option.Rel E) (columns.map row.get?) (columns.map other.get?) := by
    rw [map_get?_eq complete, map_get?_eq complete', List.forall₂_map_left_iff,
      List.forall₂_map_right_iff]
    exact h.imp fun _ _ => Option.Rel.some
  rw [List.forall₂_map_left_iff, List.forall₂_map_right_iff, List.forall₂_same] at found
  have absent {fields : Fields} {name : String} (hn : name ∉ columns)
      (only : ∀ name, fields.has name = true → name ∈ columns) : fields.get? name = none := by
    rw [← Option.not_isSome_iff_eq_none, Fields.isSome_get?]
    exact fun has => hn (only name has)
  intro name
  by_cases hname : name ∈ columns
  · exact found name hname
  · rw [absent hname only, absent hname only']
    exact .none

/-- One row of a payload is read back to its closing parenthesis. -/
theorem read_row {columns : List String} {row other : Fields} (given : columns ≠ [])
    (complete : ∃ vs : List Value, columns.map row.get? = vs.map some)
    (complete' : ∃ vs : List Value, columns.map other.get? = vs.map some)
    (h : Agree E (rowPieces columns row ++ ps) (rowPieces columns other ++ qs)) :
    List.Forall₂ E (columns.filterMap row.get?) (columns.filterMap other.get?) ∧ Agree E ps qs := by
  have some_value {fields : Fields}
      (complete : ∃ vs : List Value, columns.map fields.get? = vs.map some) :
      columns.filterMap fields.get? ≠ [] := fun none_left => by
    have all := map_get?_eq complete
    rw [none_left] at all
    exact given (List.map_eq_nil_iff.1 all)
  simp only [rowPieces, List.append_assoc, List.cons_append, List.nil_append] at h
  exact read_values (some_value complete) (some_value complete') (by decide) h.of_verbatim

/-- The part that both kinds of insert begin with is read back, for payloads that were constructed
and pass their checks. -/
theorem read_insert {rules : NameRules} {table : String} {rows others : List Fields}
    (hr : rules.checkInserted rows = .ok ()) (ho : rules.checkInserted others = .ok ())
    (payload : Payload rows) (payload' : Payload others)
    (hp : Leads [" ON CONFLICT (", " RETURNING "] ps)
    (hq : Leads [" ON CONFLICT (", " RETURNING "] qs)
    (h : Agree E (insertPieces table rows ++ ps) (insertPieces table others ++ qs)) :
    MatchingRows E rows others ∧ Agree E ps qs := by
  obtain ⟨-, names, complete⟩ := NameRules.checkInserted_eq_ok_iff.1 hr
  obtain ⟨-, names', complete'⟩ := NameRules.checkInserted_eq_ok_iff.1 ho
  simp only [insertPieces, List.append_assoc, List.cons_append, List.nil_append] at h
  obtain ⟨columns, rest⟩ := read_names payload.ne_nil.2 payload'.ne_nil.2
    (fun name hname => isWord_of_checkPlain (names name hname))
    (fun name hname => isWord_of_checkPlain (names' name hname)) (by decide) (by decide)
    h.of_verbatim.of_verbatim.of_verbatim
  rw [← columns] at rest complete'
  obtain ⟨mappings, tails⟩ := Agree.joined (R := SameMapping E) (rowPieces (rowColumns rows)) ", " _
    (by decide) (by decide) payload.ne_nil.1 payload'.ne_nil.1
    (fun row hrow other hother _ _ _ _ one => by
      obtain ⟨values, rest⟩ :=
        read_row payload.ne_nil.2 (complete row hrow) (complete' other hother) one
      exact ⟨sameMapping_of_values (complete row hrow) (complete' other hother)
        (fun _ => payload.mem_rowColumns hrow)
        (fun _ has => columns ▸ payload'.mem_rowColumns hother has) values, rest⟩)
    hp hq rest
  exact ⟨⟨columns, mappings⟩, tails⟩

/-- What an upsert does about rows that collide is read back: the columns that it overwrites are
known already. -/
theorem read_conflict {rules : NameRules} {conflict others columns : List String}
    (given : conflict ≠ []) (given' : others ≠ [])
    (names : ∀ name ∈ conflict, rules.checkPlain (.text "column") (.text name) = .ok name)
    (names' : ∀ name ∈ others, rules.checkPlain (.text "column") (.text name) = .ok name)
    (h : Agree E (conflictPieces conflict columns ++ ps) (conflictPieces others columns ++ qs)) :
    conflict = others ∧ Agree E ps qs := by
  simp only [conflictPieces, List.append_assoc, List.cons_append, List.nil_append] at h
  obtain ⟨same, rest⟩ := read_names given given'
    (fun name hname => isWord_of_checkPlain (names name hname))
    (fun name hname => isWord_of_checkPlain (names' name hname)) (by decide) (by decide)
    h.of_verbatim
  exact ⟨same, rest.cancel _⟩

/-- Assignments that pass their checks are read back. -/
theorem read_assignments {rules : NameRules} {fields others : Fields}
    (hf : rules.checkAssigned fields = .ok ()) (ho : rules.checkAssigned others = .ok ())
    (given : fields ≠ []) (given' : others ≠ []) (hp : Leads [" WHERE ", " RETURNING "] ps)
    (hq : Leads [" WHERE ", " RETURNING "] qs)
    (h : Agree E (joined ", " (fields.map assignmentPieces) ++ ps)
      (joined ", " (others.map assignmentPieces) ++ qs)) :
    MatchingFields E fields others ∧ Agree E ps qs := by
  refine Agree.joined assignmentPieces ", " _ (by decide) (by decide) given given' ?_ hp hq h
  intro field hfield other hother _ _ _ _ one
  have name := isWord_of_checkPlain (NameRules.checkAssigned_eq_ok_iff.1 hf field hfield)
  have name' := isWord_of_checkPlain (NameRules.checkAssigned_eq_ok_iff.1 ho other hother)
  obtain ⟨same, rest⟩ := one.word name name' (stops_of_closes rfl) (stops_of_closes rfl)
  obtain ⟨values, rest⟩ := rest.of_verbatim.of_value
  exact ⟨⟨same, values⟩, rest⟩

/-! ### Orders, limits and what is returned -/

/-- An order that passes its check is read back. -/
theorem read_order {rules : NameRules} {order other : Option OrderBy}
    (ho : rules.checkOrder order = .ok ()) (ho' : rules.checkOrder other = .ok ())
    (hp : Leads [" LIMIT "] ps) (hq : Leads [" LIMIT "] qs)
    (h : Agree E (orderPieces order ++ ps) (orderPieces other ++ qs)) :
    order = other ∧ Agree E ps qs := by
  cases order with
  | none =>
    cases other with
    | none => exact ⟨rfl, h⟩
    | some o' => exact (hp.not_agree (by decide) (by decide) h).elim
  | some o =>
    cases other with
    | none => exact (hq.not_agree (by decide) (by decide) h.symm).elim
    | some o' =>
      have column := isWord_of_checkColumn (NameRules.checkOrder_eq_ok_iff.1 ho o rfl)
      have column' := isWord_of_checkColumn (NameRules.checkOrder_eq_ok_iff.1 ho' o' rfl)
      have stops (ascending : Bool) (ps : List Piece) :
          Stops (.verbatim (if ascending then " ASC" else " DESC") :: ps) := by
        cases ascending <;> exact stops_of_closes rfl
      obtain ⟨name, ascending⟩ := o
      obtain ⟨name', ascending'⟩ := o'
      obtain ⟨rfl, rest⟩ := h.of_verbatim.word column column' (stops ascending _) (stops ascending' _)
      cases ascending <;> cases ascending'
      · exact ⟨rfl, rest.of_verbatim⟩
      · exact absurd rest.not_apart (by decide)
      · exact absurd rest.not_apart (by decide)
      · exact ⟨rfl, rest.of_verbatim⟩

/-- A limit is read back at the end of a statement. -/
theorem read_limit {limit other : Option Nat}
    (h : Agree E (limitPieces limit) (limitPieces other)) : limit = other := by
  cases limit with
  | none =>
    cases other with
    | none => rfl
    | some n => exact (h.not_empty (by decide) fun _ => rfl).elim
  | some m =>
    cases other with
    | none => exact (h.symm.not_empty (by decide) fun _ => rfl).elim
    | some n =>
      obtain ⟨k, text, -⟩ := h.of_verbatim
      have same : m = n := Text.natChars_inj (by simpa [write, natText] using text)
      rw [same]

/-- What is returned leads with its word, if it is anything. -/
theorem leads_returning {words : List String} (h : " RETURNING " ∈ words) (columns : String) :
    Leads words (returningHead columns ++ [.verbatim columns]) := by
  unfold returningHead
  split
  · rename_i nothing
    subst nothing
    exact .inl fun _ => rfl
  · exact Leads.cons h

/-- What is returned is read back at the end of a statement. -/
theorem read_returning {columns others : String}
    (h : Agree E (returningHead columns ++ [.verbatim columns])
      (returningHead others ++ [.verbatim others])) : columns = others := by
  unfold returningHead at h
  split at h <;> split at h
  · rename_i nothing nothing'
    rw [nothing, nothing']
  · rename_i nothing _
    subst nothing
    exact (h.not_empty (by decide) fun _ => rfl).elim
  · rename_i _ nothing
    subst nothing
    exact (h.symm.not_empty (by decide) fun _ => rfl).elim
  · obtain ⟨k, text, -⟩ := h.of_verbatim
    exact String.toList_injective (by simpa [write] using text)

/-- The `WHERE` clause leads with its word, if there is one. -/
theorem leads_where {words : List String} (h : " WHERE " ∈ words) (cs : List Condition)
    (hp : Leads words ps) : Leads words (wherePieces cs ++ ps) := by
  unfold wherePieces
  split
  · exact hp
  · exact Leads.cons h

end QueryChain
