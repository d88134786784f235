import QueryChain.Engine.Attributes
import QueryChain.Proofs.Statement.Compile
import QueryChain.Proofs.Statement.Verbatim
import QueryChain.Proofs.Text.Blank

/-!
# Keywords among the words of statements

A statement is made of names and of text that is the same in every statement.  That text is set off
from the names, by a blank or by a sign that no keyword has, so that a word of the statement reads
as `FROM` or `INTO` only if a word of one of its names does.

## Main definitions

* `Text.Silent` — no word of a text reads as one of the two keywords.
* `Text.isEdge` — the characters that no such word has in its inside.
* `Piece.SetOff` — pieces whose words are set off from each other.

## Main results

* `Text.Silent.append` — texts that meet at an edge.
* `Piece.SetOff.silent_write` — the text of pieces that are set off.
* `Operation.silent_behind` — what stands behind the table of a statement.
-/

set_option relaxedAutoImplicit false
set_option autoImplicit false

namespace QueryChain

namespace Statement

/-- The dots at the end of a statement that was cut. -/
def dots : List Char := ['.', '.', '.']

/-- Dots are part of a word. -/
theorem not_isBlank_of_mem_dots {c : Char} (h : c ∈ dots) : Text.isBlank c = false := by
  rw [dots, List.mem_cons, List.mem_cons, List.mem_singleton, or_self, or_self] at h
  rw [h]
  decide

end Statement

namespace Text

/-- The keywords that lead a search for the table astray: those of other statements. -/
def strayKeywords : List String := ["FROM", "INTO"]

/-- No word of a text reads as a stray keyword. -/
def Silent (cs : List Char) : Prop :=
  ∀ word ∈ wordsOf cs, upper (String.ofList word) ∉ strayKeywords

instance (cs : List Char) : Decidable (Silent cs) :=
  inferInstanceAs (Decidable (∀ word ∈ wordsOf cs, upper (String.ofList word) ∉ strayKeywords))

/-- A character that no keyword has: a blank, or a capital or sign that stands in none. -/
def isEdge (c : Char) : Bool :=
  isBlank c || (upperChar c == [c] && decide (c ∉ "FROMINTO".toList))

variable {cs ds : List Char} {c : Char}

/-! ### Texts side by side -/

/-- A word with an edge in its inside reads as no keyword. -/
theorem upper_notMem_of_isEdge {word : List Char} (edge : isEdge c = true) (mem : c ∈ word)
    (inside : isBlank c = false) : upper (String.ofList word) ∉ strayKeywords := by
  rw [isEdge, inside, Bool.false_or, Bool.and_eq_true, beq_iff_eq, decide_eq_true_iff] at edge
  have letter : c ∈ (upper (String.ofList word)).toList := by
    rw [upper, String.toList_ofList, String.toList_ofList, List.mem_flatMap]
    exact ⟨c, mem, by simp [edge.1]⟩
  intro keyword
  have known : ∀ keyword ∈ strayKeywords, keyword.toList ⊆ "FROMINTO".toList := by decide
  exact edge.2 (known _ keyword letter)

namespace Silent

/-- Texts that meet at an edge. -/
theorem append (h : Silent cs) (h' : Silent ds)
    (apart : ∀ c ∈ cs.getLast?, ∀ d ∈ ds.head?, isEdge c = true ∨ isEdge d = true) :
    Silent (cs ++ ds) := by
  obtain ⟨front, run, rfl, unbroken, front_words⟩ := exists_run cs
  intro word mem
  rw [List.append_assoc, front_words, List.mem_append] at mem
  rcases mem with first | mem
  · exact h word (by rw [front_words]; exact List.mem_append_left _ first)
  by_cases given : run = []
  · exact h' word (by simpa [given] using mem)
  rw [wordsOf_append_run unbroken given, List.mem_cons] at mem
  rcases mem with rfl | later
  · cases ds with
    | nil =>
      refine h _ ?_
      rw [front_words, wordsOf_of_forall unbroken given]
      simp
    | cons d ds =>
      by_cases blank : isBlank d = true
      · refine h _ ?_
        rw [front_words, wordsOf_of_forall unbroken given]
        simp [blank]
      · have inside : isBlank d = false := by simpa using blank
        have last : (front ++ run).getLast? = some (run.getLast given) := by
          rw [List.getLast?_append_of_ne_nil _ given, List.getLast?_eq_some_getLast given]
        rcases apart _ last d rfl with edge | edge
        · refine upper_notMem_of_isEdge edge ?_ (unbroken _ (List.getLast_mem given))
          exact List.mem_append_left _ (List.getLast_mem given)
        · refine upper_notMem_of_isEdge edge ?_ inside
          exact List.mem_append_right _ (by simp [inside])
  · refine h' word ?_
    rw [← List.takeWhile_append_dropWhile (p := fun c => !isBlank c) (l := ds),
      (StartsBlank.dropWhile ds).wordsOf_append]
    exact List.mem_append_right _ later

/-- What is left of a text when blanks are taken away behind it. -/
theorem of_append (h : Silent (cs ++ ds)) (off : StartsBlank ds) : Silent cs := by
  intro word mem
  refine h word ?_
  rw [off.wordsOf_append]
  exact List.mem_append_left _ mem

/-- A text that is cut and ends in dots. -/
theorem take_append_dots (h : Silent cs) (n : Nat) : Silent (cs.take n ++ Statement.dots) := by
  obtain ⟨front, run, split, unbroken, front_words⟩ := exists_run (cs.take n)
  have whole : cs = front ++ (run ++ cs.drop n) := by
    rw [← List.append_assoc, ← split, List.take_append_drop]
  intro word mem
  rw [split, List.append_assoc, front_words, wordsOf_of_forall (fun c hc =>
    (List.mem_append.1 hc).elim (unbroken c) Statement.not_isBlank_of_mem_dots)
    (by simp [Statement.dots]), List.mem_append] at mem
  rcases mem with first | last
  · refine h word ?_
    rw [whole, front_words]
    exact List.mem_append_left _ first
  · rw [List.mem_singleton.1 last]
    exact upper_notMem_of_isEdge (c := '.') (by decide) (by simp [Statement.dots]) (by decide)

end Silent

/-- A text that can stand between names: it has an edge at its two ends. -/
def Fixed (s : String) : Prop :=
  Silent s.toList ∧ s.toList.head?.any isEdge = true ∧ s.toList.getLast?.any isEdge = true

instance (s : String) : Decidable (Fixed s) :=
  inferInstanceAs (Decidable (Silent s.toList ∧ s.toList.head?.any isEdge = true
    ∧ s.toList.getLast?.any isEdge = true))

/-- A text of edges without blanks. -/
theorem fixed_of_forall {s : String} (given : s.toList ≠ [])
    (edges : ∀ c ∈ s.toList, isEdge c = true ∧ isBlank c = false) : Fixed s := by
  have first := List.head_mem given
  refine ⟨fun word mem => ?_, ?_, ?_⟩
  · rw [wordsOf_of_forall (fun c hc => (edges c hc).2) given, List.mem_singleton] at mem
    exact upper_notMem_of_isEdge (edges _ first).1 (mem ▸ first) (edges _ first).2
  · rw [List.head?_eq_some_head given, Option.any_some, (edges _ first).1]
  · rw [List.getLast?_eq_some_getLast given, Option.any_some, (edges _ (List.getLast_mem given)).1]

/-- Digits are edges and no blanks. -/
theorem isEdge_of_isDigit (h : c.isDigit = true) : isEdge c = true ∧ isBlank c = false := by
  have each : ∀ n < 58, 48 ≤ n →
      isEdge (Char.ofNat n) = true ∧ isBlank (Char.ofNat n) = false := by decide
  simp only [Char.isDigit, Bool.and_eq_true, decide_eq_true_eq, UInt32.le_iff_toNat_le] at h
  have code : 48 ≤ c.toNat ∧ c.toNat ≤ 57 := h
  rw [← Char.ofNat_toNat c]
  exact each c.toNat (Nat.lt_succ_of_le code.2) code.1

/-- The mark of a value. -/
theorem fixed_dollarMark (n : Nat) : Fixed (Binder.dollarMark n) := by
  have spelling : (Binder.dollarMark n).toList = '$' :: (natText n).toList := by
    rw [Binder.dollarMark, String.toList_append]
    rfl
  refine fixed_of_forall (by simp [spelling]) fun c hc => ?_
  rw [spelling] at hc
  rcases List.mem_cons.1 hc with rfl | digit
  · decide
  · exact isEdge_of_isDigit (Piece.isDigit_of_mem_natText digit)

end Text

open Text

namespace Piece

/-- Pieces whose words are set off from each other; those that are marked as such are set off from
what stands in front of them too. -/
inductive SetOff : Bool → List Piece → Prop where
  | nil {off : Bool} : SetOff off []
  | empty {off : Bool} {ps : List Piece} : SetOff off ps → SetOff off (.verbatim "" :: ps)
  | value {off : Bool} {v : Value} {ps : List Piece} : SetOff false ps → SetOff off (.value v :: ps)
  | fixed {off : Bool} {s : String} {ps : List Piece} (h : Fixed s) :
      SetOff false ps → SetOff off (.verbatim s :: ps)
  | word {s : String} {ps : List Piece} (h : Silent s.toList) :
      SetOff true ps → SetOff false (.verbatim s :: ps)

namespace SetOff

variable {off : Bool} {ps qs : List Piece}

/-- What is set off may follow anything. -/
theorem weaken (h : SetOff true ps) : SetOff off ps := by
  generalize set : true = strict at h
  induction h with
  | nil => exact .nil
  | empty _ ih => exact .empty (ih set)
  | value h => exact .value h
  | fixed h rest => exact .fixed h rest
  | word => cases set

/-- Pieces one after the other. -/
theorem append (h : SetOff off ps) (h' : SetOff true qs) : SetOff off (ps ++ qs) := by
  induction h with
  | nil => exact h'.weaken
  | empty _ ih => exact .empty ih
  | value _ ih => exact .value ih
  | fixed h _ ih => exact .fixed h ih
  | word h _ ih => exact .word h ih

/-- Lists of pieces with a fixed text between neighbours. -/
theorem joined {sep : String} {pss : List (List Piece)} (between : Fixed sep)
    (each : ∀ ps ∈ pss, SetOff false ps) : SetOff false (joined sep pss) := by
  induction pss with
  | nil => exact .nil
  | cons ps pss ih =>
    obtain ⟨first, rest⟩ := List.forall_mem_cons.1 each
    cases pss with
    | nil => exact first
    | cons qs qss => exact first.append (.fixed between (ih rest))

/-- The words of pieces that are set off are those of the pieces. -/
theorem silent_write (h : SetOff off ps) (k : Nat) :
    Silent (write Binder.dollarMark k ps).toList
      ∧ (off = true → ∀ c ∈ (write Binder.dollarMark k ps).toList.head?, isEdge c = true) := by
  -- In front of a fixed text and behind one there is an edge.
  have behind {s t : String} (fixed : Fixed s) (silent : Silent t.toList) :
      Silent (s ++ t).toList ∧ ∀ c ∈ (s ++ t).toList.head?, isEdge c = true := by
    obtain ⟨own, first, last⟩ := fixed
    obtain ⟨f, hf, first⟩ := (Option.any_eq_true _ _).1 first
    obtain ⟨l, hl, last⟩ := (Option.any_eq_true _ _).1 last
    rw [String.toList_append]
    refine ⟨own.append silent fun c hc _ _ => .inl ?_, fun c hc => ?_⟩
    · rwa [← Option.some.inj (hl.symm.trans hc)]
    · rw [List.head?_append, hf, Option.some_or] at hc
      rwa [← Option.some.inj hc]
  induction h generalizing k with
  | nil => exact ⟨by simp [write, Silent, wordsOf, wordsFrom], by simp [write]⟩
  | empty _ ih => simpa [write] using ih k
  | value _ ih =>
    obtain ⟨silent, first⟩ := behind (fixed_dollarMark (k + 1)) (ih (k + 1)).1
    exact ⟨silent, fun _ => first⟩
  | fixed fixed _ ih =>
    obtain ⟨silent, first⟩ := behind fixed (ih k).1
    exact ⟨silent, fun _ => first⟩
  | word silent _ ih =>
    obtain ⟨rest, first⟩ := ih k
    refine ⟨?_, fun off => by cases off⟩
    rw [write, String.toList_append]
    exact silent.append rest fun _ _ d hd => .inr (first rfl d hd)

end SetOff

end Piece

/-! ### Clauses -/

open Piece (SetOff)

/-- Values with commas between. -/
theorem setOff_valuePieces (vs : List Value) : SetOff false (valuePieces vs) := by
  refine SetOff.joined (by decide) fun ps hps => ?_
  obtain ⟨v, -, rfl⟩ := List.mem_map.1 hps
  exact .value .nil

/-- Names with commas between. -/
theorem setOff_namePieces {names : List String} (h : ∀ name ∈ names, Silent name.toList) :
    SetOff false (namePieces names) := by
  refine SetOff.joined (by decide) fun ps hps => ?_
  obtain ⟨name, hname, rfl⟩ := List.mem_map.1 hps
  exact .word (h name hname) .nil

/-- A predicate on a column. -/
theorem setOff_condition {c : Condition} (h : Silent c.column.toList) :
    SetOff false c.pieces := by
  have keyword : Silent (keywordText c.operand).toList := by
    unfold keywordText
    split <;> decide
  have operator : Silent c.operator.sql.toList := by
    cases c.operator <;> decide
  unfold Condition.pieces
  split
  · split
    · exact .word (by decide) .nil
    · exact .word h (.fixed (by decide) ((setOff_valuePieces c.members).append
        (.fixed (by decide) .nil)))
  · exact .word h (.fixed (by decide) (.word keyword .nil))
  · exact .word h (.fixed (by decide) (.word keyword .nil))
  · exact .word h (.fixed (by decide) (.word operator (.fixed (by decide) (.value .nil))))

/-- A `WHERE` clause. -/
theorem setOff_wherePieces {conditions : List Condition}
    (h : ∀ c ∈ conditions, Silent c.column.toList) : SetOff true (wherePieces conditions) := by
  unfold wherePieces
  split
  · exact .nil
  · refine .fixed (by decide) (SetOff.joined (by decide) fun ps hps => ?_)
    obtain ⟨c, hc, rfl⟩ := List.mem_map.1 hps
    exact setOff_condition (h c hc)

/-- A `RETURNING` clause, or none. -/
theorem setOff_returning {columns : String} (h : Silent columns.toList) :
    SetOff true (returningHead columns ++ [.verbatim columns]) := by
  unfold returningHead
  split
  · rename_i empty
    rw [empty]
    exact .empty .nil
  · exact .fixed (by decide) (.word h .nil)

/-- The columns and the rows of an insert. -/
theorem setOff_rows {columns : List String} (h : ∀ name ∈ columns, Silent name.toList)
    (rows : List Fields) : SetOff true (.verbatim " (" :: (namePieces columns
      ++ .verbatim ") VALUES " :: Piece.joined ", " (rows.map (rowPieces columns)))) := by
  have each : ∀ ps ∈ rows.map (rowPieces columns), SetOff false ps := by
    intro ps hps
    obtain ⟨row, -, rfl⟩ := List.mem_map.1 hps
    exact .fixed (by decide) ((setOff_valuePieces _).append (.fixed (by decide) .nil))
  exact .fixed (by decide) ((setOff_namePieces h).append
    (.fixed (by decide) (SetOff.joined (by decide) each)))

/-- What an upsert does about rows that collide. -/
theorem setOff_conflictPieces {conflict columns : List String}
    (h : ∀ name ∈ conflict, Silent name.toList) (h' : ∀ name ∈ columns, Silent name.toList) :
    SetOff true (conflictPieces conflict columns) := by
  have each : ∀ ps ∈ columns.map overwritePieces, SetOff false ps := by
    intro ps hps
    obtain ⟨name, hname, rfl⟩ := List.mem_map.1 hps
    exact .word (h' name hname) (.fixed (by decide) (.word (h' name hname) .nil))
  exact .fixed (by decide) ((setOff_namePieces h).append
    (.fixed (by decide) (SetOff.joined (by decide) each)))

/-- The columns that an update sets. -/
theorem setOff_assignments {values : Fields} (h : ∀ field ∈ values, Silent field.1.toList) :
    SetOff false (Piece.joined ", " (values.map assignmentPieces)) := by
  refine SetOff.joined (by decide) fun ps hps => ?_
  obtain ⟨field, hfield, rfl⟩ := List.mem_map.1 hps
  exact .word (h field hfield) (.fixed (by decide) (.value .nil))

/-! ### Operations -/

namespace Operation

/-- The pieces behind the table. -/
def behind (op : Operation) : List Piece :=
  op.pieces.drop (match op with
    | select _ => 4
    | _ => 2)

/-- The names that are looked through for a stray keyword: the column list of a query for rows, and
all names from the table on of an insert or an update. -/
def sought : Operation → List String
  | select s => [s.columns]
  | insert s => s.table :: (insert s).columnList :: rowColumns s.rows
  | upsert s => s.table :: (upsert s).columnList :: (rowColumns s.rows ++ s.conflictColumns)
  | update s =>
    s.table :: (update s).columnList :: (s.values.map Prod.fst ++ s.conditions.map Condition.column)
  | delete _ => []

/-- Whether the words from the table on are looked through. -/
def looksBehind : Operation → Bool
  | insert _ | upsert _ | update _ => true
  | select _ | delete _ => false

/-- If no word of the names of an insert or an update reads as a stray keyword, no word behind the
table does. -/
theorem silent_behind {op : Operation} (looks : op.looksBehind = true)
    (h : ∀ name ∈ op.sought, Silent name.toList) :
    Silent (Piece.write Binder.dollarMark 0 op.behind).toList := by
  suffices SetOff true op.behind from (this.silent_write 0).1
  cases op with
  | select s => cases looks
  | delete s => cases looks
  | insert s =>
    simp only [sought, List.forall_mem_cons] at h
    obtain ⟨-, list, columns⟩ := h
    have parts : (insert s).behind = (.verbatim " (" :: (namePieces (rowColumns s.rows)
        ++ .verbatim ") VALUES " :: Piece.joined ", " (s.rows.map (rowPieces (rowColumns s.rows)))))
        ++ (returningHead (insert s).columnList ++ [.verbatim (insert s).columnList]) := by
      simp [behind, pieces, front, back, insertPieces]
    rw [parts]
    exact (setOff_rows columns s.rows).append (setOff_returning list)
  | upsert s =>
    simp only [sought, List.forall_mem_cons, List.forall_mem_append] at h
    obtain ⟨-, list, columns, conflict⟩ := h
    have parts : (upsert s).behind = (.verbatim " (" :: (namePieces (rowColumns s.rows)
        ++ .verbatim ") VALUES " :: Piece.joined ", " (s.rows.map (rowPieces (rowColumns s.rows)))))
        ++ (conflictPieces s.conflictColumns (rowColumns s.rows)
          ++ (returningHead (upsert s).columnList ++ [.verbatim (upsert s).columnList])) := by
      simp [behind, pieces, front, back, insertPieces]
    rw [parts]
    exact (setOff_rows columns s.rows).append
      ((setOff_conflictPieces conflict columns).append (setOff_returning list))
  | update s =>
    simp only [sought, List.forall_mem_cons, List.forall_mem_append, List.forall_mem_map] at h
    obtain ⟨-, list, values, conditions⟩ := h
    have parts : (update s).behind = (.verbatim " SET " :: Piece.joined ", "
          (s.values.map assignmentPieces))
        ++ (wherePieces s.conditions
          ++ (returningHead (update s).columnList ++ [.verbatim (update s).columnList])) := by
      simp [behind, pieces, front, back]
    have set : SetOff true (.verbatim " SET " :: Piece.joined ", "
        (s.values.map assignmentPieces)) := .fixed (by decide) (setOff_assignments values)
    rw [parts]
    exact set.append ((setOff_wherePieces conditions).append (setOff_returning list))

end Operation

end QueryChain
