import QueryChain.Proofs.Engine.Keyword
import QueryChain.Proofs.Schema.Assignment

/-!
# Tables on spans

A span takes the verb of a statement to be its first word, and its table to be the word behind the
first `FROM`, else `INTO`, else `UPDATE`, of the words that are shown.  The verb is always right.
The table is right if its statement is shown beyond it and no other word reads as a keyword that is
looked for earlier: in the column list of a query for rows, and from the table on of an insert or an
update.  Where there is such a word, the one behind it is taken for the table; and where the
statement is cut at its table, or in it, dots end its name.

## Main definitions

* `Statement.follower?` — the word behind a keyword.
* `Operation.lead`, `Operation.leadWords` — a statement up to its table.
* `Operation.stray` — the word that is taken for a table although it is none.

## Main results

* `Operation.write_pieces_table`, `Operation.startsBlank_behind` — a statement around its table.
* `Operation.table?_leadWords` — what is found among the words of a statement.
* `Statement.clipped_of_whole`, `Statement.clipped_of_cut`, `Statement.clipped_of_front` — what is
  shown of a statement, by the place where it is cut.
* `NameRules.span_table` — the verb and the table on the span of a statement.
-/

set_option relaxedAutoImplicit false
set_option autoImplicit false

namespace QueryChain

/-! ### Keywords among words -/

namespace Statement

/-- The word behind the first occurrence of a keyword. -/
def follower? (keyword : String) (words : List String) : Option String :=
  (wordAfter? keyword words).join

variable {keyword word : String} {words : List String}

/-- Behind a keyword comes the next word. -/
theorem follower?_cons_of_eq (h : Text.upper word = keyword) :
    follower? keyword (word :: words) = words.head? := by
  rw [follower?, wordAfter?, List.dropWhile_cons_of_neg (by simp [h])]
  rfl

/-- Other words are passed over. -/
theorem follower?_cons_of_ne (h : Text.upper word ≠ keyword) :
    follower? keyword (word :: words) = follower? keyword words := by
  rw [follower?, wordAfter?, List.dropWhile_cons_of_pos (by simp [h])]
  rfl

/-- Up to an occurrence of the keyword only the words up to there count. -/
theorem follower?_append_cons (h : Text.upper word = keyword) (front words : List String) :
    follower? keyword (front ++ word :: words)
      = (follower? keyword (front ++ [word])).or words.head? := by
  induction front with
  | nil =>
    rw [List.nil_append, List.nil_append, follower?_cons_of_eq h, follower?_cons_of_eq h]
    rfl
  | cons first front ih =>
    by_cases found : Text.upper first = keyword
    · rw [List.cons_append, List.cons_append, follower?_cons_of_eq found,
        follower?_cons_of_eq found]
      cases front <;> rfl
    · rw [List.cons_append, List.cons_append, follower?_cons_of_ne found,
        follower?_cons_of_ne found, ih]

/-- Words that do not read as the keyword are passed over. -/
theorem follower?_append_of_forall {front : List String}
    (h : ∀ word ∈ front, Text.upper word ≠ keyword) (words : List String) :
    follower? keyword (front ++ words) = follower? keyword words := by
  induction front with
  | nil => rfl
  | cons first front ih =>
    obtain ⟨other, rest⟩ := List.forall_mem_cons.1 h
    rw [List.cons_append, follower?_cons_of_ne other, ih rest]

/-- Without the keyword no word is behind it. -/
theorem follower?_eq_none (h : ∀ word ∈ words, Text.upper word ≠ keyword) :
    follower? keyword words = none := by
  have passed := follower?_append_of_forall h []
  rwa [List.append_nil] at passed

/-- The word behind a keyword is one of the words. -/
theorem mem_of_follower? (h : follower? keyword words = some word) : word ∈ words := by
  induction words with
  | nil => cases h
  | cons first words ih =>
    by_cases found : Text.upper first = keyword
    · rw [follower?_cons_of_eq found] at h
      exact List.mem_cons_of_mem first (List.mem_of_head? h)
    · rw [follower?_cons_of_ne found] at h
      exact List.mem_cons_of_mem first (ih h)

/-- The keywords are tried in their order. -/
theorem table?_eq (words : List String) :
    table? words = (follower? "FROM" words).or
      ((follower? "INTO" words).or (follower? "UPDATE" words)) := by
  simp only [table?, tableKeywords, List.findSome?_cons, List.findSome?_nil, follower?]
  cases (wordAfter? "FROM" words).join with
  | some _ => rfl
  | none =>
    cases (wordAfter? "INTO" words).join with
    | some _ => rfl
    | none => cases (wordAfter? "UPDATE" words).join <;> rfl

/-- What is found is one of the words. -/
theorem mem_of_table? (h : table? words = some word) : word ∈ words := by
  rw [table?_eq, Option.or_eq_some_iff, Option.or_eq_some_iff] at h
  rcases h with found | ⟨-, found | ⟨-, found⟩⟩ <;> exact mem_of_follower? found

/-- The verb on a span is the first word shown. -/
theorem get?_operation (system sql : String) (n : Nat) :
    (attributes system sql n).get? "db.operation" = some (.text (verb (shownWords sql))) := rfl

/-- The table on a span is what is found among the words shown. -/
theorem get?_table (system sql : String) (n : Nat) :
    (attributes system sql n).get? "db.sql.table" = (table? (shownWords sql)).map .text := by
  cases found : table? (shownWords sql) with
  | none =>
    simp only [attributes, found]
    rfl
  | some name =>
    have given : name ≠ "" := by
      rintro rfl
      obtain ⟨word, mem, empty⟩ := List.mem_map.1 (mem_of_table? found)
      rw [String.ofList_eq_empty_iff.1 empty] at mem
      exact Text.nil_notMem_wordsOf _ mem
    simp only [attributes, found, if_neg given]
    rfl

end Statement

/-! ### Statements around their tables -/

namespace Operation

/-- The verb of a statement. -/
def verb : Operation → String
  | select _ => "SELECT"
  | insert _ | upsert _ => "INSERT"
  | update _ => "UPDATE"
  | delete _ => "DELETE"

/-- The text in front of the table. -/
def lead : Operation → String
  | select s => "SELECT " ++ s.columns ++ " FROM "
  | insert _ | upsert _ => "INSERT INTO "
  | update _ => "UPDATE "
  | delete _ => "DELETE FROM "

/-- The words in front of the table. -/
def leadWords : Operation → List String
  | select s => "SELECT" :: Text.words s.columns ++ ["FROM"]
  | insert _ | upsert _ => ["INSERT", "INTO"]
  | update _ => ["UPDATE"]
  | delete _ => ["DELETE", "FROM"]

/-- A statement is the text in front of its table, the table, and the text behind it. -/
theorem write_pieces_table (mark : Nat → String) (op : Operation) :
    Piece.write mark 0 op.pieces = op.lead ++ op.table ++ Piece.write mark 0 op.behind := by
  cases op <;> simp [pieces, front, back, behind, lead, table, columnList, insertPieces,
    Piece.write, String.append_assoc]

section StartsBlank

variable {mark : Nat → String} {k : Nat}

/-- A clause begins with a blank. -/
theorem startsBlank_verbatim {s : String} (ps : List Piece) (h : s.toList.head? = some ' ') :
    Text.StartsBlank (Piece.write mark k (.verbatim s :: ps)).toList := by
  rw [Piece.write, String.toList_append, Text.StartsBlank, List.head?_append, h]
  intro c hc
  cases hc
  decide

theorem startsBlank_nil : Text.StartsBlank (Piece.write mark k []).toList := by
  simp [Text.StartsBlank, Piece.write]

theorem startsBlank_append {ps qs : List Piece}
    (first : Text.StartsBlank (Piece.write mark k ps).toList)
    (second : ∀ j, Text.StartsBlank (Piece.write mark j qs).toList) :
    Text.StartsBlank (Piece.write mark k (ps ++ qs)).toList := by
  rw [Piece.write_append, String.toList_append]
  exact first.append (second _)

theorem startsBlank_where (conditions : List Condition) :
    Text.StartsBlank (Piece.write mark k (wherePieces conditions)).toList := by
  unfold wherePieces
  split
  · exact startsBlank_nil
  · exact startsBlank_verbatim _ rfl

theorem startsBlank_order (order : Option OrderBy) :
    Text.StartsBlank (Piece.write mark k (orderPieces order)).toList := by
  cases order with
  | none => exact startsBlank_nil
  | some order => exact startsBlank_verbatim _ rfl

theorem startsBlank_limit (limit : Option Nat) :
    Text.StartsBlank (Piece.write mark k (limitPieces limit)).toList := by
  cases limit with
  | none => exact startsBlank_nil
  | some n => exact startsBlank_verbatim _ rfl

theorem startsBlank_returning (columns : String) : Text.StartsBlank
    (Piece.write mark k (returningHead columns ++ [.verbatim columns])).toList := by
  unfold returningHead
  split
  · rename_i empty
    rw [empty]
    simp [Text.StartsBlank, Piece.write]
  · exact startsBlank_verbatim _ rfl

end StartsBlank

/-- What stands behind the table is set off from it. -/
theorem startsBlank_behind (mark : Nat → String) (op : Operation) :
    Text.StartsBlank (Piece.write mark 0 op.behind).toList := by
  cases op with
  | select s =>
    exact startsBlank_append
      (startsBlank_append (startsBlank_where s.conditions) fun _ => startsBlank_order s.orderBy)
      fun _ => startsBlank_limit s.limit
  | insert s => exact startsBlank_verbatim _ rfl
  | upsert s => exact startsBlank_verbatim _ rfl
  | update s => exact startsBlank_verbatim _ rfl
  | delete s =>
    have behind : (delete s).behind = wherePieces s.conditions
        ++ (returningHead (delete s).columnList ++ [.verbatim (delete s).columnList]) := by
      simp [Operation.behind, pieces, front, back]
    rw [behind]
    exact startsBlank_append (startsBlank_where s.conditions) fun _ => startsBlank_returning _

/-- The words in front of the table, and those from the table on. -/
theorem words_lead (op : Operation) (shown : List Char) :
    (Text.wordsOf (op.lead.toList ++ shown)).map String.ofList
      = op.leadWords ++ (Text.wordsOf shown).map String.ofList := by
  have front (text lead : String) (words : List String)
      (spelling : lead.toList = text.toList ++ [' ']) (read : Text.words text = words)
      (cs : List Char) :
      (Text.wordsOf (lead.toList ++ cs)).map String.ofList
        = words ++ (Text.wordsOf cs).map String.ofList := by
    rw [spelling, List.append_assoc, List.singleton_append,
      Text.wordsOf_append_blank (by decide), List.map_append, ← read, Text.words]
  have inserting := front "INSERT INTO" "INSERT INTO " ["INSERT", "INTO"] (by decide) (by decide)
  cases op with
  | select s =>
    have parts : (select s).lead.toList ++ shown
        = "SELECT ".toList ++ ((s.columns ++ " ").toList ++ ("FROM ".toList ++ shown)) := by
      simp [lead]
    have columns : (s.columns ++ " ").toList = s.columns.toList ++ [' '] := by simp
    rw [parts, front "SELECT" "SELECT " ["SELECT"] (by decide) (by decide),
      front s.columns _ _ columns rfl, front "FROM" "FROM " ["FROM"] (by decide) (by decide)]
    simp [leadWords]
  | insert s => exact inserting shown
  | upsert s => exact inserting shown
  | update s => exact front "UPDATE" "UPDATE " ["UPDATE"] (by decide) (by decide) shown
  | delete s =>
    exact front "DELETE FROM" "DELETE FROM " ["DELETE", "FROM"] (by decide) (by decide) shown

/-- The word that is taken for a table although it is none: the word behind a keyword that is no
keyword of the statement.  A query for rows is searched in front of its table, an insert and an
update from their table on, the latter for a second keyword too, and a deletion never goes wrong. -/
def stray (op : Operation) (shown : List String) : Option String :=
  match op with
  | select s => Statement.follower? "FROM" (Text.words s.columns ++ ["FROM"])
  | insert _ | upsert _ => Statement.follower? "FROM" shown
  | update _ => (Statement.follower? "FROM" shown).or (Statement.follower? "INTO" shown)
  | delete _ => none

/-- What is found is the word behind a stray keyword, and the table if there is no such word. -/
theorem table?_leadWords (op : Operation) (name : String) (words : List String) :
    Statement.table? (op.leadWords ++ name :: words)
      = some ((op.stray (name :: words)).getD name) := by
  have other {keyword word : String} (words : List String) (h : Text.upper word ≠ keyword) :
      Statement.follower? keyword (word :: words) = Statement.follower? keyword words :=
    Statement.follower?_cons_of_ne h
  have here {keyword : String} (h : Text.upper keyword = keyword) :
      Statement.follower? keyword (keyword :: name :: words) = some name :=
    Statement.follower?_cons_of_eq h
  have inserting : (Statement.follower? "FROM" ("INSERT" :: "INTO" :: name :: words)).or
      ((Statement.follower? "INTO" ("INSERT" :: "INTO" :: name :: words)).or
        (Statement.follower? "UPDATE" ("INSERT" :: "INTO" :: name :: words)))
      = some ((Statement.follower? "FROM" (name :: words)).getD name) := by
    have searched : Statement.follower? "FROM" ("INSERT" :: "INTO" :: name :: words)
        = Statement.follower? "FROM" (name :: words) :=
      (other _ (by decide)).trans (other _ (by decide))
    have found : Statement.follower? "INTO" ("INSERT" :: "INTO" :: name :: words) = some name :=
      (other _ (by decide)).trans (here (by decide))
    rw [searched, found]
    cases Statement.follower? "FROM" (name :: words) <;> rfl
  rw [Statement.table?_eq]
  cases op with
  | select s =>
    have searched : Statement.follower? "FROM" ((select s).leadWords ++ name :: words)
        = ((select s).stray (name :: words)).or (some name) := by
      rw [leadWords, List.cons_append, List.cons_append, List.append_assoc, List.singleton_append,
        other _ (by decide), Statement.follower?_append_cons (by decide)]
      rfl
    rw [searched]
    cases (select s).stray (name :: words) <;> rfl
  | insert s => exact inserting
  | upsert s => exact inserting
  | update s =>
    have searched (keyword : String) (h : Text.upper "UPDATE" ≠ keyword) :
        Statement.follower? keyword ((update s).leadWords ++ name :: words)
          = Statement.follower? keyword (name :: words) := other _ h
    have found : Statement.follower? "UPDATE" ((update s).leadWords ++ name :: words) = some name :=
      here (by decide)
    rw [searched "FROM" (by decide), searched "INTO" (by decide), found, stray]
    cases Statement.follower? "FROM" (name :: words) with
    | some _ => rfl
    | none => cases Statement.follower? "INTO" (name :: words) <;> rfl
  | delete s =>
    have found : Statement.follower? "FROM" ((delete s).leadWords ++ name :: words) = some name :=
      (other _ (by decide)).trans (here (by decide))
    rw [found]
    rfl

/-- Where the words from the table on are looked through, the table is. -/
theorem table_mem_sought {op : Operation} (looks : op.looksBehind = true) :
    op.table ∈ op.sought := by
  cases op with
  | select s => cases looks
  | delete s => cases looks
  | insert s => exact List.mem_cons_self
  | upsert s => exact List.mem_cons_self
  | update s => exact List.mem_cons_self

/-- Without a stray keyword there is no stray word. -/
theorem stray_eq_none {op : Operation} {shown : List String}
    (h : ∀ name ∈ op.sought, Text.Silent name.toList)
    (words : op.looksBehind = true → ∀ word ∈ shown, Text.upper word ∉ Text.strayKeywords) :
    op.stray shown = none := by
  have none {keyword : String} (stray : keyword ∈ Text.strayKeywords)
      (looks : op.looksBehind = true) : Statement.follower? keyword shown = none :=
    Statement.follower?_eq_none fun word mem same => words looks word mem (same ▸ stray)
  cases op with
  | select s =>
    have columns : ∀ word ∈ Text.words s.columns, Text.upper word ≠ "FROM" := by
      intro word mem same
      obtain ⟨letters, hletters, rfl⟩ := List.mem_map.1 mem
      exact h s.columns List.mem_cons_self letters hletters (by rw [same]; decide)
    exact Statement.follower?_append_of_forall columns ["FROM"]
  | insert s => exact none (by decide) rfl
  | upsert s => exact none (by decide) rfl
  | update s =>
    rw [stray, none (by decide) rfl, none (by decide) rfl]
    rfl
  | delete s => rfl

end Operation

/-! ### What is shown of a statement -/

namespace Statement

variable {sql : String} {front name back : List Char}

/-- A statement is stripped behind its table only. -/
theorem stripChars_eq (spelling : sql.toList = front ++ (name ++ back))
    (first : ∃ c rest, front = c :: rest ∧ Text.isBlank c = false) (named : name ≠ [])
    (unbroken : ∀ c ∈ name, Text.isBlank c = false) :
    Text.stripChars sql.toList = front ++ (name ++ back.rdropWhile Text.isBlank) := by
  obtain ⟨c, rest, rfl, first⟩ := first
  have last : ((c :: rest) ++ name).getLast (by simp) = name.getLast named :=
    List.getLast_append_of_ne_nil _ named
  have whole : Text.trimBoth Text.isBlank ((c :: rest) ++ name ++ back)
      = (c :: rest) ++ name ++ back.rdropWhile Text.isBlank :=
    Text.trimBoth_append (by simp) first (last ▸ unbroken _ (List.getLast_mem named)) back
  rw [Text.stripChars, spelling, ← List.append_assoc, whole, List.append_assoc]

/-- A statement that is too long is cut and ends in dots. -/
theorem clipped_of_long (stripped : Text.stripChars sql.toList = front ++ (name ++ back))
    (long : maxLength < (Text.stripChars sql.toList).length) :
    clipped sql = front.take (maxLength - 3) ++ (name.take (maxLength - 3 - front.length)
      ++ (back.take (maxLength - 3 - front.length - name.length) ++ dots)) := by
  rw [clipped, if_pos long, stripped, List.take_append, List.take_append, List.append_assoc,
    List.append_assoc]
  rfl

/-- A statement that is not cut, or cut behind its table, is shown with the table set off. -/
theorem clipped_of_whole (stripped : Text.stripChars sql.toList = front ++ (name ++ back))
    (off : Text.StartsBlank back)
    (whole : (Text.stripChars sql.toList).length ≤ maxLength
      ∨ front.length + name.length < maxLength - 3) :
    ∃ shown, Text.StartsBlank shown ∧ (Text.Silent back → Text.Silent shown)
      ∧ clipped sql = front ++ (name ++ shown) := by
  by_cases long : maxLength < (Text.stripChars sql.toList).length
  · have fits := whole.resolve_left (by omega)
    have size := congrArg List.length stripped
    simp only [List.length_append] at size
    have room : 0 < maxLength - 3 - front.length - name.length := by omega
    refine ⟨back.take (maxLength - 3 - front.length - name.length) ++ dots, ?_,
      fun silent => silent.take_append_dots _, ?_⟩
    · cases back with
      | nil =>
        simp only [List.length_nil] at size
        omega
      | cons b back =>
        intro c hc
        rw [List.take_cons room] at hc
        exact off c hc
    · rw [clipped_of_long stripped long, List.take_of_length_le (by omega),
        List.take_of_length_le (by omega)]
  · exact ⟨back, off, id, by rw [clipped, if_neg long, stripped]⟩

/-- A statement that is cut inside its table, or right at its ends, ends in dots there. -/
theorem clipped_of_cut (stripped : Text.stripChars sql.toList = front ++ (name ++ back))
    (long : maxLength < (Text.stripChars sql.toList).length)
    (reached : front.length ≤ maxLength - 3)
    (cut : maxLength - 3 ≤ front.length + name.length) :
    clipped sql = front ++ (name.take (maxLength - 3 - front.length) ++ dots) := by
  have nothing : maxLength - 3 - front.length - name.length = 0 := by omega
  rw [clipped_of_long stripped long, List.take_of_length_le reached, nothing, List.take_zero,
    List.nil_append]

/-- A statement that is cut in front of its table. -/
theorem clipped_of_front (stripped : Text.stripChars sql.toList = front ++ (name ++ back))
    (long : maxLength < (Text.stripChars sql.toList).length)
    (unreached : maxLength - 3 < front.length) :
    clipped sql = front.take (maxLength - 3) ++ dots := by
  have nothing : maxLength - 3 - front.length = 0 := by omega
  rw [clipped_of_long stripped long, nothing, Nat.zero_sub, List.take_zero, List.take_zero,
    List.nil_append, List.nil_append]

end Statement

namespace Operation

/-- A verb is a word of six capitals. -/
theorem verb_word (op : Operation) : op.verb.toList.length = 6
    ∧ (∀ c ∈ op.verb.toList, Text.isBlank c = false) ∧ Text.upper op.verb = op.verb := by
  have each : ∀ verb ∈ ["SELECT", "INSERT", "UPDATE", "DELETE"], verb.toList.length = 6
      ∧ verb.toList.any Text.isBlank = false ∧ Text.upper verb = verb := by decide
  have known : op.verb ∈ ["SELECT", "INSERT", "UPDATE", "DELETE"] := by cases op <;> simp [verb]
  obtain ⟨size, unbroken, capitals⟩ := each op.verb known
  exact ⟨size, fun c hc => by simpa using List.any_eq_false.1 unbroken c hc, capitals⟩

/-- A statement begins with its verb. -/
theorem exists_lead_eq (op : Operation) :
    ∃ rest, op.lead.toList = op.verb.toList ++ ' ' :: rest := by
  cases op with
  | select s => exact ⟨(s.columns ++ " FROM ").toList, by simp [lead, verb]⟩
  | insert s => exact ⟨"INTO ".toList, by simp [lead, verb]⟩
  | upsert s => exact ⟨"INTO ".toList, by simp [lead, verb]⟩
  | update s => exact ⟨[], by simp [lead, verb]⟩
  | delete s => exact ⟨"FROM ".toList, by simp [lead, verb]⟩

/-- Only a column list stands in front of a table at any length. -/
theorem exists_select_of_lead {op : Operation} (long : 12 < op.lead.length) :
    ∃ s, op = .select s := by
  cases op with
  | select s => exact ⟨s, rfl⟩
  | insert s => exact absurd long (by decide : ¬ 12 < "INSERT INTO ".length)
  | upsert s => exact absurd long (by decide : ¬ 12 < "INSERT INTO ".length)
  | update s => exact absurd long (by decide : ¬ 12 < "UPDATE ".length)
  | delete s => exact absurd long (by decide : ¬ 12 < "DELETE FROM ".length)

/-- A compiled statement, stripped, is the text in front of its table, the table, and a text that is
set off from it. -/
theorem stripChars_compile {rules : NameRules} {op : Operation} {c : Compiled}
    (h : rules.compile op = .ok c) (given : op.table ≠ "")
    (unbroken : ∀ ch ∈ op.table.toList, Text.isBlank ch = false) :
    ∃ back, Text.StartsBlank back
      ∧ (Text.Silent (Piece.write Binder.dollarMark 0 op.behind).toList → Text.Silent back)
      ∧ Text.stripChars c.sql.toList = op.lead.toList ++ (op.table.toList ++ back) := by
  obtain ⟨-, rfl⟩ := NameRules.compile_eq_ok_iff.1 h
  have spelling : op.compiled.sql.toList = op.lead.toList ++ (op.table.toList
      ++ (Piece.write Binder.dollarMark 0 op.behind).toList) := by
    rw [compiled, write_pieces_table, String.toList_append, String.toList_append, List.append_assoc]
  have first : ∃ ch rest, op.lead.toList = ch :: rest ∧ Text.isBlank ch = false := by
    obtain ⟨six, letters, -⟩ := op.verb_word
    obtain ⟨ch, more, spelled⟩ := List.exists_cons_of_length_eq_add_one six
    obtain ⟨rest, leads⟩ := op.exists_lead_eq
    exact ⟨ch, more ++ ' ' :: rest, by rw [leads, spelled, List.cons_append],
      letters ch (spelled ▸ List.mem_cons_self)⟩
  have named : op.table.toList ≠ [] := by simpa using given
  refine ⟨_, (startsBlank_behind _ op).of_front (List.rdropWhile_prefix _ _), fun silent => ?_,
    Statement.stripChars_eq spelling first named unbroken⟩
  rw [← List.rdropWhile_append_rtakeWhile (p := Text.isBlank)
    (l := (Piece.write Binder.dollarMark 0 op.behind).toList)] at silent
  exact silent.of_append fun ch hch => List.mem_rtakeWhile_imp (List.mem_of_head? hch)

/-- The first word of a statement is its verb. -/
theorem verb_shown {op : Operation} {sql : String} {shown : List Char}
    (h : Statement.clipped sql = op.verb.toList ++ ' ' :: shown) :
    Statement.verb (Statement.shownWords sql) = op.verb := by
  obtain ⟨six, letters, capitals⟩ := op.verb_word
  rw [Statement.shownWords, h, Text.wordsOf_append_blank (by decide),
    Text.wordsOf_of_forall letters (List.ne_nil_of_length_eq_add_one six)]
  simp [Statement.verb, capitals]

end Operation

section Span

variable {rules : NameRules} {op : Operation} {c : Compiled}

/-- The verb on the span of a statement is that of its operation. -/
theorem NameRules.span_verb (h : rules.compile op = .ok c) (given : op.table ≠ "")
    (unbroken : ∀ ch ∈ op.table.toList, Text.isBlank ch = false) :
    Statement.verb (Statement.shownWords c.sql) = op.verb := by
  obtain ⟨back, -, -, stripped⟩ := Operation.stripChars_compile h given unbroken
  obtain ⟨rest, leads⟩ := op.exists_lead_eq
  rw [leads, List.append_assoc, List.cons_append] at stripped
  obtain ⟨six, -⟩ := op.verb_word
  by_cases long : Statement.maxLength < (Text.stripChars c.sql.toList).length
  · have cut : Statement.clipped c.sql
        = (op.verb.toList ++ ' ' :: (rest ++ (op.table.toList ++ back))).take
          (Statement.maxLength - 3) ++ Statement.dots := by
      rw [Statement.clipped, if_pos long, stripped]
      rfl
    have room : Statement.maxLength - 3 - 6 = 4086 + 1 := rfl
    rw [List.take_append, six, List.take_of_length_le (six ▸ by decide), room, List.take_succ_cons,
      List.append_assoc, List.cons_append] at cut
    exact Operation.verb_shown cut
  · have whole : Statement.clipped c.sql = Text.stripChars c.sql.toList := if_neg long
    exact Operation.verb_shown (whole.trans stripped)

/-- What is shown from the table on, if so much of a statement is shown. -/
theorem Operation.drop_lead {sql : String} {shown : List Char}
    (h : Statement.clipped sql = op.lead.toList ++ shown) :
    (Statement.clipped sql).drop op.lead.length = shown := by
  rw [h, ← String.length_toList, List.drop_left]

/-- The table on a span is what is found from the table on, or in front of it. -/
theorem Operation.get?_table_of_lead {sql name : String} {shown : List Char} {words : List String}
    (h : Statement.clipped sql = op.lead.toList ++ shown)
    (named : (Text.wordsOf shown).map String.ofList = name :: words) (system : String) (n : Nat) :
    (Statement.attributes system sql n).get? "db.sql.table"
      = some (.text ((op.stray (name :: words)).getD name)) := by
  rw [Statement.get?_table, Statement.shownWords, h, words_lead, named, table?_leadWords]
  rfl

/-- **The verb and the table on the span of a statement**, for any operation that compiles and whose
table was read, as it is when an operation is made or assigned to, and has no blanks.

* The verb is that of the operation.
* If the statement is shown beyond its table, the words shown from there on begin with the table.
  The table on the span is the word behind a stray keyword, or else the right one; and there is no
  stray keyword unless a word of one of the names that are looked through reads as `FROM` or `INTO`.
* If the statement is cut at its table or in it, the name on the span ends in dots, unless a stray
  keyword stands in the column list.
* If the statement, a query for rows, is cut in front of its table, the name on the span is the word
  behind any keyword in what is shown, and there is none without a keyword. -/
theorem NameRules.span_table (h : rules.compile op = .ok c) (tabled : op.Tabled)
    (unbroken : ∀ ch ∈ op.table.toList, Text.isBlank ch = false) (system : String) (n : Nat) :
    let span := Statement.attributes system c.sql n
    let length := (Text.stripChars c.sql.toList).length
    let limit := Statement.maxLength - 3
    let shown := (Text.wordsOf ((Statement.clipped c.sql).drop op.lead.length)).map String.ofList
    span.get? "db.operation" = some (.text op.verb)
    ∧ (length ≤ Statement.maxLength ∨ op.lead.length + op.table.length < limit →
        shown.head? = some op.table
          ∧ span.get? "db.sql.table" = some (.text ((op.stray shown).getD op.table))
          ∧ ((∀ name ∈ op.sought, Text.Silent name.toList) → op.stray shown = none))
    ∧ (Statement.maxLength < length → op.lead.length ≤ limit →
        limit ≤ op.lead.length + op.table.length →
        let cut := String.ofList
          (op.table.toList.take (limit - op.lead.length) ++ Statement.dots)
        span.get? "db.sql.table" = some (.text ((op.stray [cut]).getD cut)))
    ∧ (Statement.maxLength < length → limit < op.lead.length →
        (∃ s, op = .select s) ∧ span.get? "db.sql.table" = (Statement.table? ((Text.wordsOf
          (op.lead.toList.take limit ++ Statement.dots)).map String.ofList)).map .text) := by
  intro span length limit shown
  have given := tabled.ne_empty
  obtain ⟨back, off, silent, stripped⟩ := Operation.stripChars_compile h given unbroken
  have named : op.table.toList ≠ [] := by simpa using given
  refine ⟨?_, fun whole => ?_, fun long reached cut => ?_, fun long unreached => ⟨?_, ?_⟩⟩
  · rw [Statement.get?_operation, span_verb h given unbroken]
  · obtain ⟨rest, apart, silent', clipped⟩ := Statement.clipped_of_whole stripped off
      (by simpa only [String.length_toList] using whole)
    have words : (Text.wordsOf (op.table.toList ++ rest)).map String.ofList
        = op.table :: (Text.wordsOf rest).map String.ofList := by
      rw [apart.wordsOf_append, Text.wordsOf_of_forall unbroken named, List.singleton_append,
        List.map_cons, String.ofList_toList]
    have all : shown = op.table :: (Text.wordsOf rest).map String.ofList := by
      rw [← words]
      simp only [shown, Operation.drop_lead clipped]
    rw [all]
    refine ⟨rfl, Operation.get?_table_of_lead clipped words system n, fun names => ?_⟩
    refine Operation.stray_eq_none names fun looks word mem => ?_
    rcases List.mem_cons.1 mem with rfl | later
    · have alone := names op.table (Operation.table_mem_sought looks) op.table.toList
      rw [Text.wordsOf_of_forall unbroken named, String.ofList_toList] at alone
      exact alone (List.mem_singleton.2 rfl)
    · obtain ⟨letters, hletters, rfl⟩ := List.mem_map.1 later
      exact silent' (silent (Operation.silent_behind looks names)) letters hletters
  · have clipped := Statement.clipped_of_cut stripped long
      (by simpa only [String.length_toList] using reached)
      (by simpa only [String.length_toList] using cut)
    refine Operation.get?_table_of_lead clipped ?_ system n
    have word : ∀ ch ∈ op.table.toList.take (limit - op.lead.length) ++ Statement.dots,
        Text.isBlank ch = false := by
      intro ch hch
      rcases List.mem_append.1 hch with inside | behind
      · exact unbroken ch (List.mem_of_mem_take inside)
      · exact Statement.not_isBlank_of_mem_dots behind
    rw [String.length_toList, Text.wordsOf_of_forall word (by simp [Statement.dots])]
    rfl
  · refine Operation.exists_select_of_lead (lt_of_le_of_lt ?_ unreached)
    decide
  · rw [Statement.get?_table, Statement.shownWords, Statement.clipped_of_front stripped long
      (by simpa only [String.length_toList] using unreached)]

/-- An update whose names read as no keyword: the span names its table. -/
theorem NameRules.span_table_update :
    let op := Operation.update ⟨"users", [("name", .text "x")], [⟨"id", .eq, .int 2⟩], none⟩
    op.Reached ∧ ∃ c, (⟨63, "id"⟩ : NameRules).compile op = .ok c
      ∧ (Statement.attributes "sqlite" c.sql 2).get? "db.operation" = some (.text "UPDATE")
      ∧ (Statement.attributes "sqlite" c.sql 2).get? "db.sql.table" = some (.text "users") := by
  intro op
  have compiled : (⟨63, "id"⟩ : NameRules).compile op
      = .ok ⟨"UPDATE users SET name = $1 WHERE id = $2", [.text "x", .int 2]⟩ := by rfl
  have unbroken : "users".toList.any Text.isBlank = false := by decide
  have read : Operation.ofFields .update [("table", .text "users"),
      ("values", .map [(.text "name", .text "x")]), ("conditions", .list [.map
        [(.text "column", .text "id"), (.text "operator", .text "="), (.text "value", .int 2)]]),
      ("returning", .null)] = .ok op := by rfl
  have reached : op.Reached := .read read
  obtain ⟨verb, whole, -⟩ := span_table compiled (Operation.tabled_of_reached reached)
    (fun ch hch => by simpa using List.any_eq_false.1 unbroken ch hch) "sqlite" 2
  obtain ⟨-, table, right⟩ := whole (.inl (by decide))
  refine ⟨reached, _, compiled, verb, ?_⟩
  rw [table, right (by decide)]
  rfl

/-- An update of a column whose name reads as a keyword: the span names the sign behind it. -/
theorem NameRules.span_table_from :
    let op := Operation.update ⟨"users", [("from", .int 1)], [⟨"id", .eq, .int 2⟩], some "*"⟩
    ∃ c, (⟨63, "id"⟩ : NameRules).compile op = .ok c
      ∧ (Statement.attributes "sqlite" c.sql 2).get? "db.sql.table" = some (.text "=")
      ∧ (Statement.attributes "sqlite" c.sql 2).get? "db.sql.table" ≠ some (.text op.table)
      ∧ (Statement.attributes "sqlite" c.sql 2).get? "db.sql.table" ≠ none := by
  intro op
  have compiled : (⟨63, "id"⟩ : NameRules).compile op
      = .ok ⟨"UPDATE users SET from = $1 WHERE id = $2 RETURNING *", [.int 1, .int 2]⟩ := by rfl
  have named : (Statement.attributes "sqlite"
      "UPDATE users SET from = $1 WHERE id = $2 RETURNING *" 2).get? "db.sql.table"
        = some (.text "=") := by rfl
  refine ⟨_, compiled, named, fun same => ?_, fun missing => ?_⟩
  · rw [named] at same
    exact absurd (Value.text.inj (Option.some.inj same)) (by decide)
  · rw [named] at missing
    cases missing

end Span

end QueryChain
