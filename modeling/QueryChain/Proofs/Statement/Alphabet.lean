import QueryChain.Proofs.Chain.Record
import QueryChain.Proofs.Statement.Verbatim

/-!
# The characters of compiled statements

Whatever texts an operation carries, a compiled statement is written in a small alphabet, a dollar
sign in it always starts a placeholder, and no comment starts in it.  Only the table is taken as it
is, so that it has to keep to the alphabet by itself.

## Main definitions

* `isSafeChar`, `isTableChar` — the alphabet of statements, and the part of it for tables.
* `Contained` — a text in the alphabet whose dollar signs are placeholders, without comments.

## Main results

* `Name.hasDashPair_iff` — the check of column lists finds every place where a comment may start.
* `Piece.numbered_write` — every dollar sign of a written text is followed by a digit.
* `NameRules.contained_compile` — operations and chains compile to contained statements.
-/

set_option relaxedAutoImplicit false
set_option autoImplicit false

namespace QueryChain

/-- The alphabet of statements: ASCII letters and digits, blanks, and a few signs. -/
def isSafeChar (c : Char) : Bool :=
  c.isAlphanum || "_.*,():!-=<>$".toList.contains c || Text.isBlank c

/-- The characters that a table may have without being checked: ASCII letters and digits, the
underscore and the point. -/
def isTableChar (c : Char) : Bool := c.isAlphanum || c == '_' || c == '.'

/-- Every dollar sign of a text is directly followed by an ASCII digit. -/
def DollarsNumbered (cs : List Char) : Prop :=
  ∀ before after, cs = before ++ '$' :: after → ∃ d rest, after = d :: rest ∧ d.isDigit = true

/-- A text from which a reader of statements learns about placeholders, names and clauses only. -/
structure Contained (sql : String) : Prop where
  /-- Every character belongs to the alphabet. -/
  safe : ∀ c ∈ sql.toList, isSafeChar c = true
  /-- Every dollar sign starts a placeholder. -/
  numbered : DollarsNumbered sql.toList
  /-- No two dashes stand together, across fragments either. -/
  uncommented : ¬ ['-', '-'] <:+: sql.toList

/-- Signs with a meaning of their own for readers of statements: quotes, the semicolon, the slash,
the backslash, the percent sign, the question mark and the number sign. -/
def foreignSigns : List Char := "'\"\x60;/\\%?#".toList

/-- No contained text has a foreign sign. -/
theorem Contained.notMem {sql : String} (h : Contained sql) :
    ∀ c ∈ foreignSigns, c ∉ sql.toList := by
  have foreign : foreignSigns.all (fun c => !isSafeChar c) = true := by decide
  intro c hc mem
  have other := List.all_eq_true.1 foreign c hc
  rw [h.safe c mem] at other
  cases other

/-! ### Dashes -/

namespace Name

/-- Two dashes start a list or stand in the rest of it. -/
theorem hasDashPair_cons (c : Char) (cs : List Char) :
    hasDashPair (c :: cs) = (c == '-' && cs.head? == some '-' || hasDashPair cs) := by
  by_cases hc : c = '-'
  · subst hc
    cases cs with
    | nil => rfl
    | cons d rest =>
      by_cases hd : d = '-'
      · subst hd
        rfl
      · rw [hasDashPair]
        · simp [hd]
        · intro tail _ same
          exact hd (List.cons.inj same).1
  · rw [hasDashPair]
    · simp [hc]
    · intro tail same
      exact absurd same hc

/-- The check of column lists finds two dashes wherever they stand together. -/
theorem hasDashPair_iff {cs : List Char} : hasDashPair cs = true ↔ ['-', '-'] <:+: cs := by
  induction cs with
  | nil =>
    refine iff_of_false (by decide) fun h => ?_
    cases List.infix_nil.1 h
  | cons c cs ih =>
    have first : (c == '-' && cs.head? == some '-') = true ↔ ['-', '-'] <+: c :: cs := by
      cases cs with
      | nil =>
        refine iff_of_false (fun h => ?_) fun h => absurd h.length_le (by simp)
        rw [Bool.and_eq_true] at h
        cases h.2
      | cons d rest =>
        rw [List.cons_prefix_cons, List.cons_prefix_cons, Bool.and_eq_true, beq_iff_eq,
          List.head?_cons, beq_iff_eq, Option.some.injEq]
        constructor
        · rintro ⟨rfl, rfl⟩
          exact ⟨rfl, rfl, List.nil_prefix⟩
        · rintro ⟨rfl, rfl, -⟩
          exact ⟨rfl, rfl⟩
    rw [hasDashPair_cons, Bool.or_eq_true, first, ih, List.infix_cons_iff]

/-- Text without dashes in front of another has no part in two dashes. -/
theorem hasDashPair_append_of_left {xs : List Char} (h : '-' ∉ xs) (ys : List Char) :
    hasDashPair (xs ++ ys) = hasDashPair ys := by
  induction xs with
  | nil => rfl
  | cons c xs ih =>
    rw [List.mem_cons, not_or] at h
    have hc : (c == '-') = false := by simpa using Ne.symm h.1
    rw [List.cons_append, hasDashPair_cons, hc, Bool.false_and, Bool.false_or, ih h.2]

/-- Text without dashes behind another has no part in two dashes. -/
theorem hasDashPair_append_of_right (xs : List Char) {ys : List Char} (h : '-' ∉ ys) :
    hasDashPair (xs ++ ys) = hasDashPair xs := by
  have alone : hasDashPair ys = false := by
    rw [← List.append_nil ys, hasDashPair_append_of_left h]
    rfl
  have first : (ys.head? == some '-') = false := by
    cases ys with
    | nil => rfl
    | cons d rest => simpa using Ne.symm (List.ne_of_not_mem_cons h)
  induction xs with
  | nil => exact alone
  | cons c xs ih =>
    rw [List.cons_append, hasDashPair_cons, hasDashPair_cons, ih]
    cases xs with
    | nil => simp [first]
    | cons d rest => rfl

end Name

/-! ### Dollar signs -/

/-- Text without dollar signs. -/
theorem DollarsNumbered.of_notMem {cs : List Char} (h : '$' ∉ cs) : DollarsNumbered cs := by
  intro before after e
  refine absurd ?_ h
  rw [e]
  simp

/-- Two texts one after the other. -/
theorem DollarsNumbered.append {xs ys : List Char} (hx : DollarsNumbered xs)
    (hy : DollarsNumbered ys) : DollarsNumbered (xs ++ ys) := by
  intro before after e
  rcases List.append_eq_append_iff.1 e with ⟨gap, rfl, hys⟩ | ⟨gap, rfl, hgap⟩
  · exact hy gap after hys
  · cases gap with
    | nil => exact hy [] after hgap.symm
    | cons c gap =>
      obtain ⟨rfl, rfl⟩ := List.cons.inj hgap
      obtain ⟨d, rest, rfl, digit⟩ := hx before gap rfl
      exact ⟨d, rest ++ ys, rfl, digit⟩

/-- A placeholder. -/
theorem DollarsNumbered.dollarMark (n : Nat) : DollarsNumbered (Binder.dollarMark n).toList := by
  have mark : (Binder.dollarMark n).toList = '$' :: (natText n).toList := by
    simp [Binder.dollarMark]
  have nonempty : (natText n).toList ≠ [] := by simp [natText, natChars]
  rw [mark]
  intro before after e
  cases before with
  | nil =>
    obtain ⟨-, rfl⟩ := List.cons.inj e
    obtain ⟨d, rest, hd⟩ := List.exists_cons_of_ne_nil nonempty
    exact ⟨d, rest, hd, Piece.isDigit_of_mem_natText (hd ▸ List.mem_cons_self)⟩
  | cons b before =>
    obtain ⟨-, inside⟩ := List.cons.inj e
    have dollar : '$' ∈ (natText n).toList := inside ▸ by simp
    exact absurd (Piece.isDigit_of_mem_natText dollar) (by decide)

/-- The dollar signs of a written text are those of its marks. -/
theorem Piece.numbered_write {ps : List Piece} (plain : Spells (fun s => '$' ∉ s.toList) ps)
    (k : Nat) : DollarsNumbered (write Binder.dollarMark k ps).toList := by
  induction ps generalizing k with
  | nil => exact DollarsNumbered.of_notMem (List.not_mem_nil)
  | cons p ps ih =>
    cases p with
    | verbatim s =>
      obtain ⟨hs, plain⟩ := spells_verbatim.1 plain
      rw [write, String.toList_append]
      exact (DollarsNumbered.of_notMem hs).append (ih plain k)
    | value v =>
      rw [write, String.toList_append]
      exact (DollarsNumbered.dollarMark (k + 1)).append (ih (spells_value.1 plain) (k + 1))

/-! ### Statements -/

/-- The characters of clauses are safe. -/
theorem isSafeChar_of_isClauseChar {c : Char} (h : isClauseChar c = true) :
    isSafeChar c = true := by
  have signs : "_.,()=<>! \n".toList.all isSafeChar = true := by decide
  rw [isClauseChar, Bool.or_eq_true] at h
  rcases h with h | h
  · simp [isSafeChar, h]
  · exact List.all_eq_true.1 signs c (List.contains_iff_mem.1 h)

/-- The characters of column lists are safe. -/
theorem isSafeChar_of_isListed {c : Char} (h : Name.isListed c = true) : isSafeChar c = true := by
  have signs : "_.*,():!-".toList.all isSafeChar = true := by decide
  simp only [Name.isListed, Bool.or_eq_true] at h
  rcases h with (h | h) | h
  · simp [isSafeChar, h]
  · exact List.all_eq_true.1 signs c (List.contains_iff_mem.1 h)
  · simp [isSafeChar, h]

/-- A table of letters, digits, underscores and points is a text of clauses. -/
theorem isClauseText_of_isTableChar {s : String} (h : s.toList.all isTableChar = true) :
    isClauseText s = true := by
  refine List.all_eq_true.2 fun c hc => ?_
  have table := List.all_eq_true.1 h c hc
  simp only [isTableChar, Bool.or_eq_true, beq_iff_eq] at table
  rcases table with (table | rfl) | rfl
  · simp [isClauseChar, table]
  · decide
  · decide

namespace NameRules

variable {rules : NameRules}

/-- The pieces around the column list are texts of clauses, if the table is one. -/
theorem isClauseText_around {op : Operation} (table : isClauseText op.table = true)
    (h : rules.check op = .ok ()) :
    Piece.Spells (fun s => isClauseText s = true) op.front
      ∧ Piece.Spells (fun s => isClauseText s = true) op.back :=
  ⟨spells_front (fun _ hs => hs) table h, spells_back (fun _ hs => hs) table h⟩

/-- A character that clauses lack is not written around the column list, unless it is the dollar
sign. -/
theorem notMem_write {ps : List Piece} (h : Piece.Spells (fun s => isClauseText s = true) ps)
    {c : Char} (dollar : c ≠ '$') (foreign : isClauseChar c = false) (k : Nat) :
    c ∉ (Piece.write Binder.dollarMark k ps).toList := by
  intro mem
  rcases Piece.mem_write mem with hc | digit | ⟨s, hs, hc⟩
  · exact dollar hc
  · simp [isClauseChar, Char.isAlphanum, digit] at foreign
  · exact Name.notMem_of_all (h s hs) foreign hc

/-- An operation on a table of letters, digits, underscores and points compiles to a contained
statement. -/
theorem contained_of_compile {op : Operation} {c : Compiled}
    (table : op.table.toList.all isTableChar = true) (h : rules.compile op = .ok c) :
    Contained c.sql := by
  obtain ⟨checked, rfl⟩ := compile_eq_ok_iff.1 h
  obtain ⟨front, back⟩ := isClauseText_around (isClauseText_of_isTableChar table) checked
  have columns := isColumnList_of_check checked
  rw [Name.isColumnList, Bool.and_eq_true] at columns
  have listed := List.all_eq_true.1 columns.1
  have dollarless : '$' ∉ op.table.toList := Name.notMem_of_all table (by decide)
  refine ⟨fun x hx => ?_, ?_, ?_⟩
  · rcases Piece.mem_write hx with rfl | digit | ⟨s, hs, hxs⟩
    · decide
    · simp [isSafeChar, Char.isAlphanum, digit]
    · rcases List.mem_append.1 hs with hs | hs
      · exact isSafeChar_of_isClauseChar (List.all_eq_true.1 (front s hs) x hxs)
      rcases List.mem_cons.1 hs with hs | hs
      · cases hs
        exact isSafeChar_of_isListed (listed x hxs)
      · exact isSafeChar_of_isClauseChar (List.all_eq_true.1 (back s hs) x hxs)
  · exact Piece.numbered_write (dollarless_pieces dollarless checked) 0
  · -- only the column list has dashes, so that a pair of them lies inside it
    rw [← Name.hasDashPair_iff]
    have dashless {ps : List Piece} (h : Piece.Spells (fun s => isClauseText s = true) ps) (k) :
        '-' ∉ (Piece.write Binder.dollarMark k ps).toList :=
      notMem_write h (by decide) (by decide) k
    simp only [Operation.compiled, write_pieces, String.toList_append]
    rw [Name.hasDashPair_append_of_right _ (dashless back _),
      Name.hasDashPair_append_of_left (dashless front _)]
    simpa using columns.2

/-- **Injection containment.**  Let a table consist of ASCII letters, digits, underscores and
points.  Whatever else an operation on it or a chain of calls on it carries, a statement that it
compiles to stays in the alphabet of statements, has a digit behind every dollar sign, and has no
two dashes together; hence no foreign sign either.

**Proof sketch.**  A statement is written from marks and verbatim pieces.  All pieces but the column
list are the table or texts of clauses, which have neither dollar signs nor dashes.  So every dollar
sign is that of a mark, and two dashes together would lie inside the column list, whose check
refuses them. -/
theorem contained_compile {t : String} (table : t.toList.all isTableChar = true) {c : Compiled} :
    (∀ op : Operation, op.table = t → rules.compile op = .ok c →
        Contained c.sql ∧ ∀ x ∈ foreignSigns, x ∉ c.sql.toList)
      ∧ ∀ chain : Chain, chain.table = .text t → chain.compile rules = .ok c →
        Contained c.sql ∧ ∀ x ∈ foreignSigns, x ∉ c.sql.toList := by
  have direct (op : Operation) (named : op.table = t) (h : rules.compile op = .ok c) :
      Contained c.sql ∧ ∀ x ∈ foreignSigns, x ∉ c.sql.toList := by
    have contained := contained_of_compile (by rw [named]; exact table) h
    exact ⟨contained, contained.notMem⟩
  refine ⟨direct, fun chain named h => ?_⟩
  obtain ⟨op, recorded, h⟩ := bind_eq_ok.1 h
  have read := Chain.table_of_toOperation recorded
  rw [named, Reader.nonemptyText_eq_ok_iff] at read
  exact direct op read.1 h

/-- A chain that selects an expression with a dash and filters by a text that would end a
statement. -/
theorem contained_compile_filter :
    let chain := Chain.run ⟨63, "id"⟩ (Chain.start (.text "public.users"))
      [.select (.text "total-1"), .filter .eq (.text "name") (.text "'; DROP TABLE users; --")]
    let c : Compiled :=
      ⟨"SELECT total-1 FROM public.users WHERE name = $1", [.text "'; DROP TABLE users; --"]⟩
    chain.compile ⟨63, "id"⟩ = .ok c ∧ Contained c.sql ∧ ∀ x ∈ foreignSigns, x ∉ c.sql.toList := by
  intro chain c
  have recorded : chain.toOperation = .ok (.select ⟨"public.users", "total-1",
      [⟨"name", .eq, .text "'; DROP TABLE users; --"⟩], none, none⟩) := rfl
  have compiled : chain.compile ⟨63, "id"⟩ = .ok c := by
    rw [Chain.compile, recorded]
    rfl
  exact ⟨compiled, (contained_compile (by decide)).2 chain rfl compiled⟩

end NameRules

end QueryChain
