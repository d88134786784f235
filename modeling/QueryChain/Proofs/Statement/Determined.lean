import QueryChain.Proofs.Statement.ReadBack

/-!
# A compiled statement determines its operation

Two operations of one kind on one table are compiled to the same statement with corresponding
parameters exactly when they match.

## Main results

* `NameRules.matching_of_agree` — operations match if their layouts agree.
* `NameRules.matching_iff_compile` — statements and parameters tell exactly whether operations match.
-/

set_option relaxedAutoImplicit false
set_option autoImplicit false

namespace QueryChain

variable {E : Value → Value → Prop}

open Piece

namespace NameRules

variable {rules : NameRules}

/-- Two queries for the same columns of the same table. -/
theorem matching_select {s t : Select} (table : s.table = t.table) (columns : s.columns = t.columns)
    (hs : rules.check (.select s) = .ok ()) (ht : rules.check (.select t) = .ok ())
    (ls : ∀ c ∈ s.conditions, c.Listed) (lt : ∀ c ∈ t.conditions, c.Listed)
    (h : Agree E (Operation.select s).pieces (Operation.select t).pieces) :
    Matching E (.select s) (.select t) := by
  obtain ⟨-, -, checks⟩ := bind_eq_ok.1 hs
  obtain ⟨conditions, order⟩ := unit_bind_eq_ok.1 checks
  obtain ⟨-, -, checks'⟩ := bind_eq_ok.1 ht
  obtain ⟨conditions', order'⟩ := unit_bind_eq_ok.1 checks'
  have leads_limit (limit : Option Nat) : Leads [" LIMIT "] (limitPieces limit) := by
    cases limit with
    | none => exact .nil
    | some n => exact .cons List.mem_cons_self
  have leads_order (o : Option OrderBy) (limit : Option Nat) :
      Leads [" ORDER BY ", " LIMIT ", " RETURNING "] (orderPieces o ++ limitPieces limit) := by
    cases o with
    | none => exact (leads_limit limit).mono (by simp)
    | some o => exact .cons List.mem_cons_self
  simp only [Operation.pieces, Operation.front, Operation.back, Operation.columnList, table, columns,
    List.append_assoc, List.cons_append, List.nil_append] at h
  obtain ⟨matching, rest⟩ := read_where conditions conditions' ls lt (leads_order _ _)
    (leads_order _ _) h.of_verbatim.of_verbatim.of_verbatim.of_verbatim
  obtain ⟨same_order, rest⟩ := read_order order order' (leads_limit _) (leads_limit _) rest
  exact .select table columns matching same_order (read_limit rest)

/-- Two inserts into the same table. -/
theorem matching_insert {s t : Insert} (table : s.table = t.table)
    (hs : rules.check (.insert s) = .ok ()) (ht : rules.check (.insert t) = .ok ())
    (ps : Payload s.rows) (pt : Payload t.rows)
    (h : Agree E (Operation.insert s).pieces (Operation.insert t).pieces) :
    Matching E (.insert s) (.insert t) := by
  simp only [Operation.pieces, Operation.front, Operation.back, Operation.columnList, table,
    List.append_assoc] at h
  obtain ⟨rows, rest⟩ := read_insert (unit_bind_eq_ok.1 hs).1 (unit_bind_eq_ok.1 ht).1 ps pt
    (leads_returning (by decide) _) (leads_returning (by decide) _) h
  exact .insert table rows (read_returning rest)

/-- Two upserts into the same table. -/
theorem matching_upsert {s t : Upsert} (table : s.table = t.table)
    (hs : rules.check (.upsert s) = .ok ()) (ht : rules.check (.upsert t) = .ok ())
    (ws : (Operation.upsert s).WellFormed) (wt : (Operation.upsert t).WellFormed)
    (h : Agree E (Operation.upsert s).pieces (Operation.upsert t).pieces) :
    Matching E (.upsert s) (.upsert t) := by
  obtain ⟨inserted, checks⟩ := unit_bind_eq_ok.1 hs
  obtain ⟨inserted', checks'⟩ := unit_bind_eq_ok.1 ht
  obtain ⟨_, names, -⟩ := bind_eq_ok.1 checks
  obtain ⟨_, names', -⟩ := bind_eq_ok.1 checks'
  simp only [Operation.pieces, Operation.front, Operation.back, table, List.append_assoc] at h
  obtain ⟨rows, rest⟩ := read_insert inserted inserted' ws.1 wt.1 (Leads.cons (by decide))
    (Leads.cons (by decide)) h
  rw [rows.1] at rest
  obtain ⟨conflict, rest⟩ := read_conflict ws.2 wt.2 (checkNames_eq_ok_iff.1 names).2
    (checkNames_eq_ok_iff.1 names').2 rest
  exact .upsert table rows conflict (read_returning rest)

/-- Two updates of the same table. -/
theorem matching_update {s t : Update} (table : s.table = t.table)
    (hs : rules.check (.update s) = .ok ()) (ht : rules.check (.update t) = .ok ())
    (ws : (Operation.update s).WellFormed) (wt : (Operation.update t).WellFormed)
    (h : Agree E (Operation.update s).pieces (Operation.update t).pieces) :
    Matching E (.update s) (.update t) := by
  obtain ⟨assigned, checks⟩ := unit_bind_eq_ok.1 hs
  obtain ⟨assigned', checks'⟩ := unit_bind_eq_ok.1 ht
  simp only [Operation.pieces, Operation.front, Operation.back, Operation.columnList, table,
    List.append_assoc, List.cons_append, List.nil_append] at h
  obtain ⟨values, rest⟩ := read_assignments assigned assigned' ws.1 wt.1
    (leads_where (by decide) _ (leads_returning (by decide) _))
    (leads_where (by decide) _ (leads_returning (by decide) _))
    h.of_verbatim.of_verbatim.of_verbatim
  obtain ⟨conditions, rest⟩ := read_where (unit_bind_eq_ok.1 checks).1 (unit_bind_eq_ok.1 checks').1
    ws.2 wt.2 (leads_returning (by decide) _) (leads_returning (by decide) _) rest
  exact .update table values conditions (read_returning rest)

/-- Two deletions from the same table. -/
theorem matching_delete {s t : Delete} (table : s.table = t.table)
    (hs : rules.check (.delete s) = .ok ()) (ht : rules.check (.delete t) = .ok ())
    (ls : ∀ c ∈ s.conditions, c.Listed) (lt : ∀ c ∈ t.conditions, c.Listed)
    (h : Agree E (Operation.delete s).pieces (Operation.delete t).pieces) :
    Matching E (.delete s) (.delete t) := by
  simp only [Operation.pieces, Operation.front, Operation.back, Operation.columnList, table,
    List.append_assoc, List.cons_append, List.nil_append] at h
  obtain ⟨conditions, rest⟩ := read_where (unit_bind_eq_ok.1 hs).1 (unit_bind_eq_ok.1 ht).1 ls lt
    (leads_returning (by decide) _) (leads_returning (by decide) _) h.of_verbatim.of_verbatim
  exact .delete table conditions (read_returning rest)

/-- Well-formed operations of one kind on one table that pass their checks match if their layouts
agree. -/
theorem matching_of_agree {a b : Operation} (kind : a.kind = b.kind) (table : a.table = b.table)
    (columns : a.kind = .select → a.columnList = b.columnList) (ha : rules.check a = .ok ())
    (hb : rules.check b = .ok ()) (wa : a.WellFormed) (wb : b.WellFormed)
    (h : Agree E a.pieces b.pieces) : Matching E a b := by
  cases a <;> cases b <;> try cases kind
  case select.select => exact matching_select table (columns rfl) ha hb wa wb h
  case insert.insert => exact matching_insert table ha hb wa wb h
  case upsert.upsert => exact matching_upsert table ha hb wa wb h
  case update.update => exact matching_update table ha hb wa wb h
  case delete.delete => exact matching_delete table ha hb wa wb h

/-- **A compiled statement determines its operation.**  Take two constructed operations of one kind
on one table, which select the same columns if they select at all, and let both compile.  Their
statements are the same and their parameters correspond exactly when the operations match: they
write the same rows with the columns in the same order, or set the same values, on the same conflict
columns; they have the same conditions in the same order, the same order and the same limit; and
they return the same.  The operations may differ in nothing but the column of a condition that looks
among nothing, the order of the names in later rows, and the ways to say that nothing is returned,
or everything after an upsert.

**Proof sketch.**  A statement is the layout of its operation.  Two layouts with the same text are
read in step from left to right: a name ends at the fence behind it, and where one layout goes on
with a separator, a word or an operator, so does the other, since none of them starts like another
that may stand in its place.  Conversely, the layouts of matching operations correspond piece by
piece. -/
theorem matching_iff_compile {a b : Operation} {c d : Compiled} (ha : a.Constructed)
    (hb : b.Constructed) (kind : a.kind = b.kind) (table : a.table = b.table)
    (columns : a.kind = .select → a.columnList = b.columnList) (hc : rules.compile a = .ok c)
    (hd : rules.compile b = .ok d) :
    c.sql = d.sql ∧ List.Forall₂ E c.params d.params ↔ Matching E a b := by
  obtain ⟨checked, rfl⟩ := compile_eq_ok_iff.1 hc
  obtain ⟨checked', rfl⟩ := compile_eq_ok_iff.1 hd
  constructor
  · rintro ⟨sql, params⟩
    exact matching_of_agree kind table columns checked checked'
      (Operation.wellFormed_of_constructed ha) (Operation.wellFormed_of_constructed hb)
      ⟨0, congrArg String.toList sql, params⟩
  · intro matching
    exact ⟨write_of_corresponds matching.pieces _ _, values_of_corresponds matching.pieces⟩

/-- Two inserts of the same rows, the second of which has its keys in another order. -/
theorem matching_iff_compile_rows :
    let a := Operation.insert
      ⟨"users", [[("id", .int 1), ("name", .text "a")], [("name", .text "b"), ("id", .int 2)]],
        none⟩
    let b := Operation.insert
      ⟨"users", [[("id", .int 1), ("name", .text "a")], [("id", .int 2), ("name", .text "b")]],
        some ""⟩
    let c : Compiled :=
      ⟨"INSERT INTO users (id, name) VALUES ($1, $2), ($3, $4)",
        [.int 1, .text "a", .int 2, .text "b"]⟩
    a.Constructed ∧ b.Constructed ∧ compile ⟨63, "id"⟩ a = .ok c ∧ compile ⟨63, "id"⟩ b = .ok c
      ∧ Matching Eq a b := by
  intro a b c
  have ha : a.Constructed := ⟨[("table", .text "users"),
    ("rows", .list [.map [(.text "id", .int 1), (.text "name", .text "a")],
      .map [(.text "name", .text "b"), (.text "id", .int 2)]])], rfl⟩
  have hb : b.Constructed := ⟨[("table", .text "users"),
    ("rows", .list [.map [(.text "id", .int 1), (.text "name", .text "a")],
      .map [(.text "id", .int 2), (.text "name", .text "b")]]), ("returning", .text "")], rfl⟩
  have compiled : compile ⟨63, "id"⟩ a = .ok c := rfl
  have compiled' : compile ⟨63, "id"⟩ b = .ok c := rfl
  have same : c.sql = c.sql ∧ List.Forall₂ Eq c.params c.params := ⟨rfl, by simp⟩
  exact ⟨ha, hb, compiled, compiled',
    (matching_iff_compile ha hb rfl rfl (fun select => by cases select) compiled compiled').1 same⟩

end NameRules

end QueryChain
