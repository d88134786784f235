import QueryChain.Proofs.Placeholder.Marker
import QueryChain.Proofs.Statement.Alphabet
import QueryChain.Proofs.Statement.Translation

/-!
# The markers that drivers find in statements

A driver is meant to take the marks of the parameters for markers and everything else for text.
Clauses, names and numbers never look like markers, but a column list may: it is accepted with
colons, and in two styles a colon starts a marker.

## Main definitions

* `Piece.readings` — pieces as a driver is meant to read them.

## Main results

* `Piece.read_write_append` — pieces without the sign of a style are read as they are meant to be.
* `NameRules.read_translated` — the markers of a translated statement are the marks of its parameters
  exactly when the column list does not clash with the style.
-/

set_option relaxedAutoImplicit false
set_option autoImplicit false

namespace QueryChain

namespace Piece

variable {ps qs : List Piece}

/-- Pieces behind `k` bound values as a driver is meant to read them: every character of a verbatim
piece is ordinary, and every value has its mark. -/
def readings (style : ParamStyle) (k : Nat) : List Piece → List Reading
  | [] => []
  | verbatim s :: ps => s.toList.map .plain ++ readings style k ps
  | value _ :: ps => .marker (style.numbered (k + 1)).toList :: readings style (k + 1) ps

/-- Readings of two lists one after the other. -/
theorem readings_append (style : ParamStyle) (k : Nat) (ps qs : List Piece) :
    readings style k (ps ++ qs)
      = readings style k ps ++ readings style (k + (values ps).length) qs := by
  induction ps generalizing k with
  | nil => rfl
  | cons p ps ih =>
    cases p with
    | verbatim s => rw [List.cons_append, readings, readings, ih, List.append_assoc, values_verbatim]
    | value v =>
      have shift : k + 1 + (values ps).length = k + (values (value v :: ps)).length := by
        rw [values_value, List.length_cons]
        omega
      rw [List.cons_append, readings, readings, ih, shift, List.cons_append]

/-- The markers among readings are the marks, numbered behind the values bound before. -/
theorem filterMap_readings (style : ParamStyle) (k : Nat) (ps : List Piece) :
    (readings style k ps).filterMap Reading.marker?
      = (List.range' (k + 1) (values ps).length).map fun n => (style.numbered n).toList := by
  induction ps generalizing k with
  | nil => rfl
  | cons p ps ih =>
    cases p with
    | verbatim s =>
      have plain_only : (s.toList.map Reading.plain).filterMap Reading.marker? = [] := by
        simp [Reading.marker?]
      rw [readings, List.filterMap_append, plain_only, List.nil_append, ih, values_verbatim]
    | value v =>
      rw [readings, List.filterMap_cons, Reading.marker?, ih, values_value, List.length_cons,
        List.range'_succ, List.map_cons]

/-- Fenced pieces without the sign of a style are read as they are meant to be, whatever follows. -/
theorem read_write_append (style : ParamStyle) (fenced : Fenced (ps ++ qs))
    (plain : Spells (fun s => style.sigil ∉ s.toList) ps) (k : Nat) :
    style.read (write style.numbered k (ps ++ qs)).toList
      = readings style k ps
        ++ style.read (write style.numbered (k + (values ps).length) qs).toList := by
  induction ps generalizing k with
  | nil => rfl
  | cons p ps ih =>
    cases p with
    | verbatim s =>
      obtain ⟨hs, plain⟩ := spells_verbatim.1 plain
      rw [List.cons_append, write, String.toList_append, ParamStyle.read_append_of_plain hs,
        ih fenced plain, readings, List.append_assoc, values_verbatim]
    | value v =>
      -- the mark ends at the fence behind it
      have shift : k + 1 + (values ps).length = k + (values (value v :: ps)).length := by
        rw [values_value, List.length_cons]
        omega
      have closed : closes (ps ++ qs) = true := fenced.1
      rw [List.cons_append, write, String.toList_append,
        ParamStyle.read_numbered_append _ (isFence_of_closes closed),
        ih fenced.2 (spells_value.1 plain), readings, shift, List.cons_append]

/-- Fenced pieces without the sign of a style are read as they are meant to be. -/
theorem read_write (style : ParamStyle) (fenced : Fenced ps)
    (plain : Spells (fun s => style.sigil ∉ s.toList) ps) (k : Nat) :
    style.read (write style.numbered k ps).toList = readings style k ps := by
  have fenced_end : Fenced (ps ++ []) := by rwa [List.append_nil]
  have alone := read_write_append style fenced_end plain k
  rwa [List.append_nil, write, String.toList_empty, ParamStyle.read_nil, List.append_nil] at alone

/-- The end of fenced pieces is fenced. -/
theorem Fenced.of_append (fenced : Fenced (ps ++ qs)) : Fenced qs := by
  induction ps with
  | nil => exact fenced
  | cons p ps ih =>
    cases p with
    | verbatim s => exact ih fenced
    | value v => exact ih fenced.2

end Piece

/-- What stands behind a column list is nothing, or starts with a blank. -/
theorem Operation.closes_back (op : Operation) : Piece.closes op.back = true := by
  cases op <;> rfl

namespace NameRules

variable {rules : NameRules} {op : Operation}

/-- Around the column list there is no sign of any style. -/
theorem sigil_notMem_around (table : op.table.toList.all isTableChar = true)
    (checked : rules.check op = .ok ()) (style : ParamStyle) :
    Piece.Spells (fun s => style.sigil ∉ s.toList) op.front
      ∧ Piece.Spells (fun s => style.sigil ∉ s.toList) op.back := by
  have foreign : isClauseChar style.sigil = false := by cases style <;> decide
  have clause (s : String) (hs : isClauseText s = true) : style.sigil ∉ s.toList :=
    Name.notMem_of_all hs foreign
  obtain ⟨front, back⟩ := isClauseText_around (isClauseText_of_isTableChar table) checked
  exact ⟨front.imp clause, back.imp clause⟩

/-- A translated statement is read in three parts: what stands in front of the column list and
behind it as it is meant to be, and the column list by itself. -/
theorem read_write_pieces (table : op.table.toList.all isTableChar = true)
    (checked : rules.check op = .ok ()) (style : ParamStyle) :
    style.read (Piece.write style.numbered 0 op.pieces).toList
      = Piece.readings style 0 op.front ++ (style.read op.columnList.toList
        ++ Piece.readings style (Piece.values op.front).length op.back) := by
  obtain ⟨front, back⟩ := sigil_notMem_around table checked style
  have listed := all_isListed_of_check checked
  have fenced : Piece.Fenced (op.front ++ .verbatim op.columnList :: op.back) := op.fenced_pieces
  have fenced_back : Piece.Fenced op.back := by
    have behind_front : Piece.Fenced (.verbatim op.columnList :: op.back) := fenced.of_append
    exact behind_front
  have behind := Piece.read_write style fenced_back back (Piece.values op.front).length
  have stop : ∀ c ∈ (Piece.write style.numbered (Piece.values op.front).length
      op.back).toList.head?, Piece.isFence c = true := Piece.isFence_of_closes op.closes_back
  rw [Operation.pieces, Piece.read_write_append style fenced front 0, Nat.zero_add, Piece.write,
    String.toList_append, ParamStyle.read_append_of_listed listed stop, behind]

/-- **Column lists are taken for markers only where they clash.**  Let an operation compile, on a
table of letters, digits, underscores and points, and let its statement be translated to any style.
If the column list has no colon that the style takes for the start of a marker, then a driver finds
exactly the marks of the parameters, in order, and reads everything else as text.  Otherwise it finds
more markers than there are parameters.  The size is no restriction, since every list is smaller.

**Proof sketch.**  The translated statement is the layout of the operation, written with the marks of
the style.  Clauses, names and numbers have none of the signs that markers start with, and a mark
ends at the fence behind it; so the text in front of the column list and behind it is read as it is
meant to be, and the column list is read by itself.  Of the signs, only the colon is accepted in a
column list. -/
theorem read_translated {c : Compiled} (table : op.table.toList.all isTableChar = true)
    (h : rules.compile op = .ok c) (size : c.params.length < ParamStyle.listBound)
    (style : ParamStyle) :
    ∃ text bound, translate c.sql (.list c.params) style.name = .ok (text, bound)
      ∧ Translated style c op.pieces text bound
      ∧ (¬ style.Clashes op.columnList.toList →
          style.read text.toList = Piece.readings style 0 op.pieces
            ∧ style.markers text.toList
              = (List.range' 1 c.params.length).map fun n => (style.numbered n).toList)
      ∧ (style.Clashes op.columnList.toList →
          c.params.length < (style.markers text.toList).length) := by
  obtain ⟨checked, rfl⟩ := compile_eq_ok_iff.1 h
  have dollar : '$' ∉ op.table.toList := Name.notMem_of_all table (by decide)
  have percent : '%' ∉ op.table.toList := Name.notMem_of_all table (by decide)
  obtain ⟨bound, translated, agrees⟩ := translate_of_check dollar percent checked size style
  have found := read_write_pieces table checked style
  have listed := all_isListed_of_check checked
  refine ⟨_, bound, translated, agrees, fun safe => ?_, fun clash => ?_⟩
  · have meant : style.read (Piece.write style.numbered 0 op.pieces).toList
        = Piece.readings style 0 op.pieces := by
      rw [found, ParamStyle.read_of_not_clashes listed safe, Operation.pieces,
        Piece.readings_append, Piece.readings, Nat.zero_add]
    exact ⟨meant, by rw [ParamStyle.markers, meant, Piece.filterMap_readings]; rfl⟩
  · have more : 0 < (style.markers op.columnList.toList).length :=
      List.length_pos_iff.2 (ParamStyle.markers_ne_nil_of_clashes clash)
    have total : (style.markers (Piece.write style.numbered 0 op.pieces).toList).length
        = (Piece.values op.front).length + ((style.markers op.columnList.toList).length
          + (Piece.values op.back).length) := by
      rw [ParamStyle.markers, found, List.filterMap_append, List.filterMap_append,
        Piece.filterMap_readings, Piece.filterMap_readings]
      simp [ParamStyle.markers]
    have params : op.compiled.params.length
        = (Piece.values op.front).length + (Piece.values op.back).length := by
      simp [Operation.compiled, Operation.pieces]
    omega

/-- A query for the columns of a related table, and one for a column alone. -/
theorem read_translated_projection :
    let c : Compiled := ⟨"SELECT id, customer:customers(*) FROM orders WHERE id = $1", [.int 1]⟩
    compile ⟨63, "id"⟩ (.select ⟨"orders", "id, customer:customers(*)",
        [⟨"id", .eq, .int 1⟩], none, none⟩) = .ok c
      ∧ ∃ text bound, translate c.sql (.list c.params) "named" = .ok (text, bound)
        ∧ text = "SELECT id, customer:customers(*) FROM orders WHERE id = :p1"
        ∧ 1 < (ParamStyle.named.markers text.toList).length := by
  intro c
  have compiled : compile ⟨63, "id"⟩ (.select ⟨"orders", "id, customer:customers(*)",
      [⟨"id", .eq, .int 1⟩], none, none⟩) = .ok c := rfl
  obtain ⟨text, bound, translated, agrees, -, more⟩ :=
    read_translated (by decide) compiled (by decide) .named
  exact ⟨compiled, text, bound, translated, agrees.text,
    more ⟨"id, customer".toList, 'c', "ustomers(*)".toList, rfl, rfl⟩⟩

/-- A driver that takes parameters by name is given a statement with one parameter and finds two
markers in it. -/
theorem markers_translated_projection :
    ∃ text bound, (compile ⟨63, "id"⟩ (.select ⟨"orders", "id, customer:customers(*)",
          [⟨"id", .eq, .int 1⟩], none, none⟩) >>= fun c =>
        translate c.sql (.list c.params) ParamStyle.named.name) = .ok (text, bound)
      ∧ ParamStyle.named.Binds [.int 1] bound
      ∧ ParamStyle.named.markers text.toList = [":customers".toList, ":p1".toList] := by
  refine ⟨"SELECT id, customer:customers(*) FROM orders WHERE id = :p1", .named [("p1", .int 1)], rfl,
    ⟨[("p1", .int 1)], rfl, rfl, by decide, ?_⟩, by decide⟩
  intro j hj
  obtain rfl := Nat.lt_one_iff.1 hj
  rfl

end NameRules

end QueryChain
