import QueryChain.Proofs.Placeholder.Style
import QueryChain.Proofs.Statement.Numbering

/-!
# Translating compiled statements

The statement that an operation compiles to is written with numbered dollar marks, and a driver gets
it with the marks of its own style.  Both texts are the layout of the operation, written with two
spellings of the marks, so that nothing but the marks changes on the way.

## Main definitions

* `Translated` — a statement and its parameters as a driver of a style should get them.

## Main results

* `Piece.restyle_write` — the marks of a written text are replaced, and all else is kept.
* `NameRules.translated_compile` — the translation of a compiled statement succeeds in every style,
  replaces mark by mark, and binds the parameters as the style asks for.
-/

set_option relaxedAutoImplicit false
set_option autoImplicit false

namespace QueryChain

/-- A text and bound parameters are what a driver of a style should get for a compiled statement.
The pieces take the statement apart at its placeholders. -/
structure Translated (style : ParamStyle) (c : Compiled) (ps : List Piece) (text : String)
    (bound : BoundParams) : Prop where
  /-- The pieces bind the parameters. -/
  values : Piece.values ps = c.params
  /-- The statement is the pieces with one dollar mark for each parameter. -/
  statement : c.sql = Piece.write ParamStyle.numericDollar.numbered 0 ps
  /-- Those marks are the placeholders of the statement: no other dollar sign stands in it, … -/
  dollarless : Piece.Spells (fun s => '$' ∉ s.toList) ps
  /-- … and no digit directly behind one of them. -/
  spaced : Piece.Spaced ps
  /-- The text is the pieces with one mark of the style for each parameter. -/
  text : text = Piece.write style.numbered 0 ps
  /-- The parameters are bound as the style asks for. -/
  bound : style.Binds c.params bound

namespace Piece

variable {ps : List Piece}

/-- Tokens in a style: the marks are replaced, and all else is kept if no percent sign is doubled. -/
theorem flatMap_writeToken (style : ParamStyle) (doubled : Bool)
    (plain : Spells (fun s => '%' ∉ s.toList) ps) (k : Nat) :
    (tokens k ps).flatMap (style.writeToken doubled) = (write style.numbered k ps).toList := by
  induction ps generalizing k with
  | nil => rfl
  | cons p ps ih =>
    cases p with
    | verbatim s =>
      obtain ⟨hs, plain⟩ := spells_verbatim.1 plain
      have kept : (s.toList.map Token.plain).flatMap (style.writeToken doubled) = s.toList := by
        have single (c : Char) (hc : c ∈ s.toList) :
            style.writeToken doubled (Token.plain c) = [c] := by
          have other : (c == '%') = false := beq_false_of_ne fun same => hs (same ▸ hc)
          simp [ParamStyle.writeToken, other]
        rw [List.flatMap_map, List.flatMap_def, List.map_congr_left single, ← List.flatMap_def,
          List.flatMap_singleton']
      rw [tokens, List.flatMap_append, kept, ih plain, write, String.toList_append]
    | value v =>
      rw [tokens, List.flatMap_cons, ih (spells_value.1 plain), write, String.toList_append,
        ParamStyle.toList_numbered]
      rfl

/-- **Only marks change**: spaced pieces whose texts have neither dollar nor percent signs are
rewritten mark by mark. -/
theorem restyle_write (style : ParamStyle) (hasParams : Bool) (spaced : Spaced ps)
    (dollarless : Spells (fun s => '$' ∉ s.toList) ps)
    (plain : Spells (fun s => '%' ∉ s.toList) ps) :
    style.restyle hasParams (write Binder.dollarMark 0 ps).toList
      = (write style.numbered 0 ps).toList := by
  rw [ParamStyle.restyle, scan_write spaced dollarless, flatMap_writeToken style _ plain]

end Piece

namespace NameRules

variable {rules : NameRules}

/-- The translation of a layout that passed its checks, on a table without dollar and percent
signs. -/
theorem translate_of_check {op : Operation} (dollar : '$' ∉ op.table.toList)
    (percent : '%' ∉ op.table.toList) (checked : rules.check op = .ok ())
    (size : op.compiled.params.length < ParamStyle.listBound) (style : ParamStyle) :
    ∃ bound, translate op.compiled.sql (.list op.compiled.params) style.name
        = .ok (Piece.write style.numbered 0 op.pieces, bound)
      ∧ Translated style op.compiled op.pieces (Piece.write style.numbered 0 op.pieces) bound := by
  have dollarless := notMem_pieces (by decide) (by decide) dollar checked
  have plain := notMem_pieces (by decide) (by decide) percent checked
  have numbers := Piece.placeholders_write op.spaced_pieces dollarless 0
  obtain ⟨bound, hbound, binds⟩ := style.exists_binds size numbers
  have kept : style.restyle (Value.list op.compiled.params).truthy op.compiled.sql.toList
      = (Piece.write style.numbered 0 op.pieces).toList :=
    Piece.restyle_write style _ op.spaced_pieces dollarless plain
  refine ⟨bound, ?_, rfl, rfl, dollarless, op.spaced_pieces, rfl, binds⟩
  rw [translate, ParamStyle.ofName?_name]
  refine bind_eq_ok.2 ⟨bound, hbound, ?_⟩
  rw [kept, String.ofList_toList]
  rfl

/-- **Compiler and translation agree.**  Let an operation compile, on a table without dollar and
percent signs.  In every style, the translation of its statement succeeds; it is the statement with
the mark of the style for `j` in place of the `j`-th placeholder, and the parameters are bound in
order, or each under the key of its number.  The size is no restriction, since every list is
smaller.

**Proof sketch.**  The statement is the layout of the operation, written with dollar marks.  No
dollar sign stands between the marks and no digit behind one, so that the scan finds the marks and
nothing else; writing the tokens in another style gives the layout with the marks of that style.
The placeholders are numbered from one, so that the number of each leads back to its own
parameter. -/
theorem translated_compile {op : Operation} {c : Compiled} (dollar : '$' ∉ op.table.toList)
    (percent : '%' ∉ op.table.toList) (h : rules.compile op = .ok c)
    (size : c.params.length < ParamStyle.listBound) (style : ParamStyle) :
    ∃ text bound, translate c.sql (.list c.params) style.name = .ok (text, bound)
      ∧ Translated style c op.pieces text bound := by
  obtain ⟨checked, rfl⟩ := compile_eq_ok_iff.1 h
  obtain ⟨bound, translated, agrees⟩ := translate_of_check dollar percent checked size style
  exact ⟨_, bound, translated, agrees⟩

/-- A query for ten identifiers, for a driver that takes parameters by name in a format. -/
theorem translated_compile_membership :
    let op := Operation.select ⟨"orders", "*", [⟨"id", .isIn, .list [.int 9, .int 8, .int 7, .int 6,
      .int 5, .int 4, .int 3, .int 2, .int 1, .int 0]⟩], none, none⟩
    let c : Compiled := ⟨"SELECT * FROM orders WHERE id IN ($1, $2, $3, $4, $5, $6, $7, $8, $9, $10)",
      [.int 9, .int 8, .int 7, .int 6, .int 5, .int 4, .int 3, .int 2, .int 1, .int 0]⟩
    compile ⟨63, "id"⟩ op = .ok c
      ∧ ∃ text bound, translate c.sql (.list c.params) ParamStyle.pyformat.name = .ok (text, bound)
        ∧ text = "SELECT * FROM orders WHERE id IN (%(p1)s, %(p2)s, %(p3)s, %(p4)s, %(p5)s, "
          ++ "%(p6)s, %(p7)s, %(p8)s, %(p9)s, %(p10)s)"
        ∧ ParamStyle.pyformat.Binds c.params bound := by
  intro op c
  have compiled : compile ⟨63, "id"⟩ op = .ok c := rfl
  obtain ⟨text, bound, translated, agrees⟩ :=
    translated_compile (by decide) (by decide) compiled (by decide) .pyformat
  exact ⟨compiled, text, bound, translated, agrees.text, agrees.bound⟩

end NameRules

end QueryChain
