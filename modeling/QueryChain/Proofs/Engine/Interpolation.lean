import Mathlib.Data.List.Forall2
import QueryChain.Proofs.Engine.Transaction
import QueryChain.Proofs.Placeholder.Occurrence
import QueryChain.Proofs.Template.Parts

/-!
# Interpolated statements

A driver of a format style takes the text of a statement for a template, whose directives show the
parameters in order or under their keys.  Without parameters the text is no template and is sent as
it is.  Whatever percent signs a statement has, doubling them and writing directives in the place of
its placeholders is undone by the driver.

## Main definitions

* `Token.StandsFor` — what a token of a statement stands for.
* `interpolate` — what a driver sends for a text and bound parameters.

## Main results

* `ParamStyle.fillParts_format`, `ParamStyle.fillParts_pyformat` — a statement with its percent
  signs doubled is filled token by token.
* `ParamStyle.interpolate_translated` — what a driver sends for a translated statement is the
  statement with its parameters filled in.
* `Pool.query_interpolated` — a query sends the statement that it was asked for.
-/

set_option relaxedAutoImplicit false
set_option autoImplicit false

namespace QueryChain

open Template (Part)

/-- What a token stands for: a character for itself, and `$n` for the `n`-th parameter. -/
inductive Token.StandsFor (params : List Value) : Token → Part → Prop
  | plain (c : Char) : StandsFor params (.plain c) (.char c)
  | placeholder {n : Nat} {v : Value} (h : params[n]? = some v) :
    StandsFor params (.placeholder (natChars (n + 1))) (.value v)

/-- What a driver of a format style sends for a text and bound parameters: the parts of the template
that the text is, or its characters if there are no parameters. -/
def interpolate (text : String) : Option BoundParams → Option (List Part)
  | none => some (text.toList.map .char)
  | some bound => Template.fillParts bound (Template.pieces text)

/-! ### What tokens stand for -/

namespace Token

variable {params : List Value} {tokens : List Token} {filled : List Part}

/-- A statement whose placeholders are numbers of parameters stands for itself with these parameters
filled in. -/
theorem exists_standsFor
    (numbers : ∀ digits ∈ tokens.filterMap digits?,
      ∃ n, 1 ≤ n ∧ n ≤ params.length ∧ digits = natChars n) :
    ∃ filled, List.Forall₂ (StandsFor params) tokens filled := by
  induction tokens with
  | nil => exact ⟨[], .nil⟩
  | cons token tokens ih =>
    cases token with
    | plain c =>
      obtain ⟨filled, rest⟩ := ih (by simpa [digits?] using numbers)
      exact ⟨_, .cons (.plain c) rest⟩
    | placeholder digits =>
      have first : (placeholder digits :: tokens).filterMap digits?
          = digits :: tokens.filterMap digits? := rfl
      rw [first, List.forall_mem_cons] at numbers
      obtain ⟨⟨n, positive, inside, rfl⟩, numbers⟩ := numbers
      obtain ⟨filled, rest⟩ := ih numbers
      obtain ⟨n, rfl⟩ := Nat.exists_eq_succ_of_ne_zero (Nat.one_le_iff_ne_zero.1 positive)
      exact ⟨_, .cons (.placeholder (List.getElem?_eq_getElem inside)) rest⟩

/-- Without parameters there are only characters. -/
theorem exists_plain_of_standsFor_nil (stands : List.Forall₂ (StandsFor []) tokens filled) :
    ∃ cs : List Char, tokens = cs.map plain ∧ filled = cs.map .char := by
  induction stands with
  | nil => exact ⟨[], rfl, rfl⟩
  | cons here _ ih =>
    obtain ⟨cs, rfl, rfl⟩ := ih
    cases here with
    | plain c => exact ⟨c :: cs, rfl, rfl⟩
    | placeholder h => cases h

/-- The lookups of placeholders give the parameters that are filled in. -/
theorem lookupAll_of_standsFor (size : params.length < ParamStyle.listBound)
    (stands : List.Forall₂ (StandsFor params) tokens filled) :
    ParamStyle.lookupAll (.list params) (tokens.filterMap digits?)
      = .ok (filled.filterMap Part.value?) := by
  induction stands with
  | nil => rfl
  | cons here _ ih =>
    cases here with
    | plain c => exact ih
    | placeholder h =>
      refine bind_eq_ok.2 ⟨_, ParamStyle.lookup_natChars size h, ?_⟩
      exact bind_eq_ok.2 ⟨_, ih, rfl⟩

end Token

namespace ParamStyle

variable {style : ParamStyle} {params : List Value} {tokens : List Token} {filled : List Part}

/-! ### Translated statements -/

/-- A character with its percent sign doubled is filled as that character. -/
theorem fillParts_plain {bound : BoundParams} {total : Nat} {c : Char} {rest : List Char} :
    Template.fillParts bound (Template.piecesOf total (style.writeToken true (.plain c) ++ rest))
      = (Template.fillParts bound (Template.piecesOf total rest)).map (.char c :: ·) := by
  by_cases percent : c = '%'
  · subst percent
    exact Template.fillParts_doubled
  · have single : style.writeToken true (.plain c) = [c] := by simp [writeToken, percent]
    rw [single]
    exact Template.fillParts_char percent

/-- A statement for directives without keys is filled with the parameters of its placeholders. -/
theorem fillParts_format (total : Nat)
    (stands : List.Forall₂ (Token.StandsFor params) tokens filled) :
    Template.fillParts (.positional (filled.filterMap Part.value?))
      (Template.piecesOf total (tokens.flatMap (format.writeToken true))) = some filled := by
  induction stands with
  | nil =>
    rw [List.flatMap_nil, Template.piecesOf_of_notMem List.not_mem_nil]
    rfl
  | cons here _ ih =>
    rw [List.flatMap_cons]
    cases here with
    | plain c => exact fillParts_plain.trans (congrArg (Option.map (Part.char c :: ·)) ih)
    | @placeholder n v h =>
      exact Template.fillParts_next.trans (congrArg (Option.map (Part.value v :: ·)) ih)

/-- A statement for directives with keys is filled with the parameters of its placeholders. -/
theorem fillParts_pyformat (total : Nat)
    (stands : List.Forall₂ (Token.StandsFor params) tokens filled) :
    Template.fillParts (.named (namedFrom 1 params))
      (Template.piecesOf total (tokens.flatMap (pyformat.writeToken true))) = some filled := by
  induction stands with
  | nil =>
    rw [List.flatMap_nil, Template.piecesOf_of_notMem List.not_mem_nil]
    rfl
  | @cons token part tokens filled here _ ih =>
    rw [List.flatMap_cons]
    cases here with
    | plain c => exact fillParts_plain.trans (congrArg (Option.map (Part.char c :: ·)) ih)
    | @placeholder n v h =>
      have spelled : String.ofList ('p' :: natChars (n + 1)) = key (n + 1) := by
        rw [← String.toList_inj]
        simp [key, natText]
      have found :
          (namedFrom 1 params).get? (String.ofList ('p' :: natChars (n + 1))) = some v := by
        rw [spelled, Nat.add_comm, get?_namedFrom, h]
      have word (c : Char) (hc : c ∈ 'p' :: natChars (n + 1)) : c = 'p' ∨ c.isDigit = true :=
        (List.mem_cons.1 hc).imp_right Text.isDigit_of_mem_natChars
      have opens : '(' ∉ 'p' :: natChars (n + 1) := fun mem => absurd (word _ mem) (by decide)
      have closes : ')' ∉ 'p' :: natChars (n + 1) := fun mem => absurd (word _ mem) (by decide)
      have written : pyformat.writeToken true (.placeholder (natChars (n + 1)))
          ++ tokens.flatMap (pyformat.writeToken true)
            = '%' :: '(' :: ('p' :: natChars (n + 1)
              ++ ')' :: 's' :: tokens.flatMap (pyformat.writeToken true)) := by
        simp [writeToken, mark]
      rw [written, Template.fillParts_keyed opens closes found, ih]
      rfl

/-- The parameters are bound so that they fill the statement with its percent signs doubled. -/
theorem exists_fillParts (interpolates : style.interpolates = true) {cs : List Char}
    (size : params.length < listBound)
    (stands : List.Forall₂ (Token.StandsFor params) (Token.scan cs) filled) :
    ∃ bound, style.bind cs (.list params) = .ok bound ∧ ∀ total,
      Template.fillParts bound
        (Template.piecesOf total ((Token.scan cs).flatMap (style.writeToken true)))
          = some filled := by
  cases style
  case format =>
    have found : lookupAll (.list params) (Token.placeholders cs) = .ok _ :=
      Token.lookupAll_of_standsFor size stands
    exact ⟨_, by rw [bind, found]; rfl, fun total => fillParts_format total stands⟩
  case pyformat => exact ⟨_, rfl, fun total => fillParts_pyformat total stands⟩
  all_goals cases interpolates

/-- A statement without placeholders is left alone when its percent signs are not doubled. -/
theorem restyle_of_plain {cs : List Char} (plain : Token.scan cs = cs.map .plain) :
    style.restyle false cs = cs := by
  have single (c : Char) : style.writeToken (style.interpolates && false) (.plain c) = [c] := by
    rw [Bool.and_false]
    rfl
  rw [restyle, plain, List.flatMap_map, List.flatMap_congr fun c _ => single c]
  exact List.flatMap_singleton' cs

/-- A driver that interpolates sends a translated statement with its parameters filled in, be there
parameters or none. -/
theorem interpolate_translated (interpolates : style.interpolates = true) {sql : String}
    (size : params.length < listBound)
    (stands : List.Forall₂ (Token.StandsFor params) (Token.scan sql.toList) filled) :
    ∃ text bound, translate sql (.list params) style.name = .ok (text, bound)
      ∧ interpolate text (if params.isEmpty then none else some bound) = some filled := by
  obtain ⟨bound, binds, fills⟩ := exists_fillParts interpolates size stands
  refine ⟨_, bound, translate_eq_ok_iff.2 ⟨binds, rfl⟩, ?_⟩
  cases params with
  | nil =>
    obtain ⟨cs, scanned, rfl⟩ := Token.exists_plain_of_standsFor_nil stands
    have spelled : sql.toList = cs := by
      rw [← Token.spelling_scan sql.toList, scanned, List.flatMap_map]
      exact List.flatMap_singleton' cs
    rw [spelled] at scanned ⊢
    have kept : style.restyle (!([] : List Value).isEmpty) cs = cs := restyle_of_plain scanned
    rw [kept, List.isEmpty_nil, if_pos rfl, interpolate, String.toList_ofList]
  | cons v params =>
    have doubled : style.restyle (!(v :: params).isEmpty) sql.toList
        = (Token.scan sql.toList).flatMap (style.writeToken true) := by
      rw [restyle, interpolates]
      rfl
    rw [doubled, List.isEmpty_cons, if_neg Bool.false_ne_true, interpolate, Template.pieces,
      String.toList_ofList]
    exact fills _

end ParamStyle

/-! ### Queries -/

namespace Pool

/-- **A query sends the statement that it was asked for.**  Let a pool find an engine whose driver
interpolates, and let the placeholders of a statement be numbers of parameters; the size is no
restriction, since every list is smaller.  The statement may have percent signs wherever it likes.

* The engine gets one statement, in a transaction of its own.
* What the driver makes of it is the statement character by character, with the `n`-th parameter in
  the place of every `$n`, be there parameters or none.
* If there are parameters, the template filled with them is the text of this.

**Proof sketch.**  With parameters, a doubled percent sign is read as one, and since the directives
start with a percent sign as well, the template is read token by token, whatever follows.  Without
parameters there is no placeholder, and the text is neither doubled nor read as a template. -/
theorem query_interpolated (sql : String) {params : List Value}
    (size : params.length < ParamStyle.listBound)
    (numbers : ∀ digits ∈ Token.placeholders sql.toList,
      ∃ n, 1 ≤ n ∧ n ≤ params.length ∧ digits = natChars n)
    (pool : Pool) {engine : Engine} (acquired : (acquire.run pool).outcome = .ok engine)
    (named : engine.styleName = "format" ∨ engine.styleName = "pyformat") :
    ∃ text bound last filled,
      Event.engineCalls ((query sql (.list params)).run pool).events
          = [.begin, .statement text bound, last]
        ∧ interpolate text bound = some filled
        ∧ List.Forall₂ (Token.StandsFor params) (Token.scan sql.toList) filled
        ∧ ∀ given, bound = some given →
          Template.fill text given.toValue = .ok (String.join (filled.map Part.text)) := by
  obtain ⟨filled, stands⟩ := Token.exists_standsFor numbers
  obtain ⟨style, interpolates, styled⟩ :
      ∃ style : ParamStyle, style.interpolates = true ∧ engine.styleName = style.name := by
    rcases named with named | named
    · exact ⟨.format, rfl, named⟩
    · exact ⟨.pyformat, rfl, named⟩
  obtain ⟨text, bound, translated, sent⟩ :=
    ParamStyle.interpolate_translated interpolates size stands
  rw [← styled] at translated
  obtain ⟨-, called, -⟩ := run_runStatement_of_translated acquired translated
  obtain ⟨-, -, same⟩ := run_query sql params pool
  refine ⟨text, _, _, filled, same.trans called, sent, stands, fun given some_given => ?_⟩
  rw [some_given] at sent
  exact Template.fill_of_fillParts sent

/-- A statement with single and doubled percent signs, with marks of the style of its driver, and
with percent signs at its placeholders. -/
theorem query_interpolated_percent :
    let sql := "SELECT '%%', '%s', '%(p1)s', a % $2%$1%s"
    let params : List Value := [.int 7, .text "%s"]
    let engine : Engine := ⟨"pyformat", "postgresql"⟩
    let driver : Driver := ⟨fun _ => Answer.ok engine, fun _ => Answer.ok (.rows (.list []))⟩
    let pool := Pool.start DatabaseSettings.default driver
    ∃ text bound last filled,
      Event.engineCalls ((query sql (.list params)).run { pool with engine := engine }).events
          = [.begin, .statement text bound, last]
        ∧ interpolate text bound = some filled
        ∧ List.Forall₂ (Token.StandsFor params) (Token.scan sql.toList) filled
        ∧ ∀ given, bound = some given →
          Template.fill text given.toValue = .ok (String.join (filled.map Part.text)) := by
  intro sql params engine driver pool
  have placeholders : Token.placeholders sql.toList = [['2'], ['1']] := by decide
  have acquired : (acquire.run { pool with engine := engine }).outcome = .ok engine := rfl
  refine query_interpolated sql (by decide) (fun digits mem => ?_) _ acquired (.inr rfl)
  rw [placeholders, List.mem_cons, List.mem_singleton] at mem
  rcases mem with rfl | rfl
  · exact ⟨2, by decide, by decide, rfl⟩
  · exact ⟨1, by decide, by decide, rfl⟩

end Pool

end QueryChain
