import Mathlib.Data.List.Forall2
import QueryChain.Proofs.Placeholder.Style
import QueryChain.Proofs.Statement.Name

/-!
# Binding by occurrence

A style whose marks have neither a number nor a name binds one value for each placeholder of the
statement, in the order in which they stand.  The value is looked up at the number of the
placeholder less one, and an index that is minus one counts from the end: `$0` names the last
parameter.

## Main definitions

* `ParamStyle.ByOccurrence` — the styles that bind by occurrence.
* `ParamStyle.named?` — the parameter that a number names.
* `ParamStyle.Bindable` — the placeholders that a value can be bound for.

## Main results

* `Token.digits_of_mem_placeholders` — a placeholder has decimal digits, and nothing else.
* `ParamStyle.lookup_eq_ok_iff`, `ParamStyle.lookupAll_eq_ok_iff` — which lookups succeed, and with
  what.
* `ParamStyle.occurrences_bound_iff` — which statements are translated, and what they bind.
-/

set_option relaxedAutoImplicit false
set_option autoImplicit false

namespace QueryChain

/-! ### The numbers of placeholders -/

/-- Decimal digits spell a number, whatever their scripts are. -/
theorem Text.exists_decimalValue? {digits : List Char} (some_digit : digits ≠ [])
    (decimal : ∀ c ∈ digits, isDecimalDigit c = true) : ∃ n, decimalValue? digits = some n := by
  have fold (acc : Nat) : ∃ n,
      digits.foldl (fun acc c => do return 10 * (← acc) + (← decimalDigit? c)) (some acc)
        = some n := by
    clear some_digit
    induction digits generalizing acc with
    | nil => exact ⟨acc, rfl⟩
    | cons c digits ih =>
      obtain ⟨here, later⟩ := List.forall_mem_cons.1 decimal
      obtain ⟨d, hd⟩ := Option.isSome_iff_exists.1 here
      rw [List.foldl_cons, hd]
      exact ih later (10 * acc + d)
  obtain ⟨n, hn⟩ := fold 0
  refine ⟨n, ?_⟩
  rw [decimalValue?, if_neg (by simpa using some_digit)]
  exact hn

namespace Token

/-- Placeholders that are read from a state have decimal digits, at least one and nothing else, if
what is pending has nothing else. -/
theorem digits_of_mem_scanFrom {pending : Option (List Char)} {cs digits : List Char}
    (decimal : ∀ ds ∈ pending, ∀ c ∈ ds, Text.isDecimalDigit c = true)
    (mem : placeholder digits ∈ scanFrom pending cs) :
    digits ≠ [] ∧ ∀ c ∈ digits, Text.isDecimalDigit c = true := by
  have closed {ds : List Char} (decimal : ∀ c ∈ ds, Text.isDecimalDigit c = true)
      (h : placeholder digits = close ds) :
      digits ≠ [] ∧ ∀ c ∈ digits, Text.isDecimalDigit c = true := by
    cases ds with
    | nil => cases h
    | cons c ds =>
      cases h
      exact ⟨by simp, fun d hd => decimal d (List.mem_reverse.1 hd)⟩
  have opened : ∀ ds ∈ some ([] : List Char), ∀ c ∈ ds, Text.isDecimalDigit c = true := by simp
  have outside : ∀ ds ∈ (none : Option (List Char)), ∀ c ∈ ds, Text.isDecimalDigit c = true := by
    simp
  fun_induction scanFrom pending cs with
  | case1 => cases mem
  | case2 ds => exact closed (decimal ds rfl) (List.mem_singleton.1 mem)
  | case3 rest ih => exact ih opened mem
  | case4 c rest other ih =>
    rcases List.mem_cons.1 mem with same | mem
    · cases same
    · exact ih outside mem
  | case5 c rest ds digit ih =>
    refine ih (fun _ e => ?_) mem
    cases e
    exact List.forall_mem_cons.2 ⟨digit, decimal ds rfl⟩
  | case6 c rest ds other opens goes_on =>
    rcases List.mem_cons.1 mem with same | mem
    · exact closed (decimal ds rfl) same
    · split at mem
      · exact opens opened mem
      · rcases List.mem_cons.1 mem with same | mem
        · cases same
        · exact goes_on outside mem

/-- A placeholder has decimal digits, at least one and nothing else. -/
theorem digits_of_mem_placeholders {cs digits : List Char} (mem : digits ∈ placeholders cs) :
    digits ≠ [] ∧ ∀ c ∈ digits, Text.isDecimalDigit c = true := by
  obtain ⟨token, ht, hd⟩ := List.mem_filterMap.1 mem
  cases token with
  | plain c => cases hd
  | placeholder ds =>
    cases hd
    exact digits_of_mem_scanFrom (by simp) ht

/-- A placeholder has a number. -/
theorem exists_number {cs digits : List Char} (mem : digits ∈ placeholders cs) :
    ∃ n, Text.decimalValue? digits = some n :=
  let ⟨some_digit, decimal⟩ := digits_of_mem_placeholders mem
  Text.exists_decimalValue? some_digit decimal

end Token

namespace ParamStyle

variable {params : List Value} {digits : List Char} {n : Nat} {v : Value}

/-! ### Lookups -/

/-- The styles that bind by occurrence: their marks have neither a number nor a name. -/
def ByOccurrence (style : ParamStyle) : Prop := style = qmark ∨ style = format

/-- The parameter that a number names when it is looked up: the one at the number less one, counted
from the end for zero. -/
def named? (params : List Value) : Nat → Option Value
  | 0 => params.getLast?
  | n + 1 => params[n]?

/-- A value can be bound for a placeholder: its number is not too long, and not greater than the
number of parameters, of which there is at least one. -/
def Bindable (params : List Value) (digits : List Char) : Prop :=
  digits.length ≤ maxDigits ∧ params ≠ []
    ∧ ∃ n, Text.decimalValue? digits = some n ∧ n ≤ params.length

/-- The element at an index that is not negative. -/
theorem elementAt_natCast {outside : Fault} (size : params.length < listBound) (i : Nat) :
    Value.elementAt outside params i = .ok v ↔ params[i]? = some v := by
  constructor
  · intro h
    have forward : ¬ (i : Int) < 0 := by omega
    simp only [Value.elementAt, if_neg forward, Int.toNat_natCast] at h
    split at h
    · cases h
    · split at h
      · rename_i found
        cases h
        exact found
      · cases h
  · intro h
    have inside : i < params.length := (List.getElem?_eq_some_iff.1 h).1
    exact elementAt_of_getElem? (by omega) h

/-- The element at the index minus one is the last one. -/
theorem elementAt_neg_one {outside : Fault} :
    Value.elementAt outside params (-1) = .ok v ↔ params.getLast? = some v := by
  rcases List.eq_nil_or_concat params with rfl | ⟨front, last, rfl⟩
  · simp [Value.elementAt]
  · rw [List.concat_eq_append, Value.elementAt_last]
    simp

/-- A lookup succeeds with the parameter that the number names. -/
theorem lookup_eq_ok_iff (size : params.length < listBound)
    (number : Text.decimalValue? digits = some n) :
    lookup (.list params) digits = .ok v
      ↔ digits.length ≤ maxDigits ∧ named? params n = some v := by
  rw [lookup]
  split
  · rename_i long
    exact iff_of_false (fun h => by cases h) fun h => absurd h.1 (Nat.not_le.2 long)
  · rename_i short
    rw [number, Option.getD_some, mapError_eq_ok, and_iff_right (Nat.not_lt.1 short)]
    cases n with
    | zero => exact elementAt_neg_one
    | succ n =>
      have index : ((n + 1 : Nat) : Int) - 1 = n := by omega
      simp only [index]
      exact elementAt_natCast size n

/-- Lookups succeed together when each of them does. -/
theorem lookupAll_eq_ok_iff {marks : List (List Char)} {values : List Value} :
    lookupAll (.list params) marks = .ok values
      ↔ List.Forall₂ (fun digits v => lookup (.list params) digits = .ok v) marks values := by
  induction marks generalizing values with
  | nil => simp [lookupAll, eq_comm]
  | cons digits marks ih =>
    rw [lookupAll, bind_eq_ok, List.forall₂_cons_left_iff]
    constructor
    · rintro ⟨v, hv, later⟩
      obtain ⟨vs, hvs, e⟩ := bind_eq_ok.1 later
      cases e
      exact ⟨v, vs, hv, ih.1 hvs, rfl⟩
    · rintro ⟨v, vs, hv, hvs, rfl⟩
      exact ⟨v, hv, bind_eq_ok.2 ⟨vs, ih.2 hvs, rfl⟩⟩

/-- A number names a parameter when it is not greater than their number and there is one. -/
theorem exists_named?_iff : (∃ v, named? params n = some v) ↔ params ≠ [] ∧ n ≤ params.length := by
  rw [← Option.isSome_iff_exists]
  cases n with
  | zero => simp [named?]
  | succ n =>
    rw [named?, isSome_getElem?]
    exact ⟨fun inside => ⟨List.ne_nil_of_length_pos (Nat.zero_lt_of_lt inside), inside⟩,
      fun both => both.2⟩

/-- Which placeholders a value can be found for. -/
theorem exists_lookup_iff (size : params.length < listBound)
    (number : Text.decimalValue? digits = some n) :
    (∃ v, lookup (.list params) digits = .ok v) ↔ Bindable params digits := by
  simp only [lookup_eq_ok_iff size number, exists_and_left, exists_named?_iff, Bindable, number,
    Option.some.injEq, exists_eq_left']

/-- Every placeholder has found its parameter, if a value can be bound for each of them. -/
theorem exists_lookupAll_iff (size : params.length < listBound) (cs : List Char) :
    (∃ values, lookupAll (.list params) (Token.placeholders cs) = .ok values)
      ↔ ∀ digits ∈ Token.placeholders cs, Bindable params digits := by
  have numbered : ∀ digits ∈ Token.placeholders cs, ∃ n, Text.decimalValue? digits = some n :=
    fun digits mem => Token.exists_number mem
  generalize Token.placeholders cs = marks at numbered
  simp only [lookupAll_eq_ok_iff]
  induction marks with
  | nil => simp
  | cons digits marks ih =>
    obtain ⟨⟨n, number⟩, numbered⟩ := List.forall_mem_cons.1 numbered
    have later := ih numbered
    rw [List.forall_mem_cons]
    constructor
    · rintro ⟨values, found⟩
      obtain ⟨v, vs, hv, hvs, rfl⟩ := List.forall₂_cons_left_iff.1 found
      exact ⟨(exists_lookup_iff size number).1 ⟨v, hv⟩, later.1 ⟨vs, hvs⟩⟩
    · rintro ⟨here, rest⟩
      obtain ⟨v, hv⟩ := (exists_lookup_iff size number).2 here
      obtain ⟨vs, hvs⟩ := later.2 rest
      exact ⟨v :: vs, .cons hv hvs⟩

/-! ### Statements -/

/-- A statement is translated to its restyled text with the parameters as its style binds them. -/
theorem translate_eq_ok_iff {style : ParamStyle} {sql text : String} {bound : BoundParams} :
    translate sql (.list params) style.name = .ok (text, bound)
      ↔ style.bind sql.toList (.list params) = .ok bound
        ∧ text = String.ofList (style.restyle (!params.isEmpty) sql.toList) := by
  rw [translate, ofName?_name]
  constructor
  · intro h
    obtain ⟨found, hb, e⟩ := bind_eq_ok.1 h
    cases e
    exact ⟨hb, rfl⟩
  · rintro ⟨hb, rfl⟩
    exact bind_eq_ok.2 ⟨bound, hb, rfl⟩

/-- A style that binds by occurrence looks the parameters of the placeholders up. -/
theorem ByOccurrence.bind_eq {style : ParamStyle} (h : style.ByOccurrence) (cs : List Char) :
    style.bind cs (.list params)
      = (lookupAll (.list params) (Token.placeholders cs)).map .positional := by
  rcases h with rfl | rfl <;> rfl

/-- Dollar marks with numbers are what a statement is written with. -/
theorem restyle_numericDollar (hasParams : Bool) (cs : List Char) :
    numericDollar.restyle hasParams cs = cs := by
  have same (token : Token) :
      numericDollar.writeToken (numericDollar.interpolates && hasParams) token
        = token.spelling := by
    cases token <;> rfl
  rw [restyle, List.flatMap_congr fun token _ => same token, Token.spelling_scan]

/-- **Binding by occurrence**, for every statement and every list of parameters; the size is no
restriction, since every list is smaller.

* The statement is translated if and only if a value can be bound for each of its placeholders: its
  number is not too long and not greater than the number of parameters, of which there is at least
  one.
* Then one value is bound for each placeholder, in order, and it is the parameter that the number
  names: for `$n` the `n`-th one, and for `$0` the last.
* A style with numbered dollar marks leaves the statement alone and binds the parameters in order.

**Proof sketch.**  A placeholder has decimal digits and nothing else, so that it has a number.  The
lookup takes the element at this number less one; that is the one with this number, but for zero it
is the last, since an index is counted from the end when it is negative. -/
theorem occurrences_bound_iff {style : ParamStyle} (occurs : style.ByOccurrence) (sql : String)
    {params : List Value} (size : params.length < listBound) :
    ((∃ text bound, translate sql (.list params) style.name = .ok (text, bound))
        ↔ ∀ digits ∈ Token.placeholders sql.toList, Bindable params digits)
      ∧ (∀ text bound, translate sql (.list params) style.name = .ok (text, bound) →
        text = String.ofList (style.restyle (!params.isEmpty) sql.toList)
          ∧ ∃ values, bound = .positional values
            ∧ List.Forall₂ (fun digits v => ∃ n, Text.decimalValue? digits = some n
                ∧ (1 ≤ n ∧ params[n - 1]? = some v ∨ n = 0 ∧ params.getLast? = some v))
              (Token.placeholders sql.toList) values)
      ∧ translate sql (.list params) numericDollar.name = .ok (sql, .positional params) := by
  refine ⟨?_, fun text bound translated => ?_, ?_⟩
  · rw [← exists_lookupAll_iff size]
    simp only [translate_eq_ok_iff, occurs.bind_eq, map_eq_ok]
    constructor
    · rintro ⟨-, -, ⟨values, found, -⟩, -⟩
      exact ⟨values, found⟩
    · rintro ⟨values, found⟩
      exact ⟨_, _, ⟨values, found, rfl⟩, rfl⟩
  · obtain ⟨hb, written⟩ := translate_eq_ok_iff.1 translated
    rw [occurs.bind_eq] at hb
    obtain ⟨values, found, rfl⟩ := map_eq_ok.1 hb
    refine ⟨written, values, rfl, ?_⟩
    have numbered : ∀ digits ∈ Token.placeholders sql.toList,
        ∃ n, Text.decimalValue? digits = some n := fun digits mem => Token.exists_number mem
    have each := (List.forall₂_and_left _ _).2 ⟨numbered, lookupAll_eq_ok_iff.1 found⟩
    refine each.imp fun digits v => ?_
    rintro ⟨⟨n, number⟩, hv⟩
    refine ⟨n, number, ?_⟩
    have named := ((lookup_eq_ok_iff size number).1 hv).2
    cases n with
    | zero => exact .inr ⟨rfl, named⟩
    | succ n => exact .inl ⟨Nat.succ_pos n, named⟩
  · refine translate_eq_ok_iff.2 ⟨rfl, ?_⟩
    rw [restyle_numericDollar, String.ofList_toList]

/-- A statement that repeats a placeholder, names them out of order and writes one with a zero in
front: a value is bound for each occurrence. -/
theorem occurrences_bound_iff_repeated :
    let sql := "SELECT $2 WHERE a = $01 OR b = $2"
    let params : List Value := [.int 7, .int 8]
    ∃ text values, translate sql (.list params) qmark.name = .ok (text, .positional values)
      ∧ List.Forall₂ (fun digits v => ∃ n, Text.decimalValue? digits = some n
          ∧ (1 ≤ n ∧ params[n - 1]? = some v ∨ n = 0 ∧ params.getLast? = some v))
        [['2'], ['0', '1'], ['2']] values := by
  intro sql params
  have placeholders : Token.placeholders sql.toList = [['2'], ['0', '1'], ['2']] := by decide
  have bindable : ∀ digits ∈ Token.placeholders sql.toList, Bindable params digits := by
    intro digits mem
    rw [placeholders] at mem
    simp only [List.mem_cons, List.not_mem_nil, or_false] at mem
    have given : params ≠ [] := List.cons_ne_nil _ _
    rcases mem with rfl | rfl | rfl
    · exact ⟨by decide, given, 2, by decide, by decide⟩
    · exact ⟨by decide, given, 1, by decide, by decide⟩
    · exact ⟨by decide, given, 2, by decide, by decide⟩
  have occurs : qmark.ByOccurrence := .inl rfl
  have size : params.length < listBound := by decide
  obtain ⟨succeeds, binds, -⟩ := occurrences_bound_iff occurs sql size
  obtain ⟨text, bound, translated⟩ := succeeds.2 bindable
  obtain ⟨-, values, rfl, each⟩ := binds text bound translated
  exact ⟨text, values, translated, placeholders ▸ each⟩

/-- The placeholder `$0` has no parameter of its number, and the last parameter is bound for it. -/
theorem bound_of_zero :
    Token.placeholders "SELECT $0".toList = [['0']] ∧ Text.decimalValue? ['0'] = some 0
      ∧ translate "SELECT $0" (.list [.int 7]) qmark.name
        = .ok ("SELECT ?", .positional [.int 7]) :=
  ⟨by decide, by decide, rfl⟩

end ParamStyle

end QueryChain
