import Mathlib.Data.List.Nodup
import QueryChain.Placeholder.Style
import QueryChain.Proofs.Placeholder.Scan
import QueryChain.Proofs.Value.Fields

/-!
# Numbered parameters in every style

The placeholders of a compiled statement are numbered from one.  For such numbers, the marks of a
style are given by a table, looking the parameters up by occurrence gives them back in order, and
naming them gives every parameter a key of its own.

## Main definitions

* `ParamStyle.key`, `ParamStyle.numbered` — the key and the mark of a number.
* `ParamStyle.Binds` — parameters in the shape that a style binds.
* `ParamStyle.listBound` — a bound on the size of lists.

## Main results

* `ParamStyle.lookupAll_numerals` — numbers that follow each other give the parameters in order.
* `ParamStyle.nodup_namedFrom`, `ParamStyle.get?_namedFrom` — the keys differ, and each has its
  parameter.
* `ParamStyle.exists_binds` — every style binds numbered parameters as it should.
-/

set_option relaxedAutoImplicit false
set_option autoImplicit false

namespace QueryChain.ParamStyle

/-- The key of a number. -/
def key (n : Nat) : String := "p" ++ natText n

/-- The mark of a style for a number. -/
def numbered (style : ParamStyle) (n : Nat) : String :=
  match style with
  | numericDollar => "$" ++ natText n
  | qmark => "?"
  | numeric => ":" ++ natText n
  | named => ":" ++ key n
  | format => "%s"
  | pyformat => "%(" ++ key n ++ ")s"

/-- Parameters in the shape that a style binds: all of them in order, or each under the key of its
number. -/
def Binds (style : ParamStyle) (params : List Value) (bound : BoundParams) : Prop :=
  match style with
  | numericDollar | qmark | numeric | format => bound = .positional params
  | named | pyformat =>
    ∃ fields : Fields, bound = .named fields
      ∧ fields.map Prod.fst = (List.range' 1 params.length).map key
      ∧ (fields.map Prod.fst).Nodup
      ∧ ∀ j < params.length, fields.get? (key (j + 1)) = params[j]?

/-- The mark of a number is the mark of its digits. -/
theorem toList_numbered (style : ParamStyle) (n : Nat) :
    (style.numbered n).toList = style.mark (natChars n) := by
  cases style <;> simp [numbered, mark, key, natText]

/-! ### By occurrence -/

/-- More elements than any list has, since every index fits a machine word with sign. -/
def listBound : Nat := 9223372036854775808

/-- Every number that fits an index has few enough digits. -/
theorem length_natChars_le {n : Nat} (h : n ≤ listBound) : (natChars n).length ≤ maxDigits := by
  have short : (natChars n).length ≤ 19 :=
    (Nat.length_toDigits_le_iff (by decide) (by decide)).2 (Nat.lt_of_le_of_lt h (by decide))
  exact Nat.le_trans short (by decide)

/-- The element at a position of a list. -/
theorem elementAt_of_getElem? {outside : Fault} {xs : List Value} {i : Nat} {v : Value}
    (small : i < listBound) (h : xs[i]? = some v) : Value.elementAt outside xs i = .ok v := by
  have in_range : ¬ ((i : Int) < -9223372036854775808 ∨ 9223372036854775808 ≤ (i : Int)) := by
    rw [listBound] at small
    omega
  have forward : ¬ (i : Int) < 0 := by omega
  simp only [Value.elementAt, if_neg in_range, if_neg forward, Int.toNat_natCast, h]

/-- The parameter of a number. -/
theorem lookup_natChars {params : List Value} {n : Nat} {v : Value}
    (small : params.length < listBound) (h : params[n]? = some v) :
    lookup (.list params) (natChars (n + 1)) = .ok v := by
  have inside : n < params.length := (List.getElem?_eq_some_iff.1 h).1
  have digits : ¬ maxDigits < (natChars (n + 1)).length :=
    Nat.not_lt.2 (length_natChars_le (by omega))
  have index : ((n + 1 : Nat) : Int) - 1 = n := by omega
  have element : Value.elementAt .listIndex params n = .ok v :=
    elementAt_of_getElem? (by omega) h
  rw [lookup, if_neg digits, Text.decimalValue?_natChars, Option.getD_some]
  simp only [index, Value.part, Value.index?, element]
  rfl

/-- Numbers that follow each other give the parameters in order. -/
theorem lookupAll_numerals (before after : List Value)
    (small : (before ++ after).length < listBound) :
    lookupAll (.list (before ++ after))
      ((List.range' (before.length + 1) after.length).map natChars) = .ok after := by
  induction after generalizing before with
  | nil => rfl
  | cons v after ih =>
    have here : (before ++ v :: after)[before.length]? = some v := by simp
    have found := lookup_natChars small here
    have regrouped : before ++ [v] ++ after = before ++ v :: after := by simp
    have later := ih (before ++ [v]) (by rw [regrouped]; exact small)
    rw [regrouped, List.length_append, List.length_singleton] at later
    rw [List.length_cons, List.range'_succ, List.map_cons, lookupAll, found, later]
    rfl

/-! ### By name -/

/-- Different numbers have different keys. -/
theorem key_injective : Function.Injective key := by
  intro m n same
  have texts := congrArg String.toList same
  exact Text.natChars_inj (by simpa [key, natText] using texts)

/-- The keys of named parameters, in order. -/
theorem map_fst_namedFrom (index : Nat) (vs : List Value) :
    (namedFrom index vs).map Prod.fst = (List.range' index vs.length).map key := by
  induction vs generalizing index with
  | nil => rfl
  | cons v vs ih =>
    rw [namedFrom, List.map_cons, ih, List.length_cons, List.range'_succ, List.map_cons, key]

/-- The keys of named parameters differ. -/
theorem nodup_namedFrom (index : Nat) (vs : List Value) :
    ((namedFrom index vs).map Prod.fst).Nodup := by
  rw [map_fst_namedFrom]
  exact (List.nodup_range').map key_injective

/-- Every parameter is found under its key. -/
theorem get?_namedFrom (index : Nat) (vs : List Value) (j : Nat) :
    (namedFrom index vs).get? (key (index + j)) = vs[j]? := by
  induction vs generalizing index j with
  | nil => rfl
  | cons v vs ih =>
    cases j with
    | zero => simp [namedFrom, Fields.get?, key]
    | succ j =>
      have other : (key (index + (j + 1)) == "p" ++ natText index) = false := by
        refine beq_false_of_ne fun same => ?_
        have equal := @key_injective (index + (j + 1)) index same
        omega
      have later := ih (index + 1) j
      rw [show index + 1 + j = index + (j + 1) by omega] at later
      rw [namedFrom, Fields.get?, List.lookup_cons, other, List.getElem?_cons_succ]
      exact later

/-! ### Every style -/

/-- A text whose placeholders are numbered from one, in order, gets its parameters bound as the
style asks for. -/
theorem exists_binds (style : ParamStyle) {cs : List Char} {params : List Value}
    (small : params.length < listBound)
    (numbers : Token.placeholders cs = (List.range' 1 params.length).map natChars) :
    ∃ bound, style.bind cs (.list params) = .ok bound ∧ style.Binds params bound := by
  have by_occurrence : lookupAll (.list params) (Token.placeholders cs) = .ok params := by
    rw [numbers]
    exact lookupAll_numerals [] params small
  have by_name : ∃ fields : Fields, BoundParams.named (namedFrom 1 params) = .named fields
      ∧ fields.map Prod.fst = (List.range' 1 params.length).map key
      ∧ (fields.map Prod.fst).Nodup
      ∧ ∀ j < params.length, fields.get? (key (j + 1)) = params[j]? := by
    refine ⟨namedFrom 1 params, rfl, map_fst_namedFrom 1 params, nodup_namedFrom 1 params, ?_⟩
    intro j _
    rw [Nat.add_comm j 1]
    exact get?_namedFrom 1 params j
  cases style with
  | numericDollar => exact ⟨_, rfl, rfl⟩
  | numeric => exact ⟨_, rfl, rfl⟩
  | qmark => exact ⟨.positional params, by rw [bind, by_occurrence]; rfl, rfl⟩
  | format => exact ⟨.positional params, by rw [bind, by_occurrence]; rfl, rfl⟩
  | named => exact ⟨.named (namedFrom 1 params), rfl, by_name⟩
  | pyformat => exact ⟨.named (namedFrom 1 params), rfl, by_name⟩

end QueryChain.ParamStyle
