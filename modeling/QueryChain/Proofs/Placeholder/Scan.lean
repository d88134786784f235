import QueryChain.Number.Numeral
import QueryChain.Placeholder.Scan

/-!
# Scanning texts put together from parts

A scan of two texts one after the other is the scan of each, unless the second one goes on with the
digits of a placeholder that ends the first.

## Main results

* `Token.scan_append` — the scan of a text that does not start with a digit is independent of what
  stands in front of it.
* `Token.scan_dollar` — a dollar sign with digits is one placeholder.
* `Text.decimalValue?_natChars` — the digits of a number spell it.
-/

set_option relaxedAutoImplicit false
set_option autoImplicit false

namespace QueryChain

namespace Token

/-- What is read from a state does not change what is read behind it, unless a digit follows. -/
theorem scanFrom_append (pending : Option (List Char)) (xs : List Char) {ys : List Char}
    (h : ∀ c ∈ ys.head?, Text.isDecimalDigit c = false) :
    scanFrom pending (xs ++ ys) = scanFrom pending xs ++ scan ys := by
  induction xs generalizing pending with
  | nil =>
    cases pending with
    | none => rfl
    | some digits =>
      cases ys with
      | nil => rfl
      | cons c rest =>
        have hc : Text.isDecimalDigit c = false := h c rfl
        simp [scan, scanFrom, hc]
  | cons c rest ih =>
    cases pending with
    | none =>
      by_cases hd : c = '$'
      · simp [scanFrom, hd, ih]
      · simp [scanFrom, hd, ih]
    | some digits =>
      by_cases hc : Text.isDecimalDigit c = true
      · simp [scanFrom, hc, ih]
      · by_cases hd : c = '$'
        · subst hd
          simp [scanFrom, hc, ih]
        · simp [scanFrom, hc, hd, ih]

/-- Scanning two texts one after the other, where the second does not start with a digit. -/
theorem scan_append (xs : List Char) {ys : List Char}
    (h : ∀ c ∈ ys.head?, Text.isDecimalDigit c = false) : scan (xs ++ ys) = scan xs ++ scan ys :=
  scanFrom_append none xs h

/-- Digits behind an open dollar sign are read to their end. -/
theorem scanFrom_digits (pending : List Char) {digits : List Char}
    (h : ∀ c ∈ digits, Text.isDecimalDigit c = true) :
    scanFrom (some pending) digits = [close (digits.reverse ++ pending)] := by
  induction digits generalizing pending with
  | nil => rfl
  | cons c rest ih =>
    have hc := h c List.mem_cons_self
    have hrest := ih (c :: pending) fun d hd => h d (List.mem_cons_of_mem _ hd)
    simp [scanFrom, hc, hrest]

/-- A dollar sign with digits is one placeholder. -/
theorem scan_dollar {digits : List Char} (some_digit : digits ≠ [])
    (h : ∀ c ∈ digits, Text.isDecimalDigit c = true) :
    scan ('$' :: digits) = [placeholder digits] := by
  have read := scanFrom_digits [] h
  simp [scan, scanFrom, read, close, some_digit]

end Token

/-! ### Numbers as digits -/

namespace Text

/-- ASCII digits are decimal digits. -/
theorem isDecimalDigit_of_isDigit {c : Char} (h : c.isDigit = true) : isDecimalDigit c = true := by
  rw [isDecimalDigit, decimalDigit?_ascii c h]
  rfl

/-- The digits of a number are ASCII digits. -/
theorem isDigit_of_mem_natChars {c : Char} {n : Nat} (h : c ∈ natChars n) : c.isDigit = true :=
  Nat.isDigit_of_mem_toDigits (by decide) (by decide) h

/-- The digits of a number spell it. -/
theorem decimalValue?_natChars (n : Nat) : decimalValue? (natChars n) = some n := by
  have fold (cs : List Char) (ascii : ∀ c ∈ cs, c.isDigit = true) (acc : Nat) :
      cs.foldl (fun acc c => do return 10 * (← acc) + (← decimalDigit? c)) (some acc)
        = some (Nat.ofDigitChars 10 cs acc) := by
    induction cs generalizing acc with
    | nil => rfl
    | cons c cs ih =>
      have hc := decimalDigit?_ascii c (ascii c List.mem_cons_self)
      have step := ih (fun d hd => ascii d (List.mem_cons_of_mem _ hd)) (10 * acc + (c.toNat - 48))
      rw [List.foldl_cons, hc]
      exact step
  have nonempty : (natChars n).isEmpty = false := by simp [natChars]
  rw [decimalValue?, nonempty, if_neg (by decide),
    fold _ (fun c hc => isDigit_of_mem_natChars hc) 0, natChars, Nat.ofDigitChars_ten_toDigits]

/-- A number is known by its digits. -/
theorem natChars_inj {m n : Nat} (h : natChars m = natChars n) : m = n := by
  have values := congrArg decimalValue? h
  rw [decimalValue?_natChars, decimalValue?_natChars] at values
  exact Option.some.inj values

end Text

end QueryChain
