import QueryChain.Text.DecimalDigit

/-!
# Finding placeholders in a statement

A placeholder is a dollar sign with the longest run of decimal digits after it; a dollar sign
without a digit is an ordinary character.  The text is read from left to right, once.

## Main definitions

* `Token` — an ordinary character, or a placeholder with its digits.
* `Token.scan` — the tokens of a text; `Token.spelling` — the characters of a token.
* `Token.placeholders` — the digits of the placeholders of a text, in order.

## Main results

* `Token.spelling_scan` — the tokens of a text spell that text.
* `Token.scan_append_of_plain` — text without a dollar sign in front does not change the rest.
-/

set_option relaxedAutoImplicit false
set_option autoImplicit false

namespace QueryChain

/-- A part of a statement: an ordinary character, or a placeholder with the digits it is written
with. -/
inductive Token where
  | plain (c : Char)
  | placeholder (digits : List Char)
deriving DecidableEq, Repr

namespace Token

/-- What an open dollar sign with the digits read so far, last one first, amounts to. -/
def close (digits : List Char) : Token :=
  if digits.isEmpty then plain '$' else placeholder digits.reverse

/-- Reads tokens; `pending` holds the digits, last one first, behind an open dollar sign. -/
def scanFrom (pending : Option (List Char)) : List Char → List Token
  | [] =>
    match pending with
    | none => []
    | some digits => [close digits]
  | c :: rest =>
    match pending with
    | none => if c = '$' then scanFrom (some []) rest else plain c :: scanFrom none rest
    | some digits =>
      if Text.isDecimalDigit c then scanFrom (some (c :: digits)) rest
      else
        close digits :: if c = '$' then scanFrom (some []) rest else plain c :: scanFrom none rest

/-- The tokens of a text. -/
def scan (cs : List Char) : List Token := scanFrom none cs

/-- The characters of a token. -/
def spelling : Token → List Char
  | plain c => [c]
  | placeholder digits => '$' :: digits

/-- The digits of a placeholder. -/
def digits? : Token → Option (List Char)
  | plain _ => none
  | placeholder digits => some digits

/-- The digits of the placeholders of a text, in order. -/
def placeholders (cs : List Char) : List (List Char) := (scan cs).filterMap digits?

/-- A closed dollar sign spells itself and its digits. -/
theorem spelling_close (digits : List Char) : (close digits).spelling = '$' :: digits.reverse := by
  cases digits <;> simp [close, spelling]

/-- The tokens read from a state spell what is pending and the rest of the text. -/
theorem spelling_scanFrom (pending : Option (List Char)) (cs : List Char) :
    (scanFrom pending cs).flatMap spelling
      = (pending.map fun digits => '$' :: digits.reverse).getD [] ++ cs := by
  induction cs generalizing pending with
  | nil => cases pending <;> simp [scanFrom, spelling_close]
  | cons c rest ih =>
    cases pending with
    | none =>
      by_cases h : c = '$'
      · simp [scanFrom, h, ih]
      · simp [scanFrom, h, ih, spelling]
    | some digits =>
      by_cases hd : Text.isDecimalDigit c = true
      · simp [scanFrom, hd, ih]
      · by_cases h : c = '$'
        · subst h
          simp [scanFrom, hd, ih, spelling_close]
        · have plain_spelling : (plain c).spelling = [c] := rfl
          simp [scanFrom, hd, h, ih, spelling_close, plain_spelling]

/-- The tokens of a text spell that text. -/
theorem spelling_scan (cs : List Char) : (scan cs).flatMap spelling = cs := by
  simp [scan, spelling_scanFrom]

/-- A text without a dollar sign in front of another is read as ordinary characters. -/
theorem scan_append_of_plain {cs : List Char} (h : '$' ∉ cs) (rest : List Char) :
    scan (cs ++ rest) = cs.map plain ++ scan rest := by
  induction cs with
  | nil => simp
  | cons c cs ih =>
    have hc : c ≠ '$' := fun e => h (by simp [e])
    have hr : '$' ∉ cs := fun m => h (List.mem_cons_of_mem _ m)
    have := ih hr
    simp only [scan] at this ⊢
    simp [scanFrom, hc, this]

end Token

end QueryChain
