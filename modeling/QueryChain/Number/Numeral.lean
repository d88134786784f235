/-!
# Decimal numerals

Reading and writing of numbers in decimal: integers in full, and numerals with a fraction and an
exponent as an exact pair of digits and power of ten.

## Main definitions

* `Numeral` — sign, digits and power of ten of a decimal numeral.
* `Numeral.read?` — the numeral that a list of characters spells.
* `Numeral.compare` — the order of numerals by value.
* `digitCount` — how many decimal digits a number has.
* `natChars`, `intText` — a natural number and an integer in decimal.
-/

set_option relaxedAutoImplicit false
set_option autoImplicit false

namespace QueryChain

/-- A decimal numeral: `digits · 10 ^ exponent`, with a sign that zero keeps too. -/
structure Numeral where
  negative : Bool
  digits : Nat
  exponent : Int
deriving DecidableEq, Repr

/-- The number spelled by ASCII digits; other characters must not occur. -/
def digitsValue (cs : List Char) : Nat :=
  cs.foldl (fun acc c => 10 * acc + (c.toNat - 48)) 0

/-- The decimal digits of a natural number. -/
def natChars (n : Nat) : List Char := Nat.toDigits 10 n

/-- A natural number in decimal. -/
def natText (n : Nat) : String := String.ofList (natChars n)

/-- An integer in decimal, with a minus sign when it is negative. -/
def intText (n : Int) : String :=
  if n < 0 then "-" ++ natText n.natAbs else natText n.natAbs

/-- How many decimal digits a number has; zero has none. -/
def digitCount (n : Nat) : Nat := if n = 0 then 0 else (natChars n).length

namespace Numeral

/-- Takes one optional sign from the front. -/
def takeSign : List Char → Bool × List Char
  | '-' :: rest => (true, rest)
  | '+' :: rest => (false, rest)
  | cs => (false, cs)

/-- Reads an exponent mark with its integer, or nothing at the end of the text. -/
def readExponent? : List Char → Option Int
  | [] => some 0
  | c :: rest =>
    if c = 'e' ∨ c = 'E' then
      let (negative, digits) := takeSign rest
      if digits.isEmpty ∨ ¬ digits.all Char.isDigit then none
      else some (if negative then -(digitsValue digits : Int) else digitsValue digits)
    else none

/-- Reads a numeral: an optional sign, digits with at most one point among or around them, and an
optional exponent.  At least one digit stands before the exponent. -/
def read? (cs : List Char) : Option Numeral :=
  let (negative, body) := takeSign cs
  let whole := body.takeWhile Char.isDigit
  let rest := body.dropWhile Char.isDigit
  let (fraction, tail) :=
    match rest with
    | '.' :: more => (more.takeWhile Char.isDigit, more.dropWhile Char.isDigit)
    | _ => ([], rest)
  if whole.isEmpty ∧ fraction.isEmpty then none
  else (readExponent? tail).map fun e =>
    ⟨negative, digitsValue (whole ++ fraction), e - fraction.length⟩

/-- The numeral of an integer. -/
def ofInt (n : Int) : Numeral := ⟨decide (n < 0), n.natAbs, 0⟩

/-- The order of numerals by size, whatever their signs.  The places of the leading digits decide
first, so that powers of ten are raised only as far as the digits reach. -/
def compareSize (x y : Numeral) : Ordering :=
  if x.digits = 0 ∨ y.digits = 0 then Ord.compare x.digits y.digits
  else
    match Ord.compare (digitCount x.digits + x.exponent) (digitCount y.digits + y.exponent) with
    | .eq =>
      Ord.compare (x.digits * Nat.pow 10 (x.exponent - y.exponent).toNat)
        (y.digits * Nat.pow 10 (y.exponent - x.exponent).toNat)
    | order => order

/-- The order of numerals by value; the two zeros are equal. -/
def compare (x y : Numeral) : Ordering :=
  if x.digits = 0 ∧ y.digits = 0 then .eq
  else
    match x.negative, y.negative with
    | false, false => compareSize x y
    | true, true => compareSize y x
    | true, false => .lt
    | false, true => .gt

end Numeral

end QueryChain
