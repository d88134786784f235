import QueryChain.Number.Numeral

/-!
# Binary floating point numbers

The 64-bit numbers of the interchange format, kept as exact values: a sign, a mantissa below
`2 ^ 53` and a power of two.  Everything is decided in integer arithmetic.

## Main definitions

* `Binary64` — not-a-number, the two infinities, and the finite numbers.
* `Binary64.ofRatio` — the number nearest to a quotient, a tie going to the even mantissa.
* `Binary64.ofNumeral`, `Binary64.ofInt` — the number nearest to a numeral and to an integer.
* `Binary64.ratio?`, `Binary64.toInt?` — the exact value, and the integer it may be.
-/

set_option relaxedAutoImplicit false
set_option autoImplicit false

namespace QueryChain

/-- A 64-bit floating point number.  A finite number is `± mantissa · 2 ^ exponent`; its mantissa
has 53 bits unless the exponent is the least one, `-1074`. -/
inductive Binary64 where
  | nan
  | infinite (negative : Bool)
  | finite (negative : Bool) (mantissa : Nat) (exponent : Int)
deriving DecidableEq, Repr, Inhabited

namespace Binary64

/-- The integer nearest to `num / den`; a half goes to the even neighbour. -/
def roundHalfEven (num den : Nat) : Nat :=
  if den < 2 * (num % den) ∨ (2 * (num % den) = den ∧ num / den % 2 = 1) then num / den + 1
  else num / den

/-- The quotient `num / den` divided by `2 ^ e`, as a pair of naturals. -/
def scaleDown (num den : Nat) (e : Int) : Nat × Nat :=
  if 0 ≤ e then (num, den * Nat.pow 2 e.toNat) else (num * Nat.pow 2 (-e).toNat, den)

/-- The number nearest to `num / den` with the given sign.  The exponent is the one that leaves 53
bits, but not below `-1074`; past the largest finite number the result is infinite. -/
def ofRatio (negative : Bool) (num den : Nat) : Binary64 :=
  if num = 0 ∨ den = 0 then finite negative 0 (-1074)
  else
    let guess : Int := (Nat.log2 num : Int) - Nat.log2 den - 53
    let (n₀, d₀) := scaleDown num den guess
    let exact : Int := if Nat.pow 2 53 ≤ n₀ / d₀ then guess + 1 else guess
    let e := max exact (-1074)
    let (n, d) := scaleDown num den e
    let m := roundHalfEven n d
    let (m, e) := if m = Nat.pow 2 53 then (Nat.pow 2 52, e + 1) else (m, e)
    if 971 < e then infinite negative else finite negative m e

/-- The number nearest to a numeral.  Powers of ten far outside the range are not computed. -/
def ofNumeral (x : Numeral) : Binary64 :=
  if x.digits = 0 then finite x.negative 0 (-1074)
  else
    let magnitude : Int := digitCount x.digits + x.exponent
    if 400 < magnitude then infinite x.negative
    else if magnitude < -400 then finite x.negative 0 (-1074)
    else if 0 ≤ x.exponent then ofRatio x.negative (x.digits * Nat.pow 10 x.exponent.toNat) 1
    else ofRatio x.negative x.digits (Nat.pow 10 (-x.exponent).toNat)

/-- The number nearest to an integer. -/
def ofInt (n : Int) : Binary64 := ofRatio (decide (n < 0)) n.natAbs 1

/-- The zero without a sign. -/
def zero : Binary64 := finite false 0 (-1074)

/-- Whether a number is one of the two zeros. -/
def isZero : Binary64 → Bool
  | finite _ m _ => m == 0
  | _ => false

/-- Whether a number is neither infinite nor not-a-number. -/
def isFinite : Binary64 → Bool
  | finite .. => true
  | _ => false

/-- The exact value of a finite number as a signed numerator over a positive denominator. -/
def ratio? : Binary64 → Option (Int × Nat)
  | finite negative m e =>
    let (n, d) := if 0 ≤ e then (m * Nat.pow 2 e.toNat, 1) else (m, Nat.pow 2 (-e).toNat)
    some (if negative then -(n : Int) else n, d)
  | _ => none

/-- The integer that a finite number equals, if its value is whole. -/
def toInt? (x : Binary64) : Option Int :=
  match x.ratio? with
  | some (n, d) => if n % d = 0 then some (n / d) else none
  | none => none

/-- Whether a number is greater than zero; not-a-number is not. -/
def isPositive : Binary64 → Bool
  | nan => false
  | infinite negative => !negative
  | finite negative m _ => !negative && decide (0 < m)

end Binary64

end QueryChain
