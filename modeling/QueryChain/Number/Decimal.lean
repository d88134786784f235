import QueryChain.Number.Numeral
import QueryChain.Text.Blank
import QueryChain.Text.DecimalDigit

/-!
# Decimal numbers

Decimal numbers keep their trailing zeros: `12.50` is the coefficient `1250` with exponent `-2`.
Besides the finite numbers there are two infinities, and not-a-number in a quiet and in a signaling
form, either of which may carry digits.

## Main definitions

* `Decimal` — a sign, a coefficient and a power of ten, or a special value.
* `Decimal.read?`, `Decimal.text` — reading and writing.
* `Decimal.inRange` — whether the exponent of a number is one that numbers can have.
* `Decimal.ratio?`, `Decimal.toInt?` — the exact value, and the integer it may be.
-/

set_option relaxedAutoImplicit false
set_option autoImplicit false

namespace QueryChain

/-- A decimal number `± coefficient · 10 ^ exponent`, an infinity, or not-a-number with the digits
it carries, zero for none. -/
inductive Decimal where
  | finite (negative : Bool) (coefficient : Nat) (exponent : Int)
  | infinite (negative : Bool)
  | nan (negative signaling : Bool) (payload : Nat)
deriving DecidableEq, Repr

namespace Decimal

/-- The ASCII character that stands for a character of a numeral: digits of every script count. -/
def plainChar? (c : Char) : Option Char :=
  if c.toNat < 0x80 then some c
  else (Text.decimalDigit? c).map fun d => Char.ofNat (48 + d)

/-- The characters of a numeral without blanks around them and without underscores. -/
def plainChars? (s : String) : Option (List Char) :=
  ((Text.stripChars s.toList).filter (· != '_')).mapM plainChar?

/-- What follows a name that stands in front, in either case of letters. -/
def afterName? (name : String) (cs : List Char) : Option (List Char) :=
  if name.toList.isPrefixOf (cs.map Char.toLower) then some (cs.drop name.length) else none

/-- Not-a-number with the digits that follow its name. -/
def nanOf? (negative signaling : Bool) (digits : List Char) : Option Decimal :=
  if digits.all Char.isDigit then some (nan negative signaling (digitsValue digits)) else none

/-- Reads a numeral or the name of a special value. -/
def read? (s : String) : Option Decimal := do
  let cs ← plainChars? s
  let (negative, body) := Numeral.takeSign cs
  let lower := String.ofList (body.map Char.toLower)
  if lower = "inf" ∨ lower = "infinity" then some (infinite negative)
  else
    match afterName? "nan" body, afterName? "snan" body with
    | some digits, _ => nanOf? negative false digits
    | none, some digits => nanOf? negative true digits
    | none, none => (Numeral.read? cs).map fun x => finite x.negative x.digits x.exponent

/-- Scientific text: positional while the exponent is not positive and at most five zeros follow
the point, otherwise one digit before the point and the exponent after `E`. -/
def text : Decimal → String
  | infinite negative => (if negative then "-" else "") ++ "Infinity"
  | nan negative signaling payload =>
    (if negative then "-" else "") ++ (if signaling then "sNaN" else "NaN")
      ++ (if payload = 0 then "" else natText payload)
  | finite negative c e =>
    let digits := natChars c
    let left : Int := e + digits.length
    let point : Int := if e ≤ 0 ∧ -6 < left then left else 1
    let whole :=
      if point ≤ 0 then ['0']
      else digits.take point.toNat ++ List.replicate (point.toNat - digits.length) '0'
    let fraction :=
      if point ≤ 0 then List.replicate (-point).toNat '0' ++ digits else digits.drop point.toNat
    (if negative then "-" else "") ++ String.ofList whole
      ++ (if fraction.isEmpty then "" else "." ++ String.ofList fraction)
      ++ (if left = point then ""
          else "E" ++ (if left < point then "-" else "+") ++ natText (left - point).natAbs)

/-- The greatest power of ten of a leading digit. -/
def greatestPower : Int := 999999999999999999

/-- The least exponent. -/
def leastExponent : Int := -1999999999999999997

/-- Whether the exponent of a number is one that numbers can have. -/
def inRange : Decimal → Bool
  | finite _ c e =>
    decide (leastExponent ≤ e ∧ e + (digitCount c : Int) - (if c = 0 then 0 else 1) ≤ greatestPower)
  | _ => true

/-- Whether a decimal number is zero. -/
def isZero : Decimal → Bool
  | finite _ c _ => c == 0
  | _ => false

/-- Whether a decimal number is not-a-number in its signaling form. -/
def isSignaling : Decimal → Bool
  | nan _ signaling _ => signaling
  | _ => false

/-- The exact value of a finite number as a signed numerator over a positive denominator. -/
def ratio? : Decimal → Option (Int × Nat)
  | finite negative c e =>
    let (n, d) := if 0 ≤ e then (c * Nat.pow 10 e.toNat, 1) else (c, Nat.pow 10 (-e).toNat)
    some (if negative then -(n : Int) else n, d)
  | _ => none

/-- The integer that a finite decimal number equals, if its value is whole. -/
def toInt? (d : Decimal) : Option Int :=
  match d.ratio? with
  | some (n, m) => if n % m = 0 then some (n / m) else none
  | none => none

end Decimal

end QueryChain
