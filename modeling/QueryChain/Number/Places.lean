import QueryChain.Number.Calendar
import QueryChain.Number.Shortest

/-!
# Numbers with a given count of digits

The text of a number with a fixed count of places behind the point, or with a fixed count of
significant digits and an exponent.  The digits are those of the exact value, rounded once; a half
goes to the even neighbour.

## Main definitions

* `Binary64.Layout` — fixed places, an exponent, or whichever is shorter.
* `Binary64.laidOut` — the text of a number in a layout, without its sign.
-/

set_option relaxedAutoImplicit false
set_option autoImplicit false

namespace QueryChain.Binary64

/-- How a number with a given count of digits is laid out. -/
inductive Layout where
  | fixed
  | exponent
  | general
deriving DecidableEq, Repr

/-- Digits with a point in front of the last `places`; without places the point is written only if
it is to be kept. -/
def withPoint (keepPoint : Bool) (places n : Nat) : String :=
  let digits := (padded (places + 1) n).toList
  let whole := digits.take (digits.length - places)
  String.ofList whole
    ++ (if places = 0 then (if keepPoint then "." else "")
        else "." ++ String.ofList (digits.drop (digits.length - places)))

/-- `m · 2 ^ e` times `10 ^ k`, rounded to an integer. -/
def scaledBy (m : Nat) (e k : Int) : Nat :=
  roundHalfEven (m * Nat.pow 2 e.toNat * Nat.pow 10 k.toNat)
    (Nat.pow 2 (-e).toNat * Nat.pow 10 (-k).toNat)

/-- The first `n + 1` digits of `m · 2 ^ e`, and the power of ten of the leading one. -/
def significant (m : Nat) (e : Int) (n : Nat) : Nat × Int :=
  if m = 0 then (0, 0)
  else
    let p := leadingPower m e
    let c := scaledBy m e (n - p)
    if c < Nat.pow 10 (n + 1) then (c, p) else (Nat.pow 10 n, p + 1)

/-- A text without the zeros at its end, and without a point that these leave at the end. -/
def withoutEndZeros (s : String) : String :=
  if s.toList.contains '.' then
    let kept := s.toList.reverse.dropWhile (· = '0')
    String.ofList (kept.dropWhile (· = '.')).reverse
  else s

/-- The text of `m · 2 ^ e` in a layout, with `count` digits.  The general layout counts significant
digits, writes an exponent for powers of ten below `-4` and from `count` on, and drops zeros at the
end unless the point is to be kept. -/
def finiteLaidOut (layout : Layout) (keepPoint : Bool) (count m : Nat) (e : Int) : String :=
  match layout with
  | .fixed => withPoint keepPoint count (scaledBy m e count)
  | .exponent =>
    let (c, p) := significant m e count
    withPoint keepPoint count c ++ exponentText p
  | .general =>
    let digits := max count 1
    let (c, p) := significant m e (digits - 1)
    let trimmed (s : String) := if keepPoint then s else withoutEndZeros s
    if -4 ≤ p ∧ p < digits then
      let places := (digits - 1 - p).toNat
      trimmed (withPoint keepPoint places (scaledBy m e places))
    else trimmed (withPoint keepPoint (digits - 1) c) ++ exponentText p

/-- The text of a number in a layout, without its sign. -/
def laidOut (layout : Layout) (keepPoint : Bool) (count : Nat) : Binary64 → String
  | nan => "nan"
  | infinite _ => "inf"
  | finite _ m e => finiteLaidOut layout keepPoint count m e

/-- Whether a number is written with a minus sign. -/
def isNegative : Binary64 → Bool
  | nan => false
  | infinite negative => negative
  | finite negative _ _ => negative

end QueryChain.Binary64
