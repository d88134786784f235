import QueryChain.Number.Binary64
import QueryChain.Number.Decimal

/-!
# Numbers of every kind on one line

Integers, floating numbers and decimal numbers are compared by value, whatever their kind.  Each of
them is a numeral, one of the two infinities, or not-a-number; a binary fraction is a numeral too,
since `2 ^ -1` is `5 · 10 ^ -1`.

## Main definitions

* `Extended` — numerals, infinities and not-a-number.
* `Extended.ofBinary64`, `Extended.ofDecimal` — where a number of a kind lies.
* `Extended.compare?` — the order of two of them, unless one is not-a-number.
-/

set_option relaxedAutoImplicit false
set_option autoImplicit false

namespace QueryChain

/-- A numeral, an infinity, or not-a-number. -/
inductive Extended where
  | nan
  | infinite (negative : Bool)
  | finite (x : Numeral)
deriving DecidableEq, Repr

namespace Extended

/-- Where a floating number lies. -/
def ofBinary64 : Binary64 → Extended
  | .nan => nan
  | .infinite negative => infinite negative
  | .finite negative m e =>
    if 0 ≤ e then finite ⟨negative, m * Nat.pow 2 e.toNat, 0⟩
    else finite ⟨negative, m * Nat.pow 5 (-e).toNat, e⟩

/-- Where a decimal number lies. -/
def ofDecimal : Decimal → Extended
  | .nan .. => nan
  | .infinite negative => infinite negative
  | .finite negative c e => finite ⟨negative, c, e⟩

/-- The order of two numbers, unless one of them is not-a-number. -/
def compare? : Extended → Extended → Option Ordering
  | nan, _ | _, nan => none
  | infinite a, infinite b => some (if a = b then .eq else if a then .lt else .gt)
  | infinite a, finite _ => some (if a then .lt else .gt)
  | finite _, infinite b => some (if b then .gt else .lt)
  | finite x, finite y => some (x.compare y)

end Extended

end QueryChain
