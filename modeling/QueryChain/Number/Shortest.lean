import QueryChain.Number.Binary64

/-!
# The shortest decimal text of a binary number

A finite binary number is written with the fewest digits that read back as the same number.  The
reals that read back form an interval around the number, closed when the mantissa is even.  On each
decimal grid, from one digit to seventeen, the two neighbours of the number are tested against the
interval; the first grid with a hit wins, and of two hits the nearer.

## Main definitions

* `Binary64.shortest` — digits and power of ten of the shortest numeral.
* `Binary64.FloatStyle`, `Binary64.write` — the layout of a number, and the text in a layout.
* `Binary64.plain`, `Binary64.inJson` — the two layouts in use.
* `Binary64.text` — the plain text of a number.
-/

set_option relaxedAutoImplicit false
set_option autoImplicit false

namespace QueryChain.Binary64

/-- Compares `a · 10 ^ k` with `b · 2 ^ e` in integers. -/
def compareScaled (a : Nat) (k : Int) (b : Nat) (e : Int) : Ordering :=
  compare (a * Nat.pow 10 k.toNat * Nat.pow 2 (-e).toNat)
    (b * Nat.pow 2 e.toNat * Nat.pow 10 (-k).toNat)

/-- The power of ten of the leading digit of `m · 2 ^ e`, for positive `m`. -/
def leadingPower (m : Nat) (e : Int) : Int :=
  let num := m * Nat.pow 2 e.toNat
  let den := Nat.pow 2 (-e).toNat
  if den ≤ num then (digitCount (num / den) : Int) - 1
  else -(digitCount ((den - 1) / num) : Int)

/-- Whether `c · 10 ^ k` reads back as `m · 2 ^ e`.  All bounds are taken in quarters of the last
binary place; below a power of two the gap to the lower neighbour is half as wide. -/
def readsBack (m : Nat) (e : Int) (c : Nat) (k : Int) : Bool :=
  let low := if m = Nat.pow 2 52 ∧ -1074 < e then 4 * m - 1 else 4 * m - 2
  let high := 4 * m + 2
  let inside (o : Ordering) (strict : Ordering) := o == strict || (o == .eq && m % 2 == 0)
  inside (compareScaled c k low (e - 2)) .gt && inside (compareScaled c k high (e - 2)) .lt

/-- The numeral of `n` digits that reads back as `m · 2 ^ e` and is nearest to it, if any does. -/
def onGrid? (m : Nat) (e : Int) (n : Nat) : Option (Nat × Int) :=
  let k := leadingPower m e + 1 - n
  let below :=
    m * Nat.pow 2 e.toNat * Nat.pow 10 (-k).toNat / (Nat.pow 2 (-e).toNat * Nat.pow 10 k.toNat)
  let above := below + 1
  match readsBack m e below k, readsBack m e above k with
  | true, false => some (below, k)
  | false, true => some (above, k)
  | false, false => none
  | true, true =>
    match compareScaled (2 * below + 1) k (2 * m) e with
    | .gt => some (below, k)
    | .lt => some (above, k)
    | .eq => some (if below % 2 = 0 then below else above, k)

/-- Drops the trailing zeros of a numeral, at most `fuel` of them. -/
def dropZeros : Nat → Nat × Int → Nat × Int
  | 0, x => x
  | fuel + 1, (c, k) => if c ≠ 0 ∧ c % 10 = 0 then dropZeros fuel (c / 10, k + 1) else (c, k)

/-- The shortest numeral that reads back as `m · 2 ^ e`, for positive `m`. -/
def shortest (m : Nat) (e : Int) : Nat × Int :=
  dropZeros 20 (((List.range 17).findSome? fun i => onGrid? m e (i + 1)).getD (0, 0))

/-- How numbers are laid out: the texts of the special values, and the range of leading powers of
ten that are written without an exponent. -/
structure FloatStyle where
  nanText : String
  infinityText : String
  leastPlain : Int
  greatestPlain : Int

/-- Positional from `10 ^ -4` up to below `10 ^ 16`, else one leading digit and an exponent. -/
def plain : FloatStyle := ⟨"nan", "inf", -4, 15⟩

/-- The same layout with the names that structured logs use for the special values. -/
def inJson : FloatStyle := ⟨"NaN", "Infinity", -4, 15⟩

/-- The exponent part: a sign always, and two digits at least. -/
def exponentText (p : Int) : String :=
  let digits := natText p.natAbs
  (if p < 0 then "e-" else "e+") ++ (if digits.length < 2 then "0" ++ digits else digits)

/-- Lays out `c · 10 ^ k`, with `c` free of trailing zeros. -/
def layOut (style : FloatStyle) (c : Nat) (k : Int) : String :=
  let digits := natChars c
  let lead : Int := digits.length - 1 + k
  if style.leastPlain ≤ lead ∧ lead ≤ style.greatestPlain then
    if 0 ≤ k then String.ofList (digits ++ List.replicate k.toNat '0') ++ ".0"
    else if lead < 0 then
      "0." ++ String.ofList (List.replicate (-lead - 1).toNat '0' ++ digits)
    else
      String.ofList (digits.take (lead.toNat + 1)) ++ "."
        ++ String.ofList (digits.drop (lead.toNat + 1))
  else
    let tail := digits.drop 1
    String.ofList (digits.take 1) ++ (if tail.isEmpty then "" else "." ++ String.ofList tail)
      ++ exponentText lead

/-- The text of a number in a layout. -/
def write (style : FloatStyle) : Binary64 → String
  | nan => style.nanText
  | infinite negative => (if negative then "-" else "") ++ style.infinityText
  | finite negative m e =>
    (if negative then "-" else "") ++
      (if m = 0 then "0.0" else layOut style (shortest m e).1 (shortest m e).2)

/-- The plain text of a number. -/
def text (x : Binary64) : String := x.write plain

/-- The number that a text spells: a numeral, an infinity or not-a-number, in either case of
letters, with an optional sign. -/
def read? (cs : List Char) : Option Binary64 :=
  let (negative, body) := Numeral.takeSign cs
  let lower := String.ofList (body.map Char.toLower)
  if lower = "inf" ∨ lower = "infinity" then some (infinite negative)
  else if lower = "nan" then some nan
  else (Numeral.read? cs).map ofNumeral

end QueryChain.Binary64
