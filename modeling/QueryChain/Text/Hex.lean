import QueryChain.Text.Blank

/-!
# Hexadecimal digits

Numbers and bytes in hexadecimal.

## Main definitions

* `Text.hexDigit?`, `Text.hexPadded` — the value of a digit, and a number in digits.
* `Text.hexBytes` — the bytes that pairs of digits spell.
* `Text.hexText` — bytes as pairs of digits.
-/

set_option relaxedAutoImplicit false
set_option autoImplicit false

namespace QueryChain.Text

/-- The value of a hexadecimal digit. -/
def hexDigit? (c : Char) : Option Nat :=
  if c.isDigit then some (c.toNat - 48)
  else if 'a' ≤ c ∧ c ≤ 'f' then some (c.toNat - 87)
  else if 'A' ≤ c ∧ c ≤ 'F' then some (c.toNat - 55)
  else none

/-- The lower-case hexadecimal digits of a number, with leading zeros up to a width. -/
def hexPadded (width n : Nat) : String :=
  let digits := Nat.toDigits 16 n
  String.ofList (List.replicate (width - digits.length) '0' ++ digits)

/-- The bytes that pairs of digits spell, from a position on, or the position of the first character
that does not fit.  Blanks may stand between the pairs. -/
def hexBytesFrom (position : Nat) : List Char → Except Nat (List UInt8)
  | [] => .ok []
  | a :: rest =>
    if a.toNat = 0x20 ∨ (9 ≤ a.toNat ∧ a.toNat ≤ 13) then hexBytesFrom (position + 1) rest
    else
      match hexDigit? a, rest with
      | none, _ => .error position
      | some _, [] => .error (position + 1)
      | some high, b :: more =>
        match hexDigit? b with
        | none => .error (position + 1)
        | some low =>
          (hexBytesFrom (position + 2) more).map (UInt8.ofNat (high * 16 + low) :: ·)

/-- The bytes that pairs of digits spell, or the position of a character that does not fit.  A
character outside ASCII is found first. -/
def hexBytes (s : String) : Except Nat (List UInt8) :=
  match s.toList.findIdx? fun c => decide (0x80 ≤ c.toNat) with
  | some position => .error position
  | none => hexBytesFrom 0 s.toList

/-- Bytes as pairs of digits. -/
def hexText (bs : List UInt8) : String := String.join (bs.map fun b => hexPadded 2 b.toNat)

end QueryChain.Text
