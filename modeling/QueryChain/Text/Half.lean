/-!
# Halves of pairs

A text given by units of sixteen bits may hold half of a pair that stands alone.  No character
encodes such a unit, so it is kept as a character of its own: the one of the last private plane
whose number ends in the digits of the unit.

## Main definitions

* `Text.ofCode` — the character of a code point or of a half.
* `Text.half?`, `Text.code` — the half that a character stands for, and the number of a character.
* `Text.hasHalf`, `Text.firstHalves?` — whether a text holds a half, and where the first ones are.
-/

set_option relaxedAutoImplicit false
set_option autoImplicit false

namespace QueryChain.Text

/-- Whether a unit is the first half of a pair. -/
def isHighHalf (n : Nat) : Bool := decide (0xD800 ≤ n ∧ n < 0xDC00)

/-- Whether a unit is the second half of a pair. -/
def isLowHalf (n : Nat) : Bool := decide (0xDC00 ≤ n ∧ n < 0xE000)

/-- The character of a code point; a half has one in the last private plane. -/
def ofCode (n : Nat) : Char :=
  if 0xD800 ≤ n ∧ n < 0xE000 then Char.ofNat (0x100000 + n) else Char.ofNat n

/-- The half that a character stands for. -/
def half? (c : Char) : Option Nat :=
  if 0x10D800 ≤ c.toNat ∧ c.toNat < 0x10E000 then some (c.toNat - 0x100000) else none

/-- The number of a character: its code point, or the half that it stands for. -/
def code (c : Char) : Nat := (half? c).getD c.toNat

/-- The numbers of the characters of a text. -/
def codes (s : String) : List Nat := s.toList.map code

/-- Whether a text holds a half. -/
def hasHalf (s : String) : Bool := s.toList.any fun c => (half? c).isSome

/-- Whether a half may stand for a byte that belongs to no character. -/
def isByteHalf (n : Nat) : Bool := decide (0xDC80 ≤ n ∧ n ≤ 0xDCFF)

/-- The first half that may not be skipped, in characters from a position on: where it is, where the
halves that stand with it end, and the half. -/
def firstHalves? (skip : Nat → Bool) (position : Nat) : List Char → Option (Nat × Nat × Nat)
  | [] => none
  | c :: rest =>
    match half? c with
    | none => firstHalves? skip (position + 1) rest
    | some half =>
      if skip half then firstHalves? skip (position + 1) rest
      else
        let more := rest.takeWhile fun c => (half? c).isSome
        some (position, position + 1 + more.length, half)

end QueryChain.Text
