/-!
# Decimal digits of every script

Numbers inside a statement text may be spelled with the decimal digits of any script: the
characters of general category `Nd`.  They come in runs of ten, zero first, so the table keeps
the zero of each run.

## Main definitions

* `Text.digitZeros` — the zero of each run of ten digits.
* `Text.decimalDigit?` — the digit value of a character, if it is a decimal digit.
* `Text.decimalValue?` — the number that a text of decimal digits spells.
-/

set_option relaxedAutoImplicit false
set_option autoImplicit false

namespace QueryChain.Text

/-- Code points of the digit zero in each script that has decimal digits. -/
def digitZeros : List Nat :=
  [
   0x30, 0x660, 0x6f0, 0x7c0, 0x966, 0x9e6, 0xa66, 0xae6, 0xb66, 0xbe6,
   0xc66, 0xce6, 0xd66, 0xde6, 0xe50, 0xed0, 0xf20, 0x1040, 0x1090, 0x17e0,
   0x1810, 0x1946, 0x19d0, 0x1a80, 0x1a90, 0x1b50, 0x1bb0, 0x1c40, 0x1c50, 0xa620,
   0xa8d0, 0xa900, 0xa9d0, 0xa9f0, 0xaa50, 0xabf0, 0xff10, 0x104a0, 0x10d30, 0x11066,
   0x110f0, 0x11136, 0x111d0, 0x112f0, 0x11450, 0x114d0, 0x11650, 0x116c0, 0x11730, 0x118e0,
   0x11950, 0x11c50, 0x11d50, 0x11da0, 0x16a60, 0x16ac0, 0x16b50, 0x1d7ce, 0x1d7d8, 0x1d7e2,
   0x1d7ec, 0x1d7f6, 0x1e140, 0x1e2f0, 0x1e950, 0x1fbf0]

/-- The value of a decimal digit; a digit belongs to the run that starts at most nine below it. -/
def decimalDigit? (c : Char) : Option Nat :=
  if c.toNat < 128 then
    if 48 ≤ c.toNat ∧ c.toNat ≤ 57 then some (c.toNat - 48) else none
  else
    (digitZeros.find? fun z => decide (z ≤ c.toNat ∧ c.toNat ≤ z + 9)).map (c.toNat - ·)

/-- Whether a character is a decimal digit of some script. -/
def isDecimalDigit (c : Char) : Bool := (decimalDigit? c).isSome

/-- The number spelled by a nonempty list of decimal digits, most significant first. -/
def decimalValue? (cs : List Char) : Option Nat :=
  if cs.isEmpty then none
  else cs.foldl (fun acc c => do return 10 * (← acc) + (← decimalDigit? c)) (some 0)

/-- The ASCII digits are decimal digits with their usual values. -/
theorem decimalDigit?_ascii (c : Char) (h : c.isDigit = true) :
    decimalDigit? c = some (c.toNat - 48) := by
  have h' : 48 ≤ c.toNat ∧ c.toNat ≤ 57 := by
    simpa [Char.isDigit, UInt32.le_iff_toNat_le] using h
  simp [decimalDigit?, show c.toNat < 128 by omega, h']

end QueryChain.Text
