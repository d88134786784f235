import QueryChain.Text.Half

/-!
# Bytes as text

Byte strings stand in for texts where they hold valid UTF-8.  Loosely read, any bytes are a text: a
byte that belongs to no character becomes a half of a pair.

## Main definitions

* `Text.ofUtf8?` — the text that bytes encode.
* `Text.utf8` — the bytes of a text.
* `Text.firstBroken?` — where bytes cease to encode a text.
* `Text.looseUtf8`, `Text.ofLooseUtf8` — the bytes of a text with such halves, and back.
-/

set_option relaxedAutoImplicit false
set_option autoImplicit false

namespace QueryChain.Text

/-- The text that bytes encode in UTF-8, if they encode one. -/
def ofUtf8? (bs : List UInt8) : Option String := String.fromUTF8? ⟨bs.toArray⟩

/-- The UTF-8 bytes of a text. -/
def utf8 (s : String) : List UInt8 := s.toUTF8.data.toList

/-- The ranges of the bytes that follow a first byte of a character, if one starts with it. -/
def followers? (first : Nat) : Option (List (Nat × Nat)) :=
  let any := (0x80, 0xBF)
  if first < 0x80 then some []
  else if first < 0xC2 then none
  else if first < 0xE0 then some [any]
  else if first = 0xE0 then some [(0xA0, 0xBF), any]
  else if first = 0xED then some [(0x80, 0x9F), any]
  else if first < 0xF0 then some [any, any]
  else if first = 0xF0 then some [(0x90, 0xBF), any, any]
  else if first < 0xF4 then some [any, any, any]
  else if first = 0xF4 then some [(0x80, 0x8F), any, any]
  else none

/-- Where bytes cease to encode a text, from the first byte of the broken character to the byte
after its last good one.  The bytes stand at `position`, in a character that began at `start` and
still wants bytes in the given ranges. -/
def brokenFrom (position start : Nat) (wanted : List (Nat × Nat)) :
    List UInt8 → Option (Nat × Nat)
  | [] => if wanted.isEmpty then none else some (start, position)
  | b :: bs =>
    match wanted with
    | (low, high) :: more =>
      if low ≤ b.toNat ∧ b.toNat ≤ high then brokenFrom (position + 1) start more bs
      else some (start, position)
    | [] =>
      match followers? b.toNat with
      | some wanted => brokenFrom (position + 1) position wanted bs
      | none => some (position, position + 1)

/-- Where bytes cease to encode a text: the first and the last byte, the latter not included. -/
def firstBroken? (bs : List UInt8) : Option (Nat × Nat) := brokenFrom 0 0 [] bs

/-- The bytes of a text in which halves stand for single bytes. -/
def looseUtf8 (s : String) : List UInt8 :=
  s.toList.flatMap fun c =>
    match half? c with
    | some n => [UInt8.ofNat n]
    | none => utf8 (String.singleton c)

/-- The text that bytes encode loosely, at most `fuel` broken characters of it. -/
def ofLooseUtf8From : Nat → List UInt8 → String
  | 0, _ => ""
  | fuel + 1, bs =>
    match firstBroken? bs with
    | none => (ofUtf8? bs).getD ""
    | some (start, stop) =>
      let halves := ((bs.take stop).drop start).map fun b => ofCode (0xDC00 + b.toNat)
      (ofUtf8? (bs.take start)).getD "" ++ String.ofList halves
        ++ ofLooseUtf8From fuel (bs.drop stop)

/-- The text that bytes encode loosely: a byte that belongs to no character becomes a half. -/
def ofLooseUtf8 (bs : List UInt8) : String := ofLooseUtf8From (bs.length + 1) bs

end QueryChain.Text
