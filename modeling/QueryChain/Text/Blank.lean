/-!
# Blank characters, stripping and splitting

Column lists, conflict targets and statement words treat every Unicode space as blank, and with
them the four information separators that the control range holds.  Stripping and splitting are
functions on lists of characters, so that their laws are plain inductions.

## Main definitions

* `Text.isBlank` — the blank characters; `Text.isWhiteSpace` — those with the Unicode property.
* `Text.stripChars`, `Text.strip` — a text without the blanks at its two ends.
* `Text.wordsOf`, `Text.words` — the maximal runs of characters that are not blank.
* `Text.splitAtChar`, `Text.segments` — the pieces between occurrences of one character.
-/

set_option relaxedAutoImplicit false
set_option autoImplicit false

namespace QueryChain.Text

/-- The characters with the Unicode property `White_Space`. -/
def isWhiteSpace (c : Char) : Bool :=
  let n := c.toNat
  decide ((9 ≤ n ∧ n ≤ 13) ∨ n = 0x20 ∨ n = 0x85 ∨ n = 0xa0 ∨ n = 0x1680
    ∨ (0x2000 ≤ n ∧ n ≤ 0x200a) ∨ n = 0x2028 ∨ n = 0x2029 ∨ n = 0x202f ∨ n = 0x205f ∨ n = 0x3000)

/-- Blank characters: white space, and the information separators U+001C to U+001F. -/
def isBlank (c : Char) : Bool :=
  isWhiteSpace c || decide (0x1c ≤ c.toNat ∧ c.toNat ≤ 0x1f)

/-- The characters of a text between its first and its last character outside `skip`. -/
def trimBoth (skip : Char → Bool) (cs : List Char) : List Char :=
  ((cs.dropWhile skip).reverse.dropWhile skip).reverse

/-- A list of characters without the blanks at its two ends. -/
def stripChars (cs : List Char) : List Char := trimBoth isBlank cs

/-- A text without the blanks at its two ends. -/
def strip (s : String) : String := String.ofList (stripChars s.toList)

/-- The words of a list of characters, given the word that is being read. -/
def wordsFrom (current : List Char) : List Char → List (List Char)
  | [] => if current.isEmpty then [] else [current.reverse]
  | c :: rest =>
    if isBlank c then
      if current.isEmpty then wordsFrom [] rest else current.reverse :: wordsFrom [] rest
    else wordsFrom (c :: current) rest

/-- The maximal runs of characters that are not blank, in order. -/
def wordsOf (cs : List Char) : List (List Char) := wordsFrom [] cs

/-- The words of a text. -/
def words (s : String) : List String := (wordsOf s.toList).map String.ofList

/-- The pieces of a list of characters between occurrences of `sep`; never the empty list. -/
def splitAtChar (sep : Char) : List Char → List (List Char)
  | [] => [[]]
  | c :: rest =>
    if c = sep then [] :: splitAtChar sep rest
    else
      match splitAtChar sep rest with
      | [] => [[c]]
      | piece :: pieces => (c :: piece) :: pieces

/-- The pieces of a text between occurrences of `sep`. -/
def segments (sep : Char) (s : String) : List String :=
  (splitAtChar sep s.toList).map String.ofList

/-- The texts of a list, with a separator between neighbours. -/
def join (sep : String) (parts : List String) : String := String.intercalate sep parts

/-- Splitting yields at least one piece. -/
theorem splitAtChar_ne_nil (sep : Char) (cs : List Char) : splitAtChar sep cs ≠ [] := by
  cases cs with
  | nil => simp [splitAtChar]
  | cons c rest =>
    by_cases h : c = sep
    · simp [splitAtChar, h]
    · cases hs : splitAtChar sep rest <;> simp [splitAtChar, h, hs]

/-- A list of characters without the separator is its own only piece. -/
theorem splitAtChar_of_not_mem {sep : Char} {cs : List Char} (h : sep ∉ cs) :
    splitAtChar sep cs = [cs] := by
  induction cs with
  | nil => rfl
  | cons c rest ih =>
    have hc : c ≠ sep := fun e => h (by simp [e])
    have hr : sep ∉ rest := fun m => h (List.mem_cons_of_mem _ m)
    simp [splitAtChar, hc, ih hr]

end QueryChain.Text
