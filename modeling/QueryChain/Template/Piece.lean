import QueryChain.Number.Numeral

/-!
# Templates

A template is a text with directives.  A directive starts with a percent sign and says which
argument is shown and how: an optional key in brackets, flags, a width, a precision, and a letter
for the kind of text.  Reading never fails; a directive that is cut off is read as far as it goes,
because the arguments in front of the cut are still looked at.

## Main definitions

* `Template.Size` — a width or a precision; `Template.Flags` — the flags.
* `Template.Directive` — a directive; `Template.Piece` — a directive or the text between directives.
* `Template.pieces` — the pieces of a template.

## Main results

* `Template.readDirective_length` — a directive leaves no more text than there was.
-/

set_option relaxedAutoImplicit false
set_option autoImplicit false

namespace QueryChain.Template

/-- A width or a precision: none, a number, or the next argument. -/
inductive Size where
  | unset
  | fixed (n : Nat)
  | fromArgument
deriving DecidableEq, Repr

/-- The flags of a directive. -/
structure Flags where
  left : Bool
  signed : Bool
  blank : Bool
  alternate : Bool
  zero : Bool
deriving DecidableEq, Repr

/-- A directive.  The letter comes with its position in the template, and is absent if the text ends
before it. -/
structure Directive where
  key : Option String
  flags : Flags
  width : Size
  precision : Size
  letter : Option (Char × Nat)
deriving DecidableEq, Repr

/-- A piece of a template. -/
inductive Piece where
  | text (s : String)
  | directive (d : Directive)
  | openKey
deriving DecidableEq, Repr

/-- A key up to the bracket that closes it, and the text behind the bracket; `depth` brackets are
open inside the key. -/
def readKey (depth : Nat) : List Char → Option (List Char × List Char)
  | [] => none
  | c :: cs =>
    if c = ')' then
      match depth with
      | 0 => some ([], cs)
      | d + 1 => (readKey d cs).map fun (key, rest) => (c :: key, rest)
    else (readKey (if c = '(' then depth + 1 else depth) cs).map fun (key, rest) => (c :: key, rest)

/-- Whether a character is a flag. -/
def isFlag (c : Char) : Bool := ['-', '+', ' ', '#', '0'].contains c

/-- The flags that characters set. -/
def flagsOf (cs : List Char) : Flags :=
  ⟨cs.contains '-', cs.contains '+', cs.contains ' ', cs.contains '#', cs.contains '0'⟩

/-- A star or digits in front of a text. -/
def readSize : List Char → Size × List Char
  | '*' :: rest => (.fromArgument, rest)
  | cs =>
    let digits := cs.takeWhile Char.isDigit
    (if digits.isEmpty then .unset else .fixed (digitsValue digits), cs.dropWhile Char.isDigit)

/-- A point with a star or digits behind it; a lone point stands for zero. -/
def readPrecision : List Char → Size × List Char
  | '.' :: rest =>
    match readSize rest with
    | (.unset, rest) => (.fixed 0, rest)
    | read => read
  | cs => (.unset, cs)

/-- A text behind one letter of length, which means nothing. -/
def dropLength : List Char → List Char
  | c :: rest => if c = 'h' ∨ c = 'l' ∨ c = 'L' then rest else c :: rest
  | [] => []

/-- A directive behind its key, and the text behind it; `total` is the length of the template. -/
def readKeyed (total : Nat) (key : Option String) (cs : List Char) : Piece × List Char :=
  let (width, afterWidth) := readSize (cs.dropWhile isFlag)
  let (precision, afterPrecision) := readPrecision afterWidth
  let directive (letter : Option (Char × Nat)) : Piece :=
    .directive ⟨key, flagsOf (cs.takeWhile isFlag), width, precision, letter⟩
  match dropLength afterPrecision with
  | [] => (directive none, [])
  | c :: rest => (directive (some (c, total - rest.length - 1)), rest)

/-- A directive behind its percent sign, and the text behind it.  A second percent sign right behind
the first stands for one in the text. -/
def readDirective (total : Nat) : List Char → Piece × List Char
  | '%' :: rest => (.text "%", rest)
  | '(' :: rest =>
    match readKey 0 rest with
    | none => (.openKey, [])
    | some (key, rest) => readKeyed total (some (String.ofList key)) rest
  | cs => readKeyed total none cs

theorem readKey_length (cs : List Char) :
    ∀ (depth : Nat) (key rest : List Char), readKey depth cs = some (key, rest) →
      rest.length < cs.length + 1 := by
  induction cs with
  | nil => intro depth key rest h; simp [readKey] at h
  | cons c cs ih =>
    intro depth key rest h
    unfold readKey at h
    split at h
    · split at h
      · simp only [Option.some.injEq, Prod.mk.injEq] at h
        rw [← h.2, List.length_cons]
        omega
      · obtain ⟨⟨k, r⟩, hr, he⟩ := Option.map_eq_some_iff.1 h
        simp only [Prod.mk.injEq] at he
        have := ih _ _ _ hr
        rw [← he.2, List.length_cons]
        omega
    · obtain ⟨⟨k, r⟩, hr, he⟩ := Option.map_eq_some_iff.1 h
      simp only [Prod.mk.injEq] at he
      have := ih _ _ _ hr
      rw [← he.2, List.length_cons]
      omega

theorem readSize_length (cs : List Char) : (readSize cs).2.length ≤ cs.length := by
  unfold readSize
  split
  · simp
  · exact (List.dropWhile_suffix _).length_le

theorem readPrecision_length (cs : List Char) : (readPrecision cs).2.length ≤ cs.length := by
  unfold readPrecision
  split
  · rename_i rest
    have := readSize_length rest
    split <;> simp_all <;> omega
  · simp

theorem dropLength_length (cs : List Char) : (dropLength cs).length ≤ cs.length := by
  unfold dropLength
  split
  · split <;> simp
  · simp

theorem readKeyed_length (total : Nat) (key : Option String) (cs : List Char) :
    (readKeyed total key cs).2.length ≤ cs.length := by
  have h₁ : (cs.dropWhile isFlag).length ≤ cs.length := (List.dropWhile_suffix _).length_le
  have h₂ := readSize_length (cs.dropWhile isFlag)
  have h₃ := readPrecision_length (readSize (cs.dropWhile isFlag)).2
  have h₄ := dropLength_length (readPrecision (readSize (cs.dropWhile isFlag)).2).2
  unfold readKeyed
  dsimp only
  split
  · simp
  · rename_i c rest h
    rw [h] at h₄
    simp only [List.length_cons] at h₄
    show rest.length ≤ cs.length
    omega

/-- A directive leaves no more text than there was. -/
theorem readDirective_length (total : Nat) (cs : List Char) :
    (readDirective total cs).2.length ≤ cs.length := by
  unfold readDirective
  split
  · simp
  · rename_i rest
    split
    · simp
    · rename_i key tail h
      have h₁ := readKey_length rest 0 key tail h
      have h₂ := readKeyed_length total (some (String.ofList key)) tail
      simp only [List.length_cons]
      omega
  · exact readKeyed_length total none cs

/-- The pieces of the end of a template; `total` is the length of all of it. -/
def piecesOf (total : Nat) (cs : List Char) : List Piece :=
  match _atMark : cs.dropWhile (· ≠ '%') with
  | [] => [.text (String.ofList cs)]
  | _ :: rest =>
    .text (String.ofList (cs.takeWhile (· ≠ '%')))
      :: (readDirective total rest).1 :: piecesOf total (readDirective total rest).2
termination_by cs.length
decreasing_by
  have h₁ := readDirective_length total rest
  have h₂ : (cs.dropWhile (· ≠ '%')).length ≤ cs.length := (List.dropWhile_suffix _).length_le
  rw [_atMark] at h₂
  simp only [List.length_cons] at h₂
  omega

/-- The pieces of a template. -/
def pieces (s : String) : List Piece := piecesOf s.length s.toList

end QueryChain.Template
