import QueryChain.Failure.Report
import QueryChain.Text.Blank

/-!
# Names in statements

Names cannot be bound to placeholders, so every text that enters a statement verbatim is checked
against a grammar first: plain names, columns with at most one relation before them, column lists,
and the columns of a conflict target.

## Main definitions

* `Name.isPlain`, `Name.isColumn`, `Name.isColumnList` — the grammars, on characters.
* `NameRules` — the length limit and the default conflict target in force.
* `NameRules.checkPlain`, `checkColumn`, `checkConflictTarget` and `checkColumnList` — the checks,
  on values of any kind.

## Main results

* `Name.isPlain_iff` — the grammar of plain names in words.
* `Name.withoutFinalNewline_of_forall` — names without line breaks are taken as they are.
-/

set_option relaxedAutoImplicit false
set_option autoImplicit false

namespace QueryChain

namespace Name

/-- A character that may start a name: an ASCII letter or the underscore. -/
def isStart (c : Char) : Bool := c.isAlpha || c == '_'

/-- A character that may go on in a name: an ASCII letter, a digit or the underscore. -/
def isPart (c : Char) : Bool := c.isAlphanum || c == '_'

/-- A plain name. -/
def isPlain : List Char → Bool
  | [] => false
  | c :: rest => isStart c && rest.all isPart

/-- A column: a plain name, or two of them with a point between. -/
def isColumn (cs : List Char) : Bool :=
  match Text.splitAtChar '.' cs with
  | [name] => isPlain name
  | [relation, name] => isPlain relation && isPlain name
  | _ => false

/-- A text without the line break that may end it.  The grammars of names look at the text in front
of a final line break. -/
def withoutFinalNewline (cs : List Char) : List Char :=
  if cs.getLast? = some '\n' then cs.dropLast else cs

/-- A character that may occur in a column list. -/
def isListed (c : Char) : Bool :=
  c.isAlphanum || "_.*,():!-".toList.contains c || Text.isBlank c

/-- Whether two dashes follow each other, as they do where a comment starts. -/
def hasDashPair : List Char → Bool
  | '-' :: '-' :: _ => true
  | _ :: rest => hasDashPair rest
  | [] => false

/-- A column list: listed characters only, and no comment. -/
def isColumnList (cs : List Char) : Bool := cs.all isListed && !hasDashPair cs

/-- A plain name starts like one and goes on like one. -/
theorem isPlain_iff (cs : List Char) :
    isPlain cs = true ↔
      ∃ c rest, cs = c :: rest ∧ isStart c = true ∧ ∀ x ∈ rest, isPart x = true := by
  cases cs with
  | nil => simp [isPlain]
  | cons c rest =>
    simp only [isPlain, Bool.and_eq_true, List.all_eq_true]
    constructor
    · intro h
      exact ⟨c, rest, rfl, h.1, h.2⟩
    · rintro ⟨c', rest', e, h⟩
      obtain ⟨rfl, rfl⟩ := List.cons.inj e
      exact h

/-- What may start a name may go on in one. -/
theorem isPart_of_isStart {c : Char} (h : isStart c = true) : isPart c = true := by
  simp only [isStart, isPart, Char.isAlphanum, Bool.or_eq_true] at h ⊢
  exact h.elim (fun a => .inl (.inl a)) .inr

/-- Every character of a plain name may occur in one. -/
theorem isPart_of_mem {cs : List Char} (h : isPlain cs = true) {x : Char} (hx : x ∈ cs) :
    isPart x = true := by
  obtain ⟨c, rest, rfl, hc, hr⟩ := (isPlain_iff cs).1 h
  rcases List.mem_cons.1 hx with rfl | hx
  · exact isPart_of_isStart hc
  · exact hr x hx

/-- A text without line breaks is taken as it is. -/
theorem withoutFinalNewline_of_forall {cs : List Char} (h : '\n' ∉ cs) :
    withoutFinalNewline cs = cs := by
  have : cs.getLast? ≠ some '\n' := fun e => h (List.mem_of_getLast? e)
  simp [withoutFinalNewline, this]

end Name

/-- The rules for names in force: the longest name accepted, and the conflict target of upserts that
name none. -/
structure NameRules where
  maxLength : Nat
  defaultConflict : String
deriving DecidableEq, Repr

namespace NameRules

/-- Rejects a name if one of the pieces between its points is too long. -/
def checkLength (rules : NameRules) (noun : Value) (name : String) : Except Failure Unit :=
  if (Text.splitAtChar '.' name.toList).any
      fun piece => decide (rules.maxLength < piece.length) then
    .error
      (.rejected (noun.display ++ " name too long: " ++ name) noun (.text name) .invalidIdentifier)
  else .ok ()

/-- Checks a plain name, as payload keys and conflict columns are; `noun` says what it names. -/
def checkPlain (rules : NameRules) (noun name : Value) : Except Failure String :=
  match name with
  | .text s =>
    if Name.isPlain (Name.withoutFinalNewline s.toList) then
      (rules.checkLength noun s).map fun _ => s
    else invalid
  | _ => invalid
where
  invalid : Except Failure String :=
    .error
      (.rejected ("Invalid " ++ noun.display ++ " name: " ++ name.display) noun name
        .invalidIdentifier)

/-- Checks the column of a filter or an order; one relation may stand before it. -/
def checkColumn (rules : NameRules) (column : Value) : Except Failure String :=
  match column with
  | .text s =>
    if Name.isColumn (Name.withoutFinalNewline s.toList) then
      (rules.checkLength (.text "column") s).map fun _ => s
    else invalid
  | _ => invalid
where
  invalid : Except Failure String :=
    .error
      (.rejected ("Invalid column name: " ++ column.display) (.text "column") column
        .invalidIdentifier)

/-- Checks a list of columns that is selected or returned. -/
def checkColumnList (columns : Value) : Except Failure String :=
  match columns with
  | .text s =>
    if (Text.stripChars s.toList).isEmpty then empty
    else if Name.isColumnList s.toList then .ok s
    else
      .error (.rejected ("Invalid column specification: " ++ s) (.text "columns") columns
        .invalidColumnSpec)
  | _ => empty
where
  empty : Except Failure String :=
    .error (.rejected "Invalid column specification: empty" (.text "columns") columns
      .invalidColumnSpec)

/-- The stripped columns of a conflict target. -/
def conflictSegments (target : String) : List String :=
  (Text.segments ',' target).map Text.strip

/-- The text of the conflict target in force: the given one, or the default when none is given or
the given one is blank.  A value that is neither text nor bytes cannot be stripped. -/
def conflictText (rules : NameRules) (given : Value) : Except Failure String :=
  if given.truthy then
    match given with
    | .text s => .ok (if (Text.stripChars s.toList).isEmpty then rules.defaultConflict else s)
    | .bytes bs =>
      if bs.all fun b => (9 ≤ b && b ≤ 13) || b == 32 then .ok rules.defaultConflict
      else .error (.fault .bytesSplit)
    | v => .error (.fault (.noMember v.qualifiedKindName "strip"))
  else .ok rules.defaultConflict

/-- Splits a conflict target at its commas and checks that every segment is a plain name. -/
def checkConflictTarget (rules : NameRules) (given : Value) : Except Failure (List String) := do
  let columns := conflictSegments (← rules.conflictText given)
  if columns.all fun column => Name.isPlain (Name.withoutFinalNewline column.toList) then
    .ok columns
  else
    .error (.rejected ("Invalid conflict target: " ++ given.display) (.text "on_conflict") given
      .invalidConflictTarget)

/-- Checks the number of rows asked for: an integer that is not negative. -/
def checkLimit (count : Value) : Except Failure Nat :=
  match count with
  | .int (.ofNat n) => .ok n
  | _ =>
    .error (.rejected
      ("Invalid limit: " ++ count.literal ++ ". Limit must be a non-negative integer.")
      (.text "limit") count .invalidArgument)

/-- The keyword of an operand of `IS`: null, true or false. -/
def checkKeyword (operand : Value) : Except Failure String :=
  match operand with
  | .null => .ok "NULL"
  | .bool true => .ok "TRUE"
  | .bool false => .ok "FALSE"
  | _ =>
    .error (.rejected "IS only accepts None, True or False" (.text "value") operand
      .invalidArgument)

end NameRules

end QueryChain
