import QueryChain.Number.Calendar

/-!
# Reading dates and moments

The numeric texts of days and moments, in their extended form with dashes and colons and in their
basic form without.  A day may be given by its week.  A moment may leave out its time, or the time
its minutes, seconds and fraction; any character may stand between day and time.

## Main definitions

* `DateFault` — the ways in which a text or its fields can be wrong.
* `CalendarDay.read`, `Moment.read` — the day and the moment of a text.
* `CalendarDay.check` — a day whose fields are in range.
-/

set_option relaxedAutoImplicit false
set_option autoImplicit false

namespace QueryChain

/-- What can be wrong with the text of a day or a moment, or with its fields. -/
inductive DateFault where
  | malformed (text : String)
  | year (n : Int)
  | month
  | day
  | hour
  | minute
  | second
  | offset (micros : Int)
deriving DecidableEq, Repr

namespace IsoText

/-- The number that so many digits in front spell, and the characters behind them. -/
def takeNumber? (count : Nat) (cs : List Char) : Option (Nat × List Char) :=
  let digits := cs.take count
  if digits.length = count ∧ digits.all Char.isDigit then some (digitsValue digits, cs.drop count)
  else none

/-- Whether a time ends here.  A NUL character ends it, whatever follows. -/
def atEnd : List Char → Bool
  | [] => true
  | c :: _ => c == '\x00'

end IsoText

/-! ### Days -/

namespace CalendarDay

open IsoText

/-- Whether a year has a leap day. -/
def isLeap (year : Nat) : Bool := year % 4 == 0 && (year % 100 != 0 || year % 400 == 0)

/-- How many days a month has. -/
def monthLength (year month : Nat) : Nat :=
  if month = 2 then (if isLeap year then 29 else 28)
  else if month = 4 ∨ month = 6 ∨ month = 9 ∨ month = 11 then 30
  else 31

/-- Checks the fields of a day, from the year down. -/
def check (year : Int) (month day : Nat) : Except DateFault CalendarDay :=
  if year < 1 ∨ 9999 < year then .error (.year year)
  else if month < 1 ∨ 12 < month then .error .month
  else if day < 1 ∨ monthLength year.toNat month < day then .error .day
  else .ok ⟨year.toNat, month, day⟩

/-- The Monday of the first week of a year, as a number of days after 1970-01-01: the week that has
the first Thursday of the year. -/
def firstMonday (year : Nat) : Int :=
  let newYear := epochDay ⟨year, 1, 1⟩
  let weekday := (newYear + 3) % 7
  if weekday ≤ 3 then newYear - weekday else newYear - weekday + 7

/-- Year, month and day of a day in a week; a week belongs to the year of its Thursday.  There is no
month before year 1. -/
def ofWeek? (year week day : Nat) : Option (Int × Nat × Nat) :=
  let monday := firstMonday year + 7 * ((week : Int) - 1)
  if week = 0 ∨ 53 < week ∨ (civilOfEpochDay (monday + 3)).1 ≠ year then none
  else if day = 0 ∨ 7 < day then none
  else if year = 0 then some (1, 0, 0)
  else some (civilOfEpochDay (monday + (day - 1)))

/-- Year, month and day at the front of some characters, of which `length` belong to the day. -/
def readFields? (length : Nat) (cs : List Char) : Option (Int × Nat × Nat) := do
  let (year, rest) ← takeNumber? 4 cs
  let dashed := rest.head? == some '-'
  let rest := if dashed then rest.drop 1 else rest
  let afterDash? (cs : List Char) : Option (List Char) :=
    if dashed then (if cs.head? == some '-' then some (cs.drop 1) else none) else some cs
  match rest with
  | 'W' :: rest =>
    let (week, rest) ← takeNumber? 2 rest
    if (if dashed then 8 else 7) < length then
      let (day, _) ← takeNumber? 1 (← afterDash? rest)
      ofWeek? year week day
    else ofWeek? year week 1
  | _ =>
    let (month, rest) ← takeNumber? 2 rest
    let (day, _) ← takeNumber? 2 (← afterDash? rest)
    some (year, month, day)

/-- Reads a day.  A text has seven, eight or ten bytes; behind a day in basic form the others may be
anything. -/
def read (s : String) : Except DateFault CalendarDay :=
  let length := s.utf8ByteSize
  if length = 7 ∨ length = 8 ∨ length = 10 then
    match readFields? length s.toList with
    | some (year, month, day) => check year month day
    | none => .error (.malformed s)
  else .error (.malformed s)

end CalendarDay

/-! ### Moments -/

namespace Moment

open IsoText

/-- Where the day of a moment ends: after seven, eight or ten characters, as its form has it.  Where
a day by its week could go on or not, digits in pairs belong to the time. -/
def dayLength (cs : List Char) : Nat :=
  let isDigitAt (i : Nat) : Bool := (cs[i]?.map Char.isDigit).getD false
  if cs.length = 7 then 7
  else if cs[4]? = some '-' then
    if cs[5]? = some 'W' then
      if cs[8]? = some '-' ∧ ¬ isDigitAt 10 then 10 else 8
    else 10
  else if cs[4]? = some 'W' then
    let digits := ((cs.drop 7).takeWhile Char.isDigit).length
    if digits < 2 then 7 + digits else if digits % 2 = 1 then 7 else 8
  else 8

/-- The microseconds of a fraction, and whether it was read to its end; digits beyond the sixth do
not count. -/
def readFraction? (cs : List Char) : Option (Nat × Bool) :=
  let digits := cs.take 6
  if digits.all Char.isDigit then
    some (digitsValue (digits ++ List.replicate (6 - digits.length) '0'),
      atEnd ((cs.drop 6).dropWhile Char.isDigit))
  else none

/-- The fields of a time with its microseconds, and whether it was read to its end.  The character
behind the hours says whether there are colons; a last character, of one byte, that does not go on
with the time is left over. -/
def readFields? : Nat → Option Bool → List Char → Option (List Nat × Nat × Bool)
  | 0, _, cs => (readFraction? cs).map fun (micro, whole) => ([], micro, whole)
  | n + 1, colons, cs =>
    match takeNumber? 2 cs with
    | none => none
    | some (x, []) => some ([x], 0, true)
    | some (x, [c]) => if c.toNat < 0x80 then some ([x], 0, atEnd [c]) else none
    | some (x, c :: rest) =>
      let colons := colons.getD (c == ':')
      let add := fun (xs, micro, whole) => (x :: xs, micro, whole)
      if colons ∧ c = ':' then (readFields? n (some colons) rest).map add
      else if c = '.' ∨ c = ',' then
        (readFraction? rest).map fun (micro, whole) => ([x], micro, whole)
      else if colons then none
      else (readFields? n (some colons) (c :: rest)).map add

/-- A time: its fields, and its offset in microseconds if it has one. -/
structure Clock where
  fields : List Nat
  micro : Nat
  offset : Option Int

/-- The microseconds of fields and a fraction. -/
def offsetOf (fields : List Nat) (micro : Nat) : Nat :=
  ((fields.getD 0 0 * 60 + fields.getD 1 0) * 60 + fields.getD 2 0) * 1000000 + micro

/-- Reads a time. -/
def readClock? (cs : List Char) : Option Clock := do
  let startsOffset (c : Char) : Bool := c == '+' || c == '-' || c == 'Z'
  let (fields, micro, whole) ← readFields? 3 none (cs.takeWhile fun c => !startsOffset c)
  match cs.dropWhile fun c => !startsOffset c with
  | [] => if whole then some ⟨fields, micro, none⟩ else none
  | 'Z' :: rest => if atEnd rest then some ⟨fields, micro, some 0⟩ else none
  | sign :: rest =>
    let (parts, fraction, whole) ← readFields? 3 none rest
    let offset : Int := offsetOf parts fraction
    if whole then some ⟨fields, micro, some (if sign = '-' then -offset else offset)⟩ else none

/-- Checks the fields of a time on a day.  An offset stays below a day. -/
def check (year : Int) (month day : Nat) (clock : Clock) : Except DateFault Moment := do
  match clock.offset with
  | some offset => if 86400000000 ≤ offset.natAbs then throw (.offset offset)
  | none => pure ()
  let date ← CalendarDay.check year month day
  let hour := clock.fields.getD 0 0
  let minute := clock.fields.getD 1 0
  let second := clock.fields.getD 2 0
  if 23 < hour then throw .hour
  if 59 < minute then throw .minute
  if 59 < second then throw .second
  return ⟨date, hour, minute, second, clock.micro, clock.offset⟩

/-- Reads a moment. -/
def read (s : String) : Except DateFault Moment :=
  let cs := s.toList
  let length := dayLength cs
  let fields := if cs.length < 7 then none else CalendarDay.readFields? length cs
  let clock :=
    match cs.drop length with
    | [] => some ⟨[], 0, none⟩
    | [_] => none
    | _ :: rest => readClock? rest
  match fields, clock with
  | some (year, month, day), some clock => check year month day clock
  | _, _ => .error (.malformed s)

end Moment

end QueryChain
