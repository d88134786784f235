import QueryChain.Number.Binary64

/-!
# Dates and moments

Days of the proleptic Gregorian calendar and moments on them, with their numeric texts.

## Main definitions

* `CalendarDay`, `Moment` — a day, and a time on a day with an optional offset from universal time.
* `CalendarDay.ofEpochDay?`, `CalendarDay.epochDay` — days by their distance from 1970-01-01.
* `Moment.ofEpochMicros?` — the universal moment a number of microseconds after 1970-01-01.
* `Moment.microsOf?` — the microseconds of a floating number of seconds.
* `Moment.micros`, `Moment.instant?` — a moment on the local and on the universal line of time.
* `CalendarDay.iso`, `Moment.iso` — the numeric texts.
-/

set_option relaxedAutoImplicit false
set_option autoImplicit false

namespace QueryChain

/-- A day of the Gregorian calendar. -/
structure CalendarDay where
  year : Nat
  month : Nat
  day : Nat
deriving DecidableEq, Repr

/-- A time on a day; the offset, in microseconds east of universal time, is absent for local times.
-/
structure Moment where
  date : CalendarDay
  hour : Nat
  minute : Nat
  second : Nat
  micro : Nat
  offset : Option Int
deriving DecidableEq, Repr

/-- A number in decimal with leading zeros up to a width. -/
def padded (width n : Nat) : String :=
  let digits := natChars n
  String.ofList (List.replicate (width - digits.length) '0' ++ digits)

namespace CalendarDay

/-- Year, month and day as `YYYY-MM-DD`. -/
def iso (d : CalendarDay) : String :=
  padded 4 d.year ++ "-" ++ padded 2 d.month ++ "-" ++ padded 2 d.day

/-- Year, month and day of the day `n` days after 1970-01-01.  Years are counted from March, in
eras of 400 years, so that the leap day is the last day of its year. -/
def civilOfEpochDay (n : Int) : Int × Nat × Nat :=
  let z := n + 719468
  let era := z / 146097
  let dayOfEra := (z % 146097).toNat
  let yearOfEra :=
    (dayOfEra - dayOfEra / 1460 + dayOfEra / 36524 - dayOfEra / 146096) / 365
  let dayOfYear := dayOfEra - (365 * yearOfEra + yearOfEra / 4 - yearOfEra / 100)
  let marchMonth := (5 * dayOfYear + 2) / 153
  let day := dayOfYear - (153 * marchMonth + 2) / 5 + 1
  let month := if marchMonth < 10 then marchMonth + 3 else marchMonth - 9
  (era * 400 + yearOfEra + (if month ≤ 2 then 1 else 0), month, day)

/-- The day `n` days after 1970-01-01, within the years 1 to 9999. -/
def ofEpochDay? (n : Int) : Option CalendarDay :=
  let (year, month, day) := civilOfEpochDay n
  if 1 ≤ year ∧ year ≤ 9999 then some ⟨year.toNat, month, day⟩ else none

/-- How many days after 1970-01-01 a day lies. -/
def epochDay (d : CalendarDay) : Int :=
  let year : Int := if d.month ≤ 2 then (d.year : Int) - 1 else d.year
  let marchMonth : Nat := (d.month + 9) % 12
  let dayOfYear : Nat := (153 * marchMonth + 2) / 5 + d.day - 1
  365 * year + year / 4 - year / 100 + year / 400 + dayOfYear - 719468

end CalendarDay

namespace Moment

/-- Hours, minutes and seconds, with the microseconds unless they are zero. -/
def clockText (m : Moment) : String :=
  padded 2 m.hour ++ ":" ++ padded 2 m.minute ++ ":" ++ padded 2 m.second
    ++ (if m.micro = 0 then "" else "." ++ padded 6 m.micro)

/-- Hours and minutes of an offset of whole minutes, as `+HH:MM`. -/
def minutesText (negative : Bool) (minutes : Nat) : String :=
  (if negative then "-" else "+") ++ padded 2 (minutes / 60) ++ ":" ++ padded 2 (minutes % 60)

/-- An offset as `+HH:MM`, with seconds and microseconds if it has any. -/
def offsetText (micros : Int) : String :=
  let n := micros.natAbs
  let seconds := n / 1000000
  minutesText (decide (micros < 0)) (seconds / 60)
    ++ (if n % 60000000 = 0 then "" else ":" ++ padded 2 (seconds % 60))
    ++ (if n % 1000000 = 0 then "" else "." ++ padded 6 (n % 1000000))

/-- Date, separator, time and offset. -/
def isoWith (separator : String) (m : Moment) : String :=
  m.date.iso ++ separator ++ m.clockText ++ (m.offset.map offsetText).getD ""

/-- The numeric text with the separator `T`. -/
def iso (m : Moment) : String := m.isoWith "T"

/-- An offset in whole minutes: rounded to seconds, a half away from zero, and cut toward zero.
Universal time is written as `Z`. -/
def shortOffsetText (micros : Int) : String :=
  let seconds := (2 * micros.natAbs + 1000000) / 2000000
  if seconds = 0 then "Z" else minutesText (decide (micros < 0)) (seconds / 60)

/-- The numeric text with an offset in whole minutes. -/
def isoMinutes (m : Moment) : String :=
  m.date.iso ++ "T" ++ m.clockText ++ (m.offset.map shortOffsetText).getD ""

/-- The microseconds from the start of 1970 to a moment, both by local time. -/
def micros (m : Moment) : Int :=
  (((m.date.epochDay * 24 + m.hour) * 60 + m.minute) * 60 + m.second) * 1000000 + m.micro

/-- The microseconds from the start of 1970 to a moment with an offset, by universal time. -/
def instant? (m : Moment) : Option Int := m.offset.map fun offset => m.micros - offset

/-- The universal moment `n` microseconds after the start of 1970, within the years 1 to 9999. -/
def ofEpochMicros? (n : Int) : Option Moment :=
  let seconds := n / 1000000
  let inDay := (seconds % 86400).toNat
  (CalendarDay.ofEpochDay? (seconds / 86400)).map fun date =>
    ⟨date, inDay / 3600, inDay / 60 % 60, inDay % 60, (n % 1000000).toNat, some 0⟩

/-- The whole microseconds of a finite number of seconds.  The fraction is multiplied in floating
arithmetic, and the product rounded to the nearest integer, a half going to the even neighbour. -/
def microsOf? (seconds : Binary64) : Option Int :=
  match seconds.ratio? with
  | none => none
  | some (n, d) =>
    let whole := n.natAbs / d
    let micros :=
      match (Binary64.ofRatio false (n.natAbs % d * 1000000) d).ratio? with
      | some (p, q) => Binary64.roundHalfEven p.natAbs q
      | none => 0
    let total : Int := whole * 1000000 + micros
    some (if n < 0 then -total else total)

end Moment

end QueryChain
