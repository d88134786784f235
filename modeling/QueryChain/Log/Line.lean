import QueryChain.Json.Write
import QueryChain.Log.Record
import QueryChain.Number.Calendar

/-!
# Lines of the log

A record is written as one line of JSON: when, at what level, by which logger and what, then the
extra attributes, the trace it belongs to, and the failure it reports.

## Main definitions

* `LogRecord.timestamp` — the time of a record as text.
* `LogRecord.entry` — the fields of the line; `LogRecord.line` — the line.
-/

set_option relaxedAutoImplicit false
set_option autoImplicit false

namespace QueryChain.LogRecord

/-- The text of the moment a number of microseconds after the start of 1970.  Years are counted in
32 bits from 1900, and a year needs four digits to be written. -/
def momentText (micros : Int) : Except Fault String :=
  match Moment.ofEpochMicros? micros with
  | some m => .ok m.iso
  | none =>
    let year := (CalendarDay.civilOfEpochDay (micros / 1000000 / 86400)).1
    if -2147483648 ≤ year - 1900 ∧ year - 1900 < 2147483648 then
      .error (.yearOutOfRange (Int.bmod year 4294967296))
    else .error .timestampTooLarge

/-- Whether a number of seconds can be counted in 64 bits. -/
def countable (seconds : Int) : Bool :=
  decide (-9223372036854775808 ≤ seconds ∧ seconds < 9223372036854775808)

/-- The text of a whole number of seconds after the start of 1970. -/
def secondsText (seconds : Int) : Except Fault String :=
  if countable seconds then momentText (seconds * 1000000) else .error .timestampOutOfRange

/-- The time of a record as text. -/
def timestamp (r : LogRecord) : Except Fault String :=
  match r.created with
  | .int n => secondsText n
  | .bool b => secondsText (if b then 1 else 0)
  | .float .nan => .error .notANumber
  | .float x =>
    match Moment.microsOf? x with
    | none => .error .timestampOutOfRange
    | some micros =>
      if countable (Int.tdiv micros 1000000) then momentText micros else .error .timestampOutOfRange
  | v => .error (.numberRequired v.qualifiedKindName)

/-- Whether an extra attribute is shown; those that name the trace are not. -/
def isShown (name : String) : Bool := !hiddenNames.contains name && !name.startsWith "otel"

/-- The fields that name the trace. -/
def traceFields (r : LogRecord) : Fields :=
  match r.extra.get? "otelTraceID" with
  | none => []
  | some trace =>
    if trace.truthy then
      [("trace_id", trace), ("span_id", (r.extra.get? "otelSpanID").getD .null)]
    else []

/-- The fields of a line.  An extra attribute of the name of an earlier field takes its place. -/
def entry (r : LogRecord) : Except Fault Fields := do
  let timestamp ← r.timestamp
  let message ← r.message
  let shown := (Fields.update
    [("timestamp", .text timestamp), ("level", r.level), ("logger", r.logger),
      ("message", .text message)]
    (r.extra.filter fun field => isShown field.1)).update r.traceFields
  match ← r.failure with
  | none => return shown
  | some text => return shown.set "exception" (.text text)

/-- A record as one line of JSON. -/
def line (r : LogRecord) : Except Fault String := do Json.write (← r.entry).toValue

end QueryChain.LogRecord
