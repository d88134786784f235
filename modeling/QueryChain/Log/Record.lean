import QueryChain.Log.Event
import QueryChain.Log.Level
import QueryChain.Failure.Report
import QueryChain.Template.Fill

/-!
# Log records

A record has attributes of its own, which say where and when it was written, and extra ones.  Any of
them can be assigned; a few of its own shape the line that is written, and the rest are out of
sight.

## Main definitions

* `LogRecord` — a record; `LogRecord.make` — the record of a message.
* `LogRecord.assign`, `LogRecord.has` — writing an attribute, and whether there is one.
* `LogRecord.message` — the message with its arguments filled in.

## Main results

* `LogRecord.has_assign` — assigning keeps every attribute, and adds the one assigned.
-/

set_option relaxedAutoImplicit false
set_option autoImplicit false

namespace QueryChain

/-- A failure on a line of its own: its kind, and its text if it has one.  A text that is refused is
said to be so. -/
def Failure.report (f : Failure) : String :=
  f.qualifiedName ++
    match f.text with
    | .ok text => if text = "" then "" else ": " ++ text
    | .error _ => ": <exception str() failed>"

/-- A record of the log.  Attributes hold any value; what stands for the failure may turn out to be
none. -/
structure LogRecord where
  logger : Value
  level : Value
  template : Value
  args : Value
  created : Value
  failure : Except Fault (Option String)
  extra : Fields

namespace LogRecord

/-- The names of the attributes that every record has. -/
def ownNames : List String :=
  ["name", "msg", "args", "levelname", "levelno", "pathname", "filename", "module", "exc_info",
    "exc_text", "stack_info", "lineno", "funcName", "created", "msecs", "relativeCreated", "thread",
    "threadName", "processName", "process"]

/-- The names that every record answers to because of its class.  Contexts supply none of them, and
an attribute under one of them is an extra one. -/
def classNames : List String :=
  ["getMessage", "__class__", "__delattr__", "__dict__", "__dir__", "__doc__", "__eq__",
    "__format__", "__ge__", "__getattribute__", "__getstate__", "__gt__", "__hash__", "__init__",
    "__init_subclass__", "__le__", "__lt__", "__module__", "__ne__", "__new__", "__reduce__",
    "__reduce_ex__", "__repr__", "__setattr__", "__sizeof__", "__str__", "__subclasshook__",
    "__weakref__"]

/-- The names of attributes that are not shown as extra ones. -/
def hiddenNames : List String := ownNames ++ ["message", "asctime"]

/-- The arguments of a message: a lone mapping with entries is looked up by key, all else goes in
order. -/
def arguments : List Value → Value
  | [.map (entry :: entries)] => .map (entry :: entries)
  | args => .tuple args

/-- The record of a message. -/
def make (logger : String) (level : Int) (template : Value) (args : List Value) (created : Value)
    (failure : Option Failure) : LogRecord where
  logger := .text logger
  level := .text (Level.name level)
  template := template
  args := arguments args
  created := created
  failure := .ok (failure.map Failure.report)
  extra := []

/-- What stands for the failure of a record: nothing if it does not count as given, and otherwise a
failure, which no other value is. -/
def failureOf (v : Value) : Except Fault (Option String) :=
  if v.truthy then .error (.notSubscriptable v.qualifiedKindName) else .ok none

/-- Writes an attribute. -/
def assign (r : LogRecord) (name : String) (v : Value) : LogRecord :=
  if name = "name" then { r with logger := v }
  else if name = "levelname" then { r with level := v }
  else if name = "msg" then { r with template := v }
  else if name = "args" then { r with args := v }
  else if name = "created" then { r with created := v }
  else if name = "exc_info" then { r with failure := failureOf v }
  else { r with extra := r.extra.set name v }

/-- Writes attributes one after the other. -/
def assignAll (r : LogRecord) (fields : Fields) : LogRecord :=
  fields.foldl (fun r field => r.assign field.1 field.2) r

/-- Whether a record has an attribute: one of its own, one because of its class, or an extra one. -/
def has (r : LogRecord) (name : String) : Bool :=
  ownNames.contains name || classNames.contains name || r.extra.has name

/-- The message of a record; without arguments a template is shown as it is.  An attribute that
stands where the record is asked for its message cannot be asked. -/
def message (r : LogRecord) : Except Fault String :=
  match r.extra.get? "getMessage" with
  | some v => .error (.notCallable v.qualifiedKindName)
  | none =>
    if r.args.truthy then Template.fill r.template.display r.args else .ok r.template.display

/-- An attribute that is not one of a record's own is written among the extra ones. -/
theorem assign_of_not_own (r : LogRecord) {name : String} (v : Value) (h : name ∉ ownNames) :
    r.assign name v = { r with extra := r.extra.set name v } := by
  simp only [ownNames, List.mem_cons, not_or] at h
  simp [assign, h]

/-- Assigning keeps every attribute, and adds the one assigned. -/
theorem has_assign (r : LogRecord) (name other : String) (v : Value) :
    (r.assign name v).has other = (r.has other || other == name) := by
  by_cases own : name ∈ ownNames
  · have same : (r.assign name v).extra = r.extra ∨
        (r.assign name v).extra = r.extra.set name v := by
      unfold assign
      repeat' split
      all_goals simp
    by_cases h : other = name
    · subst h
      simp [has, own]
    · have h' : (other == name) = false := by simpa using h
      rcases same with e | e <;> simp [has, e, Fields.has_set, h']
  · rw [assign_of_not_own r v own]
    simp [has, Fields.has_set, Bool.or_assoc]

end LogRecord

end QueryChain
