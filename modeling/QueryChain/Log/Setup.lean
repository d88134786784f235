import QueryChain.Log.Context
import QueryChain.Log.Line
import QueryChain.Text.Blank
import QueryChain.Text.UpperCase

/-!
# Setup of the log

Loggers form a tree by the dots in their names.  A logger without a level of its own takes that of
the nearest logger above it that has one.  The setup gives one logger a level and lets it write the
lines of every record at or below it.

## Main definitions

* `Loggers` — the levels of loggers; `Loggers.levelFor` — the level in force.
* `LogSetup`, `Loggers.setUp` — the setup of one logger.
* `Emission`, `LogSetup.emit` — what is logged, and the line that comes of it.
-/

set_option relaxedAutoImplicit false
set_option autoImplicit false

namespace QueryChain

/-- The levels of loggers: that of the root, and those by name.  A level of zero is none. -/
structure Loggers where
  rootLevel : Int
  levels : List (String × Int)
deriving Repr

/-- Something to be logged. -/
structure Emission where
  logger : String
  level : Int
  template : Value
  args : List Value
  extra : Fields

namespace Loggers

/-- Whether a name is that of the root. -/
def isRoot (name : String) : Bool := name == "" || name == "root"

/-- The loggers above a name, and the name itself, the nearest first. -/
def lineage (name : String) : List String :=
  let parts := Text.segments '.' name
  ((List.range parts.length).map fun i => Text.join "." (parts.take (i + 1))).reverse

/-- The level in force for a logger. -/
def levelFor (loggers : Loggers) (name : String) : Int :=
  if isRoot name then loggers.rootLevel
  else
    ((lineage name).findSome? fun ancestor =>
      match loggers.levels.lookup ancestor with
      | some level => if level = 0 then none else some level
      | none => none).getD loggers.rootLevel

/-- Whether a logger lets a level pass. -/
def passes (loggers : Loggers) (name : String) (level : Int) : Bool :=
  decide (0 < level ∧ loggers.levelFor name ≤ level)

/-- Gives a logger a level. -/
def setLevel (loggers : Loggers) (name : String) (level : Int) : Loggers :=
  if isRoot name then { loggers with rootLevel := level }
  else { loggers with levels := (name, level) :: loggers.levels }

end Loggers

/-- The setup of one logger, with the levels after it. -/
structure LogSetup where
  loggers : Loggers
  logger : String
  level : Int
deriving Repr

/-- Sets up a logger with a level given by name, in either case. -/
def Loggers.setUp (loggers : Loggers) (levelName logger : String) : Except Fault LogSetup :=
  match Level.ofName? (Text.upper levelName) with
  | some level => .ok ⟨loggers.setLevel logger level, logger, level⟩
  | none => .error (if logger = "" then .unknownRootLevel else .unknownLevel logger)

namespace LogSetup

/-- Whether records also reach the loggers above; only the root is set up so. -/
def propagates (s : LogSetup) : Bool := s.logger == ""

/-- Whether the lines of a logger's records are written. -/
def covers (s : LogSetup) (name : String) : Bool :=
  Loggers.isRoot s.logger || (Loggers.lineage name).contains s.logger

/-- The record of an emission.  An attribute that records have of their own cannot be given as an
extra one. -/
def record (e : Emission) : Except Fault LogRecord :=
  match e.extra.find? fun field => LogRecord.hiddenNames.contains field.1 with
  | some field => .error (.reservedAttribute field.1)
  | none =>
    let logger := if e.logger = "" then "root" else e.logger
    .ok ((LogRecord.make logger e.level e.template e.args (.int 0) none).assignAll e.extra)

/-- The line of an emission, if its logger lets it pass and lines are written for it.  A record that
cannot be written leaves no line. -/
def emit (s : LogSetup) (c : LogContext) (e : Emission) : Except Fault (Option String) :=
  if s.loggers.passes e.logger e.level then do
    let r ← record e
    return if s.covers e.logger then (c.applyTo r).line.toOption else none
  else .ok none

/-- The lines of emissions, in order. -/
def emitAll (s : LogSetup) (c : LogContext) : List Emission → Except Fault (List String)
  | [] => .ok []
  | e :: es => do
    let line ← s.emit c e
    return line.toList ++ (← emitAll s c es)

end LogSetup

end QueryChain
