import QueryChain.Settings.Database
import QueryChain.Statement.Name
import QueryChain.Text.UpperCase

/-!
# Settings

The settings of the library: the database, the environment it runs in, the level of its log, and the
rules for names in statements.

## Main definitions

* `Settings`, `Settings.default` — the settings.
* `Settings.ofFields` — the settings from loose fields.
* `Settings.nameRules` — the rules for names that the settings set.
* `Settings.dump` — the settings as fields.
-/

set_option relaxedAutoImplicit false
set_option autoImplicit false

namespace QueryChain

/-- The settings of the library. -/
structure Settings where
  database : DatabaseSettings
  appEnv : String
  logLevel : String
  defaultConflict : String
  maxNameLength : Nat
deriving Repr

namespace Settings

/-- The settings in force when nothing is given. -/
def default : Settings where
  database := DatabaseSettings.default
  appEnv := "dev"
  logLevel := "INFO"
  defaultConflict := "id"
  maxNameLength := 63

/-- The levels that the log can be set to. -/
def levelNames : List String := ["DEBUG", "INFO", "WARNING", "ERROR", "CRITICAL"]

/-- Checks the name of a level and turns it into upper case. -/
def checkLevel (s : String) : Checked String :=
  if levelNames.contains (Text.upper s) then .ok (Text.upper s)
  else .fail (.refused ("Invalid log level: " ++ s))

/-- Reads the name of a level. -/
def readLevel (v : Value) : Checked String := Reader.text v >>= checkLevel

/-- Checks a default conflict target: plain names, with commas between. -/
def checkDefaultConflict (s : String) : Checked String :=
  let columns := NameRules.conflictSegments s
  match columns.find? fun column => !Name.isPlain (Name.withoutFinalNewline column.toList) with
  | some column =>
    .fail (.refused ("Invalid default conflict column \x27" ++ column
      ++ "\x27. Columns must be plain identifiers."))
  | none => .ok (Text.join ", " columns)

/-- Reads a default conflict target. -/
def readDefaultConflict (v : Value) : Checked String := Reader.text v >>= checkDefaultConflict

/-- Reads the greatest length of a name. -/
def readMaxNameLength (v : Value) : Checked Nat :=
  (Reader.intBetween 1 128 v).map Int.toNat

/-- Settings from loose fields; fields of other names are ignored. -/
def ofFields (given : Fields) : Checked Settings :=
  ((Reader.optional given "database" default.database DatabaseSettings.read).and
    ((Reader.optional given "app_env" default.appEnv Reader.text).and
      ((Reader.optional given "log_level" default.logLevel readLevel).and
        ((Reader.optional given "default_conflict_target" default.defaultConflict
            readDefaultConflict).and
          (Reader.optional given "max_identifier_length" default.maxNameLength
            readMaxNameLength))))).map
    fun (database, env, level, conflict, length) => ⟨database, env, level, conflict, length⟩

/-- The names of the settings that are single texts or numbers. -/
def plainNames : List String :=
  ["app_env", "log_level", "default_conflict_target", "max_identifier_length"]

/-- The rules for names that the settings set. -/
def nameRules (s : Settings) : NameRules := ⟨s.maxNameLength, s.defaultConflict⟩

/-- The settings as fields. -/
def dump (s : Settings) : Fields :=
  [("database", s.database.dump.toValue), ("app_env", .text s.appEnv),
    ("log_level", .text s.logLevel), ("default_conflict_target", .text s.defaultConflict),
    ("max_identifier_length", .int s.maxNameLength)]

end Settings

end QueryChain
