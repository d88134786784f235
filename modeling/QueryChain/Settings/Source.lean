import QueryChain.Json.Read
import QueryChain.Settings.Basic

/-!
# Where settings come from

Settings are given directly, by variables of the environment, and by a file of variables; what is
given first wins.  The names of variables have a prefix, and case does not count.  The database is a
group: a variable for the group holds a JSON mapping, and a variable for one of its settings has the
name of the setting behind two underscores.  Groups from several sources are laid over each other.

## Main definitions

* `Variables` — variables by name, each with a value or without.
* `Variables.fields` — the settings that variables give.
* `Value.overlay` — one mapping laid over another.
* `Settings.load` — the settings from all sources.
-/

set_option relaxedAutoImplicit false
set_option autoImplicit false

namespace QueryChain

namespace Value

mutual

/-- A value laid over another: mappings are laid over each other key by key, and any other value
replaces what was there. -/
def overlay (base : Value) : Value → Value
  | map entries =>
    match base with
    | map under => map (overlayEntries under entries)
    | _ => map entries
  | v => v

/-- Entries laid over others one by one. -/
def overlayEntries (under : Entries) : List (Value × Value) → Entries
  | [] => under
  | (k, v) :: rest =>
    overlayEntries (Entries.set under k (overlay ((Entries.get? under k).getD null) v)) rest

end

end Value

/-- Fields laid over others, group by group. -/
def Fields.overlay (base given : Fields) : Fields :=
  given.foldl (fun acc field => acc.set field.1 (((acc.get? field.1).getD .null).overlay field.2))
    base

/-- Variables by name, in the order in which they were set; one may have no value. -/
abbrev Variables := List (String × Option String)

namespace Variables

/-- A name in lower case. -/
def lower (name : String) : String := String.ofList (name.toList.map Char.toLower)

/-- Sets one variable: in its place if the name is there, else at the end. -/
def set (vars : Variables) (name : String) (value : Option String) : Variables :=
  match vars with
  | [] => [(name, value)]
  | (n, v) :: rest =>
    if n = name then (n, value) :: rest else (n, v) :: Variables.set rest name value

/-- A name or a value as an environment keeps it: in bytes. -/
def held (s : String) : String := Text.ofLooseUtf8 (Text.looseUtf8 s)

/-- Puts a variable into an environment.  Names and values are bytes without a null character, and a
name is not empty and has no equals sign. -/
def put (vars : Variables) (name value : String) : Except Fault Variables := do
  Fault.requireEncodable Text.isByteHalf name
  Fault.requireEncodable Text.isByteHalf value
  if name.toList.contains '\x00' ∨ value.toList.contains '\x00' then throw .nullInVariable
  if name.toList.contains '=' then throw .variableName
  if name = "" then throw .emptyVariableName
  return vars.set (held name) (some (held value))

/-- Takes a variable out of an environment, if it is there. -/
def remove (vars : Variables) (name : String) : Except Fault Variables := do
  Fault.requireEncodable Text.isByteHalf name
  return vars.filter fun var => var.1 != held name

/-- The variables with their names in lower case; of several the last one counts. -/
def lowered (vars : Variables) : Variables :=
  vars.foldl (fun acc var => set acc (lower var.1) var.2) []

/-- The value of a variable that has one. -/
def get? (vars : Variables) (name : String) : Option String := (vars.lookup name).join

/-- What the names of variables begin with. -/
def namePrefix : String := "fleetql_"

/-- The pieces of a name between pairs of underscores. -/
def piecesFrom (current : List Char) : List Char → List (List Char)
  | '_' :: '_' :: rest => current.reverse :: piecesFrom [] rest
  | c :: rest => piecesFrom (c :: current) rest
  | [] => [current.reverse]

/-- The path of keys that a name behind the name of a group spells. -/
def path (cs : List Char) : List String := (piecesFrom [] cs).map String.ofList

/-- Writes a value under a path of keys, making the mappings on the way.  A path through something
that is no mapping is left out. -/
def insertAt (entries : Value.Entries) : List String → Value → Value.Entries
  | [], _ => entries
  | [key], v => Value.Entries.set entries (.text key) v
  | key :: keys, v =>
    match Value.Entries.get? entries (.text key) with
    | none => Value.Entries.set entries (.text key) (.map (insertAt [] keys v))
    | some (.map inner) => Value.Entries.set entries (.text key) (.map (insertAt inner keys v))
    | some _ => entries

/-- The mapping that the variables of a group make. -/
def group (vars : Variables) (name : String) : Value.Entries :=
  let start := (namePrefix ++ name ++ "__").toList
  vars.foldl
    (fun acc var =>
      let cs := var.1.toList
      if start.isPrefixOf cs then
        insertAt acc (path (cs.drop start.length)) ((var.2.map Value.text).getD .null)
      else acc)
    []

/-- The keys of a group with the spelling of its settings, where they differ in case only. -/
def respell (names : List String) (entries : Value.Entries) : Value.Entries :=
  entries.foldl
    (fun acc entry =>
      let key :=
        match entry.1 with
        | .text s => Value.text ((names.find? fun name => name = lower s).getD s)
        | k => k
      Value.Entries.set acc key entry.2)
    []

/-- The group of the database, if the variables give it.  The variable of the whole group is read as
JSON, and the variables of single settings are laid over it; `source` names where the variables are
from. -/
def database? (source : String) (vars : Variables) : Except Failure (Option Value) :=
  let single := group vars "database"
  match get? vars (namePrefix ++ "database") with
  | none =>
    .ok (if single.isEmpty then none
      else some (.map (respell DatabaseSettings.fieldNames single)))
  | some text =>
    match Json.read text with
    | .error .malformed => .error (.fault (.unreadableSetting "database" source))
    | .error .deepList => .error (.fault (.nestedTooDeep "array"))
    | .error .deepMap => .error (.fault (.nestedTooDeep "object"))
    | .ok .null => .ok none
    | .ok (.map entries) =>
      .ok (some (.map (respell DatabaseSettings.fieldNames (Value.overlayEntries entries single))))
    | .ok v => .ok (some v)

/-- The settings that variables give. -/
def fields (source : String) (vars : Variables) : Except Failure Fields := do
  let vars := vars.lowered
  let database ← database? source vars
  return (database.toList.map fun v => ("database", v))
    ++ Settings.plainNames.filterMap fun name =>
        (get? vars (namePrefix ++ name)).map fun s => (name, .text s)

end Variables

namespace Settings

/-- Given fields under the names of settings, whatever the case of their letters; of several
spellings the first one counts. -/
def named (given : Fields) : Fields :=
  given.foldl
    (fun acc field =>
      let name := Variables.lower field.1
      if acc.has name then acc else acc ++ [(name, field.2)])
    []

/-- The settings from all sources: given fields before variables of the environment, and these
before variables of a file. -/
def load (given : Fields) (environment file : Variables) : Except Failure Settings := do
  let fromEnvironment ← environment.fields "EnvSettingsSource"
  let fromFile ← file.fields "DotEnvSettingsSource"
  match ofFields (fromFile.overlay (fromEnvironment.overlay (named given))) with
  | .ok settings => return settings
  | .error issues => .error (.invalid "_Settings" issues)

end Settings

end QueryChain
