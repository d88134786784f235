import QueryChain.Schema.Reader

/-!
# Settings of the database

Where the database is and how its connections are pooled.  The address is a secret: it is shown as a
row of stars, and so is never part of a dump or a literal.

## Main definitions

* `DatabaseSettings` — the settings, with defaults.
* `DatabaseSettings.ofFields` — the settings from loose fields.
* `DatabaseSettings.address?` — the address, unless it is missing or empty.
* `DatabaseSettings.dump`, `DatabaseSettings.shown` — the settings without the address.
-/

set_option relaxedAutoImplicit false
set_option autoImplicit false

namespace QueryChain

/-- Where the database is and how its connections are pooled. -/
structure DatabaseSettings where
  url : Option String
  echo : Bool
  poolSize : Nat
  maxOverflow : Nat
  poolTimeout : Binary64
  prePing : Bool
deriving Repr

namespace DatabaseSettings

/-- The settings in force when nothing is given. -/
def default : DatabaseSettings where
  url := none
  echo := false
  poolSize := 5
  maxOverflow := 10
  poolTimeout := Binary64.ofInt 30
  prePing := true

/-- Reads an address, which may be null. -/
def readUrl : Value → Checked (Option String)
  | .null => .ok none
  | v =>
    match Reader.text v with
    | .ok s => .ok (some s)
    | .error _ => .fail .stringType

/-- Reads a number between two bounds. -/
def readCount (low high : Nat) (v : Value) : Checked Nat :=
  (Reader.intBetween low high v).map Int.toNat

/-- Reads a positive number of seconds. -/
def readTimeout (v : Value) : Checked Binary64 := Reader.float v >>= Reader.positive

/-- Settings from loose fields; fields of other names are ignored. -/
def ofFields (given : Fields) : Checked DatabaseSettings :=
  ((Reader.optional given "url" default.url readUrl).and
    ((Reader.optional given "echo" default.echo Reader.bool).and
      ((Reader.optional given "pool_size" default.poolSize (readCount 1 100)).and
        ((Reader.optional given "max_overflow" default.maxOverflow (readCount 0 100)).and
          ((Reader.optional given "pool_timeout" default.poolTimeout readTimeout).and
            (Reader.optional given "pool_pre_ping" default.prePing Reader.bool)))))).map
    fun (url, echo, size, overflow, timeout, ping) => ⟨url, echo, size, overflow, timeout, ping⟩

/-- Reads settings given as a mapping. -/
def read (v : Value) : Checked DatabaseSettings := Reader.record "DatabaseSettings" v >>= ofFields

/-- The names of the settings. -/
def fieldNames : List String :=
  ["url", "echo", "pool_size", "max_overflow", "pool_timeout", "pool_pre_ping"]

/-- The address, unless it is missing or empty. -/
def address? (s : DatabaseSettings) : Option String :=
  match s.url with
  | some url => if url = "" then none else some url
  | none => none

/-- Whether the database is a file of the embedded kind, whose pools take no sizes. -/
def isSqlite (s : DatabaseSettings) : Bool :=
  ((s.address?.map fun url => "sqlite".toList.isPrefixOf url.toList)).getD false

/-- The kind of database that an address names: what stands before its first colon, without the
name of a driver behind a plus. -/
def systemOf (url : String) : String :=
  String.ofList ((url.toList.takeWhile (· != ':')).takeWhile (· != '+'))

/-- The kind of database, as telemetry names it. -/
def system (s : DatabaseSettings) : String := systemOf (s.address?.getD "sql")

/-- What stands for a secret: stars, or nothing for an empty one. -/
def masked (secret : String) : String := if secret = "" then "" else "**********"

/-- The settings as fields, the address masked. -/
def dump (s : DatabaseSettings) : Fields :=
  [("url", (s.url.map fun url => Value.text (masked url)).getD .null), ("echo", .bool s.echo),
    ("pool_size", .int s.poolSize), ("max_overflow", .int s.maxOverflow),
    ("pool_timeout", .float s.poolTimeout), ("pool_pre_ping", .bool s.prePing)]

/-- The settings on one line, the address masked. -/
def shown (s : DatabaseSettings) : String :=
  let url := (s.url.map fun url => "SecretStr(" ++ Text.quoted (masked url) ++ ")").getD "None"
  let rest := (s.dump.drop 1).map fun field => field.1 ++ "=" ++ field.2.literal
  "DatabaseSettings(" ++ String.intercalate ", " (("url=" ++ url) :: rest) ++ ")"

/-- Two addresses that name the same kind of database in front of their first colon cannot be told
apart by telemetry. -/
theorem systemOf_congr {url other : String}
    (h : url.toList.takeWhile (· != ':') = other.toList.takeWhile (· != ':')) :
    systemOf url = systemOf other := by
  simp only [systemOf, h]

end DatabaseSettings

end QueryChain
