import QueryChain.Failure.TemplateFault
import QueryChain.Number.IsoText

/-!
# Faults

A value that is used in a way that its kind does not support ends the use with a fault.  A fault
belongs to a kind of error and has a text of its own.

## Main definitions

* `DateFault.message` — what the text of a day or a moment is told to lack.
* `Fault` — the ways to misuse a value, with `Fault.kind` and `Fault.message`.
* `Fault.ofPart` — the fault of a value that can be no key.
* `Fault.requireEncodable` — refuses a text that no bytes encode.
-/

set_option relaxedAutoImplicit false
set_option autoImplicit false

namespace QueryChain

namespace DateFault

/-- What a text, or a field of it, is told to lack. -/
def message : DateFault → String
  | malformed text => "Invalid isoformat string: " ++ Text.quoted text
  | year n => "year " ++ intText n ++ " is out of range"
  | month => "month must be in 1..12"
  | day => "day is out of range for month"
  | hour => "hour must be in 0..23"
  | minute => "minute must be in 0..59"
  | second => "second must be in 0..59"
  | offset micros =>
    "offset must be a timedelta strictly between -timedelta(hours=24) and timedelta(hours=24), not "
      ++ Value.durationLiteral micros ++ "."

end DateFault

/-- A use of a value that its kind does not support. -/
inductive Fault where
  | notIterable (kind : String)
  | noLength (kind : String)
  | noMember (kind member : String)
  | notSubscriptable (kind : String)
  | notCallable (kind : String)
  | badSubscript (container kind : String)
  | badCharacterSubscript (kind : String)
  | listIndex
  | tupleIndex
  | characterIndex
  | byteIndex
  | hugeIndex
  | missingKey (shown : String)
  | unhashable (kind : String)
  | signalingKey
  | notPair (index : Nat)
  | pairLength (index length : Nat)
  | unordered (left right : String)
  | mixedOffsets
  | momentWithDate
  | decimalOperation
  | bytesSplit
  | notJoinable
  | joinedKind (index : Nat) (kind : String)
  | missingArguments (function : String) (names : List String)
  | extraArguments (function : String) (least most given : Nat)
  | unexpectedArgument (function name : String)
  | repeatedArgument (function name : String)
  | noSetter (part record : String)
  | classRequired (kind : String)
  | mappingRequired (kind : String)
  | numberRequired (kind : String)
  | nameRequired (kind : String)
  | tooManyDigits (count : Nat)
  | tooManyDigitsShown
  | decimalSyntax
  | floatSyntax (shown : String)
  | uuidSyntax
  | wholeSyntax (base : Nat) (shown : String)
  | hexSyntax (position : Nat)
  | countTooLarge
  | date (f : DateFault)
  | unknownOperator (shown : String)
  | unsupportedStatement (kind : String)
  | unreadableSetting (field source : String)
  | nestedTooDeep (container : String)
  | nullInVariable
  | variableName
  | emptyVariableName
  | keyKind (kind : String)
  | plainKeyKind (kind : String)
  | unknownKind (qualified : String)
  | undecodable (byte start stop : Nat) (reason : String)
  | unencodable (shown : String) (start stop : Nat)
  | unknownLevel (logger : String)
  | unknownRootLevel
  | yearOutOfRange (year : Int)
  | timestampOutOfRange
  | timestampTooLarge
  | notANumber
  | reservedAttribute (name : String)
  | template (f : TemplateFault)
deriving DecidableEq, Repr

namespace Fault

/-- The kind of error that a fault is. -/
def kind : Fault → ErrorKind
  | noMember .. | noSetter .. => .member
  | unknownOperator _ | pairLength .. | tooManyDigits _ | tooManyDigitsShown | unknownLevel _
  | unknownRootLevel
  | yearOutOfRange _ | notANumber | floatSyntax _ | uuidSyntax | wholeSyntax .. | hexSyntax _
  | date _ | nullInVariable | variableName | countTooLarge => .value
  | missingKey _ | reservedAttribute _ => .key
  | listIndex | tupleIndex | characterIndex | byteIndex | hugeIndex => .index
  | unsupportedStatement _ => .notImplemented
  | unreadableSetting .. => .settings
  | nestedTooDeep _ => .recursion
  | timestampOutOfRange => .overflow
  | timestampTooLarge | emptyVariableName => .os
  | decimalOperation | decimalSyntax => .decimalOperation
  | unknownKind _ => .serialization
  | undecodable .. => .unicodeDecode
  | unencodable .. => .unicodeEncode
  | template f => f.kind
  | _ => .type

/-- Names in quotes, with commas between them and the word `and` before the last one. -/
def listed : List String → String
  | [] => ""
  | [a] => Text.quoted a
  | [a, b] => Text.quoted a ++ " and " ++ Text.quoted b
  | names =>
    String.intercalate ", " (names.dropLast.map Text.quoted) ++ ", and "
      ++ Text.quoted (names.getLast?.getD "")

/-- Where in a text or a byte string something is: one position, or the first and the last one. -/
def positions (one many : String) (start stop : Nat) : String :=
  if stop ≤ start + 1 then one ++ " in position " ++ natText start
  else many ++ " in position " ++ natText start ++ "-" ++ natText (stop - 1)

/-- What a call with too many arguments is told. -/
def extraText (function : String) (least most given : Nat) : String :=
  let range :=
    if least = most then natText most ++ " positional argument" ++ (if most = 1 then "" else "s")
    else "from " ++ natText least ++ " to " ++ natText most ++ " positional arguments"
  function ++ "() takes " ++ range ++ " but " ++ natText given
    ++ (if given = 1 then " was" else " were") ++ " given"

/-- What a fault says. -/
def message : Fault → String
  | notIterable kind => "\x27" ++ kind ++ "\x27 object is not iterable"
  | noLength kind => "object of type \x27" ++ kind ++ "\x27 has no len()"
  | noMember kind member =>
    "\x27" ++ kind ++ "\x27 object has no attribute \x27" ++ member ++ "\x27"
  | notSubscriptable kind => "\x27" ++ kind ++ "\x27 object is not subscriptable"
  | notCallable kind => "\x27" ++ kind ++ "\x27 object is not callable"
  | badSubscript container kind =>
    container ++ " indices must be integers or slices, not " ++ kind
  | badCharacterSubscript kind => "string indices must be integers, not \x27" ++ kind ++ "\x27"
  | listIndex => "list index out of range"
  | tupleIndex => "tuple index out of range"
  | characterIndex => "string index out of range"
  | byteIndex => "index out of range"
  | hugeIndex => "cannot fit \x27int\x27 into an index-sized integer"
  | missingKey shown => shown
  | unhashable kind => "unhashable type: \x27" ++ kind ++ "\x27"
  | signalingKey => "Cannot hash a signaling NaN value"
  | notPair index =>
    "cannot convert dictionary update sequence element #" ++ natText index ++ " to a sequence"
  | pairLength index length =>
    "dictionary update sequence element #" ++ natText index ++ " has length " ++ natText length
      ++ "; 2 is required"
  | unordered left right =>
    "\x27<\x27 not supported between instances of \x27" ++ left ++ "\x27 and \x27" ++ right
      ++ "\x27"
  | mixedOffsets => "can\x27t compare offset-naive and offset-aware datetimes"
  | momentWithDate => "can\x27t compare datetime.datetime to datetime.date"
  | decimalOperation => "[<class \x27decimal.InvalidOperation\x27>]"
  | bytesSplit => "a bytes-like object is required, not \x27str\x27"
  | notJoinable => "can only join an iterable"
  | joinedKind index kind =>
    "sequence item " ++ natText index ++ ": expected str instance, " ++ kind ++ " found"
  | missingArguments function names =>
    function ++ "() missing " ++ natText names.length ++ " required positional argument"
      ++ (if names.length = 1 then ": " else "s: ") ++ listed names
  | extraArguments function least most given => extraText function least most given
  | unexpectedArgument function name =>
    function ++ "() got an unexpected keyword argument \x27" ++ name ++ "\x27"
  | repeatedArgument function name =>
    function ++ "() got multiple values for argument \x27" ++ name ++ "\x27"
  | noSetter part record =>
    "property \x27" ++ part ++ "\x27 of \x27" ++ record ++ "\x27 object has no setter"
  | classRequired kind => "__class__ must be set to a class, not \x27" ++ kind ++ "\x27 object"
  | mappingRequired kind => "__dict__ must be set to a dictionary, not a \x27" ++ kind ++ "\x27"
  | numberRequired kind => "\x27" ++ kind ++ "\x27 object cannot be interpreted as an integer"
  | nameRequired kind => "attribute name must be string, not \x27" ++ kind ++ "\x27"
  | tooManyDigits count =>
    "Exceeds the limit (4300 digits) for integer string conversion: value has " ++ natText count
      ++ " digits; use sys.set_int_max_str_digits() to increase the limit"
  | tooManyDigitsShown =>
    "Exceeds the limit (4300 digits) for integer string conversion; use "
      ++ "sys.set_int_max_str_digits() to increase the limit"
  | decimalSyntax => "[<class \x27decimal.ConversionSyntax\x27>]"
  | floatSyntax shown => "could not convert string to float: " ++ shown
  | uuidSyntax => "badly formed hexadecimal UUID string"
  | wholeSyntax base shown =>
    "invalid literal for int() with base " ++ natText base ++ ": " ++ shown
  | hexSyntax position =>
    "non-hexadecimal number found in fromhex() arg at position " ++ natText position
  | countTooLarge => "cannot fit \x27int\x27 into an index-sized integer"
  | date f => f.message
  | unknownOperator shown => shown ++ " is not a valid FilterOperator"
  | unsupportedStatement kind =>
    "Operation type " ++ kind ++ " not supported by PostgresQueryCompiler"
  | unreadableSetting field source =>
    "error parsing value for field \"" ++ field ++ "\" from source \"" ++ source ++ "\""
  | nestedTooDeep container =>
    "maximum recursion depth exceeded while decoding a JSON " ++ container
      ++ " from a unicode string"
  | nullInVariable => "embedded null byte"
  | variableName => "illegal environment variable name"
  | emptyVariableName => "[Errno 22] Invalid argument"
  | keyKind kind => "keys must be str, int, float, bool or None, not " ++ kind
  | plainKeyKind kind => "\x60" ++ kind ++ "\x60 not valid as object key"
  | unknownKind qualified =>
    "Unable to serialize unknown type: <class \x27" ++ qualified ++ "\x27>"
  | undecodable byte start stop reason =>
    "\x27utf-8\x27 codec can\x27t decode "
      ++ positions ("byte 0x" ++ Text.hexPadded 2 byte) "bytes" start stop ++ ": " ++ reason
  | unencodable shown start stop =>
    "\x27utf-8\x27 codec can\x27t encode "
      ++ positions ("character " ++ shown) "characters" start stop ++ ": surrogates not allowed"
  | unknownLevel logger => "Unable to configure logger " ++ Text.quoted logger
  | unknownRootLevel => "Unable to configure root logger"
  | yearOutOfRange year => "year " ++ intText year ++ " is out of range"
  | timestampOutOfRange => "timestamp out of range for platform time_t"
  | timestampTooLarge => "[Errno 75] Value too large for defined data type"
  | notANumber => "Invalid value NaN (not a number)"
  | reservedAttribute name =>
    Text.quoted ("Attempt to overwrite " ++ Text.quoted name ++ " in LogRecord")
  | template f => f.message

/-- The fault of a value that can be no key, for the part of it that stands in the way. -/
def ofPart : Value → Fault
  | .decimal _ => signalingKey
  | part => unhashable part.qualifiedKindName

/-- Refuses a text that no bytes encode, for the halves of pairs in it that may not be skipped. -/
def requireEncodable (skip : Nat → Bool) (s : String) : Except Fault Unit :=
  match Text.firstHalves? skip 0 s.toList with
  | some (start, stop, half) =>
    .error (unencodable ("\x27\\u" ++ Text.hexPadded 4 half ++ "\x27") start stop)
  | none => .ok ()

end Fault

/-- Refuses a value that can be no key. -/
def Value.requireKey (v : Value) : Except Fault Unit :=
  match v.notKey? with
  | some part => .error (.ofPart part)
  | none => .ok ()

end QueryChain
