/-!
# Kinds of error

The kinds of error that drivers raise and faults belong to.  Errors of the operating system are the
kinds that carry a number.

## Main definitions

* `ErrorKind` — the kinds, with `ErrorKind.name` and `ErrorKind.ofName?`.
* `ErrorKind.ofSystemNumber?` — the kind of a system error number.
* `ErrorFamily` — where errors of any other class belong.

## Main results

* `ErrorKind.ofName?_name` — every kind has a name of its own.
-/

set_option relaxedAutoImplicit false
set_option autoImplicit false

namespace QueryChain

/-- The kinds of error that drivers raise and faults belong to. -/
inductive ErrorKind where
  | exception
  | runtime
  | value
  | type
  | member
  | index
  | key
  | zeroDivision
  | overflow
  | notImplemented
  | settings
  | os
  | timeout
  | connectionRefused
  | connectionReset
  | connectionAborted
  | brokenPipe
  | blocking
  | childProcess
  | fileExists
  | fileNotFound
  | interrupted
  | isDirectory
  | notDirectory
  | permission
  | processLookup
  | recursion
  | decimalOperation
  | serialization
  | unicodeDecode
  | unicodeEncode
  | cancelled
deriving DecidableEq, Repr

/-- Where errors of a class that is none of the kinds belong: among the errors about an unsuitable
value, the signals that end an iteration, the other errors, or what ends a program without being an
error, as a cancellation does. -/
inductive ErrorFamily where
  | plain
  | value
  | stop
  | exit
deriving DecidableEq, Repr

namespace ErrorKind

/-- The name under which an error of a kind is logged and reported. -/
def name : ErrorKind → String
  | exception => "Exception"
  | runtime => "RuntimeError"
  | value => "ValueError"
  | type => "TypeError"
  | member => "AttributeError"
  | index => "IndexError"
  | key => "KeyError"
  | zeroDivision => "ZeroDivisionError"
  | overflow => "OverflowError"
  | notImplemented => "NotImplementedError"
  | settings => "SettingsError"
  | os => "OSError"
  | timeout => "TimeoutError"
  | connectionRefused => "ConnectionRefusedError"
  | connectionReset => "ConnectionResetError"
  | connectionAborted => "ConnectionAbortedError"
  | brokenPipe => "BrokenPipeError"
  | blocking => "BlockingIOError"
  | childProcess => "ChildProcessError"
  | fileExists => "FileExistsError"
  | fileNotFound => "FileNotFoundError"
  | interrupted => "InterruptedError"
  | isDirectory => "IsADirectoryError"
  | notDirectory => "NotADirectoryError"
  | permission => "PermissionError"
  | processLookup => "ProcessLookupError"
  | recursion => "RecursionError"
  | decimalOperation => "InvalidOperation"
  | serialization => "PydanticSerializationError"
  | unicodeDecode => "UnicodeDecodeError"
  | unicodeEncode => "UnicodeEncodeError"
  | cancelled => "CancelledError"

/-- All kinds. -/
def all : List ErrorKind :=
  [exception, runtime, value, type, member, index, key, zeroDivision, overflow, notImplemented,
    settings, os, timeout, connectionRefused, connectionReset, connectionAborted,
    brokenPipe, blocking, childProcess, fileExists, fileNotFound, interrupted, isDirectory,
    notDirectory, permission, processLookup, recursion, decimalOperation, serialization,
    unicodeDecode, unicodeEncode, cancelled]

/-- The kind of a name. -/
def ofName? (s : String) : Option ErrorKind := all.find? fun kind => kind.name == s

/-- Whether errors of a kind come from the operating system and may carry a number and a text. -/
def isSystem : ErrorKind → Bool
  | os | timeout | connectionRefused | connectionReset | connectionAborted | brokenPipe | blocking
  | childProcess | fileExists | fileNotFound | interrupted | isDirectory | notDirectory
  | permission | processLookup => true
  | _ => false

/-- The more specific kind of a system error number. -/
def ofSystemNumber? : Int → Option ErrorKind
  | 1 | 13 => some permission
  | 2 => some fileNotFound
  | 3 => some processLookup
  | 4 => some interrupted
  | 10 => some childProcess
  | 11 | 114 | 115 => some blocking
  | 17 => some fileExists
  | 20 => some notDirectory
  | 21 => some isDirectory
  | 32 | 108 => some brokenPipe
  | 103 => some connectionAborted
  | 104 => some connectionReset
  | 110 => some timeout
  | 111 => some connectionRefused
  | _ => none

/-- Whether errors of a kind are about an unsuitable value. -/
def isValueError : ErrorKind → Bool
  | value | settings | serialization | unicodeDecode | unicodeEncode => true
  | _ => false

/-- Every kind has a name of its own. -/
theorem ofName?_name (kind : ErrorKind) : ofName? kind.name = some kind := by cases kind <;> rfl

end ErrorKind

end QueryChain
