import QueryChain.Failure.Kind
import QueryChain.Number.Calendar
import QueryChain.Number.Extended

/-!
# Values

What callers bind to placeholders, put into payload rows and get back from the database.  A chain
accepts values of any kind and checks them where they are used, so the kinds and their questions
(is it blank, can it be iterated, does it name the same key) are collected here.

The arguments of a call, generators included, are taken by value when the call is made: what the
caller does with a list, a mapping or a generator afterwards does not reach the chain that holds it.

## Main definitions

* `Value` — the values, and `Value.Entries`, the entries of a mapping in insertion order.
* `Refusal` — why a text cannot be had.
* `Problem` — what is kept of an error that is passed around as a value.
* `Value.kindName`, `Value.qualifiedKindName` — what error texts call the kind of a value.
* `Value.truthy` — whether a value counts as given.
* `Value.elements?` — the elements of a value that can be iterated.
* `Value.sameKey`, `Value.notKey?` — whether two values are one key, and what can be none.
* `Value.drained` — a value after all its generators were run to their end.
* `Value.Entries.set`, `Value.Entries.get?` — writing and reading one key.
-/

set_option relaxedAutoImplicit false
set_option autoImplicit false

namespace QueryChain

/-- Why a text cannot be had: it would show an integer with too many digits, or the class of an
error raises another error, of a class that only the caller knows, instead of giving the text.  The
other error may refuse its own text and its own literal in turn; a run asks for finitely many texts,
so that refusals of finite depth are enough. -/
inductive Refusal where
  | digits
  | raised (family : ErrorFamily) (kind qualified : String) (text literal : Except Refusal String)
deriving Repr

/-- What is kept of an error that is passed around as a value: the name of its kind, that name with
the place where the kind belongs, its text and its literal, if they can be had. -/
structure Problem where
  kind : String
  qualified : String
  text : Except Refusal String
  literal : Except Refusal String
deriving Repr

/-- A value that can be bound, stored in a row or returned.  Mappings keep their entries in
insertion order, with no two entries under the same key.  A generator yields its elements once. -/
inductive Value where
  | null
  | bool (b : Bool)
  | int (n : Int)
  | float (x : Binary64)
  | text (s : String)
  | bytes (bs : List UInt8)
  | decimal (d : Decimal)
  | uuid (n : Nat)
  | moment (m : Moment)
  | date (d : CalendarDay)
  | list (xs : List Value)
  | tuple (xs : List Value)
  | map (entries : List (Value × Value))
  | generator (xs : List Value)
  | problem (p : Problem)
deriving Repr, Inhabited

namespace Value

/-- The entries of a mapping in insertion order. -/
abbrev Entries := List (Value × Value)

/-- What payload errors call the kind of a value. -/
def kindName : Value → String
  | null => "NoneType"
  | bool _ => "bool"
  | int _ => "int"
  | float _ => "float"
  | text _ => "str"
  | bytes _ => "bytes"
  | decimal _ => "Decimal"
  | uuid _ => "UUID"
  | moment _ => "datetime"
  | date _ => "date"
  | list _ => "list"
  | tuple _ => "tuple"
  | map _ => "dict"
  | generator _ => "generator"
  | problem p => p.kind

/-- The kind of a value with the library it belongs to, as misuse errors write it. -/
def qualifiedKindName : Value → String
  | decimal _ => "decimal.Decimal"
  | moment _ => "datetime.datetime"
  | date _ => "datetime.date"
  | v => v.kindName

/-- Whether a value counts as given: neither null nor false, zero or empty. -/
def truthy : Value → Bool
  | null => false
  | bool b => b
  | int n => n != 0
  | float x => !x.isZero
  | text s => s != ""
  | bytes bs => !bs.isEmpty
  | decimal d => !d.isZero
  | uuid _ | moment _ | date _ | generator _ | problem _ => true
  | list xs | tuple xs => !xs.isEmpty
  | map entries => !entries.isEmpty

/-- Whether a value is null. -/
def isNull : Value → Bool
  | null => true
  | _ => false

/-- The elements of a value that can be iterated: those of a sequence, the characters of a text,
the numbers of a byte string, the keys of a mapping. -/
def elements? : Value → Option (List Value)
  | list xs | tuple xs | generator xs => some xs
  | map entries => some (entries.map Prod.fst)
  | text s => some (s.toList.map fun c => text (String.singleton c))
  | bytes bs => some (bs.map fun b => int b.toNat)
  | _ => none

/-- Where a number of any kind lies; truth values count as zero and one. -/
def number? : Value → Option Extended
  | bool b => some (.finite (.ofInt (if b then 1 else 0)))
  | int n => some (.finite (.ofInt n))
  | float x => some (.ofBinary64 x)
  | decimal d => some (.ofDecimal d)
  | _ => none

/-- Whether two values that are not sequences name the same key.  Numbers are compared by value,
whatever their kind, and moments with an offset by the instant they name.  Not-a-number, generators
and errors are never the same as another one. -/
def sameAtom (a b : Value) : Bool :=
  match a, b with
  | null, null => true
  | text s, text t => s == t
  | bytes s, bytes t => s == t
  | uuid m, uuid n => m == n
  | date d, date e => decide (d = e)
  | moment m, moment n =>
    m.offset.isSome == n.offset.isSome
      && (match m.instant?, n.instant? with
        | some i, some j => i == j
        | _, _ => m.micros == n.micros)
  | _, _ =>
    match a.number?, b.number? with
    | some x, some y => x.compare? y == some .eq
    | _, _ => false

mutual

/-- Whether two values name the same key of a mapping. -/
def sameKey : Value → Value → Bool
  | tuple xs, tuple ys => sameKeys xs ys
  | a, b => sameAtom a b

/-- Whether two sequences name the same keys in the same order. -/
def sameKeys : List Value → List Value → Bool
  | [], [] => true
  | x :: xs, y :: ys => sameKey x y && sameKeys xs ys
  | _, _ => false

end

mutual

/-- The part of a value that keeps it from being a key: a list, a mapping or a signaling
not-a-number, also as an element of a tuple. -/
def notKey? : Value → Option Value
  | list xs => some (list xs)
  | map entries => some (map entries)
  | decimal d => if d.isSignaling then some (decimal d) else none
  | tuple xs => notKeys? xs
  | _ => none

/-- The first part of a sequence that keeps it from being a key. -/
def notKeys? : List Value → Option Value
  | [] => none
  | x :: xs => (notKey? x).or (notKeys? xs)

end

mutual

/-- A value after all its generators were run to their end. -/
def drained : Value → Value
  | generator _ => generator []
  | list xs => list (drainedList xs)
  | tuple xs => tuple (drainedList xs)
  | map entries => map (drainedEntries entries)
  | v => v

/-- The elements of a sequence after all generators in them were run to their end. -/
def drainedList : List Value → List Value
  | [] => []
  | x :: xs => drained x :: drainedList xs

/-- The entries of a mapping after all generators under their keys were run to their end. -/
def drainedEntries : List (Value × Value) → List (Value × Value)
  | [] => []
  | (k, v) :: rest => (k, drained v) :: drainedEntries rest

end

/-- The text of a text value. -/
def text? : Value → Option String
  | text s => some s
  | _ => none

namespace Entries

/-- Writes one key: an entry under the same key takes the new value in its place, and a new key
goes to the end. -/
def set (entries : Entries) (key value : Value) : Entries :=
  match entries with
  | [] => [(key, value)]
  | (k, v) :: rest =>
    if k.sameKey key then (k, value) :: rest else (k, v) :: Entries.set rest key value

/-- The value under a key. -/
def get? (entries : Entries) (key : Value) : Option Value :=
  (entries.find? fun entry => entry.1.sameKey key).map Prod.snd

/-- The entries written one after the other into an empty mapping. -/
def ofList (entries : List (Value × Value)) : Entries :=
  entries.foldl (fun acc entry => Entries.set acc entry.1 entry.2) []

/-- The keys in order. -/
def keys (entries : Entries) : List Value := entries.map Prod.fst

end Entries

end Value

/-- Fields by name, in the order they were given, with no two of one name. -/
abbrev Fields := List (String × Value)

namespace Fields

/-- The value of a field. -/
def get? (fields : Fields) (name : String) : Option Value := fields.lookup name

/-- Writes one field: in its place if the name is there, else at the end. -/
def set (fields : Fields) (name : String) (value : Value) : Fields :=
  match fields with
  | [] => [(name, value)]
  | (n, v) :: rest => if n = name then (n, value) :: rest else (n, v) :: Fields.set rest name value

/-- Writes several fields one after the other. -/
def update (fields : Fields) (more : Fields) : Fields :=
  more.foldl (fun acc field => acc.set field.1 field.2) fields

/-- Whether a field of the name is there. -/
def has (fields : Fields) (name : String) : Bool := fields.any fun field => field.1 == name

/-- The fields after all generators in them were run to their end. -/
def drained (fields : Fields) : Fields := fields.map fun field => (field.1, field.2.drained)

/-- The fields as a mapping. -/
def toValue (fields : Fields) : Value :=
  .map (fields.map fun field => (.text field.1, field.2))

/-- Reading a field that was just written gives what was written. -/
theorem get?_set_self (fields : Fields) (name : String) (value : Value) :
    (fields.set name value).get? name = some value := by
  induction fields with
  | nil => simp [set, get?]
  | cons field rest ih =>
    obtain ⟨n, v⟩ := field
    by_cases h : n = name
    · simp [set, get?, h]
    · have : (name == n) = false := by simpa [beq_eq_false_iff_ne] using fun e => h e.symm
      simpa [set, get?, h, List.lookup_cons, this] using ih

/-- Writing a field adds its name, and takes none away. -/
theorem has_set (fields : Fields) (name other : String) (value : Value) :
    (fields.set name value).has other = (fields.has other || other == name) := by
  induction fields with
  | nil => simp [set, has, Bool.beq_comm]
  | cons field rest ih =>
    obtain ⟨n, v⟩ := field
    simp only [has] at ih ⊢
    by_cases h : n = name
    · subst h
      by_cases e : n = other
      · simp [set, e]
      · have e' : (other == n) = false := by simpa using fun x => e x.symm
        simp [set, e']
    · simp [set, h, ih, Bool.or_assoc]

/-- Writing one field leaves the others alone. -/
theorem get?_set_of_ne (fields : Fields) {name other : String} (value : Value) (h : other ≠ name) :
    (fields.set name value).get? other = fields.get? other := by
  induction fields with
  | nil =>
    have : (other == name) = false := by simpa using h
    simp [set, get?, List.lookup_cons, this]
  | cons field rest ih =>
    obtain ⟨n, v⟩ := field
    by_cases hn : n = name
    · subst hn
      have : (other == n) = false := by simpa using h
      simp [set, get?, List.lookup_cons, this]
    · by_cases ho : other == n
      · simp [set, get?, hn, List.lookup_cons, ho]
      · have ho' : (other == n) = false := by simpa using ho
        simpa [set, get?, hn, List.lookup_cons, ho'] using ih

end Fields

end QueryChain
