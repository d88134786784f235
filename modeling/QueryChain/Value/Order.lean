import QueryChain.Failure.Basic
import QueryChain.Sorting.Sort

/-!
# Sorting keys

The keys of a row are sorted when an error shows them.  Keys of different kinds have no order, and
which pair of them is reported depends on the order in which sorting compares them.

## Main definitions

* `Value.less` — whether one key comes before another, or the fault that they have no order.
* `Value.sortKeys` — keys in order.

## Main results

* `Value.less_text` — texts are ordered by the numbers of their characters.
-/

set_option relaxedAutoImplicit false
set_option autoImplicit false

namespace QueryChain.Value

/-- Lexicographic order of numbers, as used for texts, bytes and days. -/
def lessNats : List Nat → List Nat → Bool
  | [], [] => false
  | [], _ :: _ => true
  | _ :: _, [] => false
  | x :: xs, y :: ys => decide (x < y) || (x == y && lessNats xs ys)

/-- Whether one moment comes before another.  Moments with an offset are compared by universal time,
and cannot be compared with local ones. -/
def lessMoment (m n : Moment) : Except Fault Bool :=
  match m.instant?, n.instant? with
  | some i, some j => .ok (decide (i < j))
  | none, none => .ok (decide (m.micros < n.micros))
  | _, _ => .error .mixedOffsets

/-- Whether one number comes before another.  Not-a-number comes before nothing; in the company of
decimal numbers it cannot be compared. -/
def lessNumber (isDecimal : Bool) (x y : Extended) : Except Fault Bool :=
  match x.compare? y with
  | some order => .ok (order == .lt)
  | none => if isDecimal then .error .decimalOperation else .ok false

/-- Whether a value is a decimal number. -/
def isDecimal : Value → Bool
  | decimal _ => true
  | _ => false

/-- Whether one key without parts comes before another of its kind; numbers of all kinds are
compared by value. -/
def lessAtom (a b : Value) : Except Fault Bool :=
  match a, b with
  | text s, text t => .ok (lessNats (Text.codes s) (Text.codes t))
  | bytes s, bytes t => .ok (lessNats (s.map UInt8.toNat) (t.map UInt8.toNat))
  | uuid m, uuid n => .ok (decide (m < n))
  | date d, date e => .ok (lessNats [d.year, d.month, d.day] [e.year, e.month, e.day])
  | moment m, moment n => lessMoment m n
  | moment _, date _ | date _, moment _ => .error .momentWithDate
  | _, _ =>
    match a.number?, b.number? with
    | some x, some y => lessNumber (a.isDecimal || b.isDecimal) x y
    | _, _ => .error (.unordered a.qualifiedKindName b.qualifiedKindName)

mutual

/-- Whether one key comes before another. -/
def less : Value → Value → Except Fault Bool
  | tuple xs, tuple ys => lessKeys xs ys
  | a, b => lessAtom a b

/-- Whether one sequence of keys comes before another: the first difference decides. -/
def lessKeys : List Value → List Value → Except Fault Bool
  | [], [] => .ok false
  | [], _ :: _ => .ok true
  | _ :: _, [] => .ok false
  | x :: xs, y :: ys => if sameKey x y then lessKeys xs ys else less x y

end

/-- Keys in order. -/
def sortKeys (keys : List Value) : Except Fault (List Value) := Sorting.sort less keys

/-- Texts are ordered by the numbers of their characters. -/
theorem less_text (s t : String) :
    less (text s) (text t) = .ok (lessNats (Text.codes s) (Text.codes t)) := by
  simp [less, lessAtom]

end QueryChain.Value
