import QueryChain.Failure.Fault

/-!
# Taking values apart

Values of any kind can be asked for their elements, their length, and the part under a key.  A value
whose kind does not support the question ends it with a fault.

## Main definitions

* `Value.elements`, `Value.length` — the elements of a value, and how many there are.
* `Value.part` — the part of a value under a key.
* `Value.entries` — a value as the entries of a mapping: a mapping, or pairs of key and value.
* `Value.joined` — the texts among the elements of a value, as one text.

## Main results

* `Value.elementAt_last` — the index minus one is that of the last element.
-/

set_option relaxedAutoImplicit false
set_option autoImplicit false

namespace QueryChain.Value

/-- The elements of a value. -/
def elements (v : Value) : Except Fault (List Value) :=
  match v.elements? with
  | some xs => .ok xs
  | none => .error (.notIterable v.qualifiedKindName)

/-- How many elements a value has; generators do not say. -/
def length (v : Value) : Except Fault Nat :=
  match v with
  | generator _ => .error (.noLength v.qualifiedKindName)
  | _ =>
    match v.elements? with
    | some xs => .ok xs.length
    | none => .error (.noLength v.qualifiedKindName)

/-! ### Parts -/

/-- The index that a value gives; truth values count as zero and one. -/
def index? : Value → Option Int
  | int n => some n
  | bool b => some (if b then 1 else 0)
  | _ => none

/-- The element at an index, counted from the end if the index is negative. -/
def elementAt (outside : Fault) (xs : List Value) (i : Int) : Except Fault Value :=
  if i < -9223372036854775808 ∨ 9223372036854775808 ≤ i then .error .hugeIndex
  else
    let position := if i < 0 then i + xs.length else i
    if position < 0 then .error outside
    else
      match xs[position.toNat]? with
      | some x => .ok x
      | none => .error outside

/-- The part of a value under a key: the element of a sequence at an index, or the value of a
mapping under the key. -/
def part (v key : Value) : Except Fault Value :=
  let indexed (outside bad : Fault) (xs : List Value) :=
    match key.index? with
    | some i => elementAt outside xs i
    | none => .error bad
  let kind := key.qualifiedKindName
  match v with
  | list xs => indexed .listIndex (.badSubscript "list" kind) xs
  | tuple xs => indexed .tupleIndex (.badSubscript "tuple" kind) xs
  | bytes bs => indexed .byteIndex (.badSubscript "byte" kind) (bs.map fun b => int b.toNat)
  | text s =>
    indexed .characterIndex (.badCharacterSubscript kind)
      (s.toList.map fun c => text (String.singleton c))
  | map entries => do
    key.requireKey
    match Entries.get? entries key with
    | some x => .ok x
    | none => .error (.missingKey key.literal)
  | _ => .error (.notSubscriptable v.qualifiedKindName)

/-- The index minus one is that of the last element. -/
theorem elementAt_last (outside : Fault) (xs : List Value) (x : Value) :
    elementAt outside (xs ++ [x]) (-1) = .ok x := by
  have position : (-1 + ((xs.length : Int) + 1)) = xs.length := by omega
  simp [elementAt, position]

/-! ### Mappings -/

/-- The key and the value of the pair at a position. -/
def pair (position : Nat) (v : Value) : Except Fault (Value × Value) :=
  match v.elements? with
  | none => .error (.notPair position)
  | some [key, x] => key.requireKey.map fun _ => (key, x)
  | some xs => .error (.pairLength position xs.length)

/-- Pairs one after the other as entries of a mapping. -/
def addPairs (position : Nat) (entries : Entries) : List Value → Except Fault Entries
  | [] => .ok entries
  | v :: vs => do
    let (key, x) ← pair position v
    addPairs (position + 1) (Entries.set entries key x) vs

/-- A value as the entries of a mapping: those of a mapping, or its elements as pairs. -/
def entries : Value → Except Fault Entries
  | map entries => .ok entries
  | v => do addPairs 0 [] (← v.elements)

/-! ### Texts -/

/-- The texts of a list of values, from a position on. -/
def textsFrom (position : Nat) : List Value → Except Fault (List String)
  | [] => .ok []
  | text s :: rest => (textsFrom (position + 1) rest).map (s :: ·)
  | v :: _ => .error (.joinedKind position v.qualifiedKindName)

/-- The elements of a value, which have to be texts, with a separator between neighbours. -/
def joined (separator : String) (v : Value) : Except Fault String :=
  match v.elements? with
  | none => .error .notJoinable
  | some xs => (textsFrom 0 xs).map (String.intercalate separator)

end QueryChain.Value
