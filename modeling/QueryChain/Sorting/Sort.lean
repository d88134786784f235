import QueryChain.Sorting.Merge

/-!
# Sorting by runs

A list is sorted stably by the runs it has already.  Each run is taken from the front; a falling one
is turned round, and a short one is made longer by inserting the elements behind it.  Runs are
merged with their neighbours such that the merges form a nearly balanced tree: between two runs the
power counts the halvings of the list after which their midpoints lie apart, and a run is merged
into the one before it before a boundary of lower power follows.  The order may fail to compare two
elements, and the first such pair ends the sorting.

## Main definitions

* `Sorting.frontRun` — the length of the run at the front, and whether it falls.
* `Sorting.insertAll` — elements inserted one by one into a run.
* `Sorting.leastRun`, `Sorting.power` — how long runs are made, and the power of a boundary.
* `Sorting.sort` — a list in order.
-/

set_option relaxedAutoImplicit false
set_option autoImplicit false

namespace QueryChain.Sorting

variable {ε α : Type}

/-- The length of the longest front part that goes on rising, or falling, from `last`. -/
def runFrom (less : α → α → Except ε Bool) (falling : Bool) (last : α) :
    List α → Except ε Nat
  | [] => .ok 0
  | x :: xs =>
    match less x last with
    | .error e => .error e
    | .ok below =>
      if below = falling then (runFrom less falling x xs).map (· + 1) else .ok 0

/-- The length of the run at the front, and whether it falls: the second element decides. -/
def frontRun (less : α → α → Except ε Bool) : List α → Except ε (Nat × Bool)
  | [] => .ok (0, false)
  | [_] => .ok (1, false)
  | x :: y :: rest =>
    match less y x with
    | .error e => .error e
    | .ok falling => (runFrom less falling y rest).map fun n => (n + 2, falling)

/-- Inserts elements one by one into a run, each behind those it does not come before. -/
def insertAll (less : α → α → Except ε Bool) (run : List α) : List α → Except ε (List α)
  | [] => .ok run
  | x :: xs =>
    let items := run.toArray
    match bisect (fun i => (less x (items.getD i x)).map (!·)) 0 items.size with
    | .error e => .error e
    | .ok n => insertAll less (run.take n ++ x :: run.drop n) xs

/-- The length that runs are made to have: the first six binary digits of the number of elements,
and one more if another digit is set. -/
def leastRun (count : Nat) : Nat :=
  if count < 64 then count else go count 0
where
  /-- Halves a number until it is below 64; `odd` says whether a digit was lost. -/
  go (n odd : Nat) : Nat :=
    if _h : n < 64 then n + odd else go (n / 2) (if n % 2 = 1 then 1 else odd)

/-- The power of the boundary between two runs in a list of `total` elements: the first binary place
at which the midpoints of the runs, as parts of the list, differ.  Both midpoints are doubled. -/
def power (total first second : Nat) : Nat := go total first second
where
  /-- Compares binary places, at most `fuel` of them. -/
  go : Nat → Nat → Nat → Nat
    | 0, _, _ => 1
    | fuel + 1, a, b =>
      if total ≤ a then go fuel (2 * (a - total)) (2 * (b - total)) + 1
      else if total ≤ b then 1
      else go fuel (2 * a) (2 * b) + 1

/-- A run that waits to be merged: where it starts, its elements, and the power of the boundary
behind it. -/
structure Waiting (α : Type) where
  start : Nat
  items : List α
  power : Nat

/-- Merges the latest run into the one before it, as long as the boundary between these two has a
higher power than the one that follows. -/
def mergeAbove (less : α → α → Except ε Bool) (bound patience : Nat) :
    List (Waiting α) → Except ε (List (Waiting α) × Nat)
  | top :: below :: rest =>
    if bound < below.power then do
      let (items, patience) ← merge less patience below.items top.items
      mergeAbove less bound patience ({ below with items := items } :: rest)
    else .ok (top :: below :: rest, patience)
  | stack => .ok (stack, patience)
termination_by stack => stack.length

/-- Merges all runs, the latest ones first; a run that is shorter than the one behind its neighbour
takes that neighbour first. -/
def mergeAll (less : α → α → Except ε Bool) (patience : Nat) :
    List (Waiting α) → Except ε (List α)
  | [] => .ok []
  | [run] => .ok run.items
  | [top, below] => (merge less patience below.items top.items).map Prod.fst
  | top :: middle :: bottom :: rest =>
    if bottom.items.length < top.items.length then do
      let (items, patience) ← merge less patience bottom.items middle.items
      mergeAll less patience (top :: { bottom with items := items } :: rest)
    else do
      let (items, patience) ← merge less patience middle.items top.items
      mergeAll less patience ({ middle with items := items } :: bottom :: rest)
termination_by stack => stack.length

/-- Puts a run on the stack, after the merges that its boundary asks for. -/
def push (less : α → α → Except ε Bool) (total patience start : Nat) (run : List α)
    (stack : List (Waiting α)) : Except ε (List (Waiting α) × Nat) :=
  match stack with
  | [] => .ok ([⟨start, run, 0⟩], patience)
  | top :: _ => do
    let middle := 2 * top.start + top.items.length
    let bound := power total middle (middle + top.items.length + run.length)
    match ← mergeAbove less bound patience stack with
    | (top :: rest, patience) =>
      return (⟨start, run, 0⟩ :: { top with power := bound } :: rest, patience)
    | ([], patience) => return ([⟨start, run, 0⟩], patience)

/-- Takes runs from the front of what is left and puts them on the stack, at most `fuel` of them. -/
def takeRuns (less : α → α → Except ε Bool) (total : Nat) :
    Nat → Nat → Nat → List (Waiting α) → List α → Except ε (List α)
  | 0, patience, _, stack, _ => mergeAll less patience stack
  | fuel + 1, patience, start, stack, rest =>
    if rest.isEmpty then mergeAll less patience stack
    else do
      let (n, falling) ← frontRun less rest
      let run := if falling then (rest.take n).reverse else rest.take n
      let length := max n (min (leastRun total) rest.length)
      let run ← insertAll less run ((rest.drop n).take (length - n))
      let (stack, patience) ← push less total patience start run stack
      takeRuns less total fuel patience (start + length) stack (rest.drop length)

/-- A list in order. -/
def sort (less : α → α → Except ε Bool) (items : List α) : Except ε (List α) :=
  if items.length < 2 then .ok items
  else takeRuns less items.length items.length leastStretch 0 [] items

end QueryChain.Sorting
