import QueryChain.Sorting.Search

/-!
# Merging two runs

Two neighbouring runs are merged stably.  What is in place already is left alone; the rest is merged
from the end at which the shorter run lies.  As long as neither run wins often in a row, elements
are compared one by one; after that whole stretches are found by galloping, until these stretches
get short again.  How often in a row is enough is carried on from one merge to the next.

## Main definitions

* `Sorting.Merging` — two runs that are being merged from one end.
* `Sorting.oneByOne`, `Sorting.byStretches` — the two ways to go on.
* `Sorting.merge` — two runs as one.
-/

set_option relaxedAutoImplicit false
set_option autoImplicit false

namespace QueryChain.Sorting

variable {ε α : Type}

/-- Two runs that are being merged from one end, the front or the back.  What is left of each run is
listed from that end on, and what was merged with the latest element first. -/
structure Merging (α : Type) where
  fromBack : Bool
  left : List α
  right : List α
  merged : List α

namespace Merging

/-- Moves elements of the left run to the merged ones. -/
def takeLeft (count : Nat) (m : Merging α) : Merging α :=
  { m with left := m.left.drop count, merged := (m.left.take count).reverse ++ m.merged }

/-- Moves elements of the right run to the merged ones. -/
def takeRight (count : Nat) (m : Merging α) : Merging α :=
  { m with right := m.right.drop count, merged := (m.right.take count).reverse ++ m.merged }

/-- Whether the rest is known: one run is used up, or the other one has a single element, which
goes to the far end. -/
def isSettled (m : Merging α) : Bool :=
  if m.fromBack then m.left.isEmpty || decide (m.right.length ≤ 1)
  else m.right.isEmpty || decide (m.left.length ≤ 1)

/-- The merged run, once the rest is known. -/
def finish (m : Merging α) : List α :=
  if m.fromBack then (m.merged.reverse ++ m.left ++ m.right).reverse
  else m.merged.reverse ++ m.right ++ m.left

end Merging

/-- How many elements at the front of a run in order do not come behind a key. -/
def countUpTo (less : α → α → Except ε Bool) (key : α) (run : Array α) (start : Nat) :
    Except ε Nat :=
  gallop (fun i => (less key (run.getD i key)).map (!·)) run.size start

/-- How many elements at the front of a run in order come before a key. -/
def countBefore (less : α → α → Except ε Bool) (key : α) (run : Array α) (start : Nat) :
    Except ε Nat :=
  gallop (fun i => less (run.getD i key) key) run.size start

/-- How many elements at the end of a run the search for a key gives, with the run listed from that
end on. -/
def stretch (fromBack : Bool) (count : Array α → Nat → Except ε Nat) (run : List α) :
    Except ε Nat :=
  if fromBack then (count run.reverse.toArray (run.length - 1)).map (run.length - ·)
  else count run.toArray 0

/-- The shortest stretch that is worth galloping for. -/
def leastStretch : Nat := 7

mutual

/-- Compares elements one by one, until one run has won `patience` times in a row. -/
def oneByOne (less : α → α → Except ε Bool) (fuel patience leftWins rightWins : Nat)
    (m : Merging α) : Except ε (List α × Nat) :=
  match fuel, m.left, m.right with
  | fuel + 1, a :: _, b :: _ =>
    match less b a with
    | .error e => .error e
    | .ok behind =>
      let rightNext := behind != m.fromBack
      let m := if rightNext then m.takeRight 1 else m.takeLeft 1
      let leftWins := if rightNext then 0 else leftWins + 1
      let rightWins := if rightNext then rightWins + 1 else 0
      if m.isSettled then .ok (m.finish, patience)
      else if patience ≤ max leftWins rightWins then byStretches less fuel (patience + 1) m
      else oneByOne less fuel patience leftWins rightWins m
  | _, _, _ => .ok (m.finish, patience)

/-- Moves whole stretches, as long as one of two in a row is long.  Every round costs less patience,
and the end of the rounds some more. -/
def byStretches (less : α → α → Except ε Bool) (fuel patience : Nat) (m : Merging α) :
    Except ε (List α × Nat) :=
  match fuel, m.right with
  | fuel + 1, b :: _ =>
    let patience := if 1 < patience then patience - 1 else patience
    match stretch m.fromBack (countUpTo less b) m.left with
    | .error e => .error e
    | .ok leftCount =>
      let m := m.takeLeft leftCount
      if m.isSettled then .ok (m.finish, patience)
      else
        let m := m.takeRight 1
        if m.isSettled then .ok (m.finish, patience)
        else
          match m.left with
          | [] => .ok (m.finish, patience)
          | a :: _ =>
            match stretch m.fromBack (countBefore less a) m.right with
            | .error e => .error e
            | .ok rightCount =>
              let m := m.takeRight rightCount
              if m.isSettled then .ok (m.finish, patience)
              else
                let m := m.takeLeft 1
                if m.isSettled then .ok (m.finish, patience)
                else if leastStretch ≤ max leftCount rightCount then
                  byStretches less fuel patience m
                else oneByOne less fuel (patience + 1) 0 0 m
  | _, _ => .ok (m.finish, patience)

end

/-- Merges two runs neither of which can be left alone in part: the right one starts before the left
one, and ends before it too. -/
def mergeOverlapping (less : α → α → Except ε Bool) (patience : Nat) (left right : List α) :
    Except ε (List α × Nat) :=
  let m : Merging α :=
    if left.length ≤ right.length then (Merging.mk false left right []).takeRight 1
    else (Merging.mk true left.reverse right.reverse []).takeLeft 1
  if m.isSettled then .ok (m.finish, patience)
  else oneByOne less (left.length + right.length) patience 0 0 m

/-- Merges two neighbouring runs.  The front of the left one and the back of the right one that are
in place already stay there. -/
def merge (less : α → α → Except ε Bool) (patience : Nat) (left right : List α) :
    Except ε (List α × Nat) := do
  match right with
  | [] => return (left, patience)
  | first :: _ =>
    let kept ← countUpTo less first left.toArray 0
    match (left.drop kept).getLast? with
    | none => return (left ++ right, patience)
    | some last =>
      let moved ← countBefore less last right.toArray (right.length - 1)
      if moved = 0 then return (left ++ right, patience)
      let (run, patience) ←
        mergeOverlapping less patience (left.drop kept) (right.take moved)
      return (left.take kept ++ run ++ right.drop moved, patience)

end QueryChain.Sorting
