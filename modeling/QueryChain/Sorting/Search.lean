/-!
# Searching a run

Where an element goes in a run is found by asking positions whether they lie below it.  Bisection
halves a range; galloping starts at a position at hand and strides away from it, each stride twice
as long as the last one, before it bisects.  A question may fail, and the search fails with it, so
that the order in which positions are asked can be observed.

## Main definitions

* `Sorting.bisect` — the first position of a range that does not lie below.
* `Sorting.gallop` — the same among the first positions, from a position on.
-/

set_option relaxedAutoImplicit false
set_option autoImplicit false

namespace QueryChain.Sorting

variable {ε : Type}

/-- The first position from `low` up to `high` that does not lie below, where those below come
first. -/
def bisect (below : Nat → Except ε Bool) (low high : Nat) : Except ε Nat :=
  if _h : low < high then
    match below (low + (high - low) / 2) with
    | .error e => .error e
    | .ok true => bisect below (low + (high - low) / 2 + 1) high
    | .ok false => bisect below low (low + (high - low) / 2)
  else .ok low
termination_by high - low

/-- Strides on while `goesOn` holds, up to a limit: the last distance at which it held, and the one
at which it did not or which the limit set. -/
def stride (goesOn : Nat → Except ε Bool) (limit last distance : Nat) : Except ε (Nat × Nat) :=
  if _h : distance < limit then
    match goesOn distance with
    | .error e => .error e
    | .ok true => stride goesOn limit distance (2 * distance + 1)
    | .ok false => .ok (last, distance)
  else .ok (last, limit)
termination_by limit - distance

/-- The first of `count` positions that does not lie below, looked for from `start` on. -/
def gallop (below : Nat → Except ε Bool) (count start : Nat) : Except ε Nat :=
  match below start with
  | .error e => .error e
  | .ok true =>
    match stride (fun d => below (start + d)) (count - start) 0 1 with
    | .error e => .error e
    | .ok (last, distance) => bisect below (start + last + 1) (start + distance)
  | .ok false =>
    match stride (fun d => (below (start - d)).map (!·)) (start + 1) 0 1 with
    | .error e => .error e
    | .ok (last, distance) => bisect below (start + 1 - distance) (start - last)

end QueryChain.Sorting
