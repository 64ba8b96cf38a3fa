/-!
# Sorting

A stable sort by a comparison that may fail or be inconsistent. It finds the run at the start, turns
it round if it falls, and puts the other items one by one into their places, each found by halving.
What has been reached when a comparison fails is kept.

Halving ends because the part that is left to search shrinks; the other recursions follow the list.
-/

namespace Wording.Sorting

variable {α ε : Type}

/-- How many items at the start of `x :: xs` rise, or fall if `falling`. -/
def runLength (less : α → α → Except ε Bool) (falling : Bool) : α → List α → Except ε Nat
  | _, [] => .ok 1
  | x, y :: ys => do
    if (← less y x) == falling then return (← runLength less falling y ys) + 1
    return 1

/-- The place of `x` in `items` between `low` and `high`, behind its equals. -/
def place (less : α → α → Except ε Bool) (x : α) (items : Array α) (low high : Nat) :
    Except ε Nat :=
  if low < high then
    let middle := low + (high - low) / 2
    match items[middle]? with
    | none => .ok low
    | some y =>
      match less x y with
      | .error e => .error e
      | .ok true => place less x items low middle
      | .ok false => place less x items (middle + 1) high
  else .ok low
termination_by high - low
decreasing_by all_goals omega

/-- Puts the rest into a sorted part, as far as comparisons go. -/
def insertAll (less : α → α → Except ε Bool) : Array α → List α → List α × Option ε
  | sorted, [] => (sorted.toList, none)
  | sorted, x :: xs =>
    match place less x sorted 0 sorted.size with
    | .error e => (sorted.toList ++ x :: xs, some e)
    | .ok i => insertAll less (sorted.insertIdxIfInBounds i x) xs

/-- Sorts; gives what has been reached and the failure that stopped it, if one did. -/
def sort (less : α → α → Except ε Bool) : List α → List α × Option ε
  | [] => ([], none)
  | [x] => ([x], none)
  | x :: y :: ys =>
    let all := x :: y :: ys
    let run := do
      let falling ← less y x
      return (falling, ← runLength less falling y ys)
    match run with
    | .error e => (all, some e)
    | .ok (falling, n) =>
      let start := all.take (n + 1)
      insertAll less (if falling then start.reverse else start).toArray (all.drop (n + 1))

/-- Sorts from the greatest to the least; equal items keep their order. -/
def sortDown (less : α → α → Except ε Bool) (xs : List α) : List α × Option ε :=
  let (ys, e) := sort less xs.reverse
  (ys.reverse, e)

end Wording.Sorting
