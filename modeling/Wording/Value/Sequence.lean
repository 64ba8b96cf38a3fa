/-!
# Sequences

Positions, searches, cuts and replacements in lists, which texts, bytes and structured values share.
Negative positions count from the end, and positions beyond an end stand for that end.

Recursion follows the list, or a bound on the number of steps that is its length.
-/

namespace Wording.Sequence

variable {α : Type}

/-! ## Positions -/

/-- A position counted from the end if negative, then moved into `0 … n`. -/
def clamp (n : Nat) (i : Int) : Nat :=
  let i := if i < 0 then i + n else i
  if i < 0 then 0 else min i.toNat n

/-- A position that must hold an item. -/
def index? (n : Nat) (i : Int) : Option Nat :=
  let i := if i < 0 then i + n else i
  if 0 ≤ i ∧ i < n then some i.toNat else none

/-- The positions from `lower` on in steps of `step` up to `upper`, which is left out. -/
def positions (n : Nat) (lower upper : Option Int) (step : Int) : List Nat :=
  let bound := fun (i : Option Int) (default : Int) =>
    match i with
    | none => default
    | some i =>
      let i := if i < 0 then i + n else i
      if i < 0 then if step < 0 then -1 else 0
      else if i ≥ n then if step < 0 then (n : Int) - 1 else n
      else i
  let start := bound lower (if step < 0 then (n : Int) - 1 else 0)
  let stop := bound upper (if step < 0 then -1 else n)
  let count : Int :=
    if step > 0 then if start < stop then (stop - start - 1) / step + 1 else 0
    else if step < 0 then if stop < start then (start - stop - 1) / (-step) + 1 else 0
    else 0
  (List.range count.toNat).map fun (k : Nat) => (start + step * (k : Int)).toNat

/-- The items at the positions. -/
def select (xs : List α) (ps : List Nat) : List α :=
  let items := xs.toArray
  ps.filterMap fun i => items[i]?

/-- The part of a list from `start` to `stop`; `none` if it starts behind its end. -/
def window? (xs : List α) (start stop : Option Int) : Option (Nat × List α) :=
  let n := xs.length
  let low : Int := match start with
    | none => 0
    | some i => if i < 0 then max (i + n) 0 else i
  let high : Nat := match stop with
    | none => n
    | some i => clamp n i
  if low > high then none else some (low.toNat, (xs.take high).drop low.toNat)

/-! ## Searching -/

variable [BEq α]

/-- The first position at which `pat` occurs. -/
def find? (pat : List α) (xs : List α) : Option Nat :=
  go xs 0
where
  go : List α → Nat → Option Nat
    | [], i => if pat.isEmpty then some i else none
    | x :: xs, i => if pat.isPrefixOf (x :: xs) then some i else go xs (i + 1)

/-- The last position at which `pat` occurs. -/
def findLast? (pat : List α) (xs : List α) : Option Nat :=
  (find? pat.reverse xs.reverse).map fun i => xs.length - i - pat.length

def contains (pat xs : List α) : Bool := (find? pat xs).isSome

/-- Pieces between the occurrences of a nonempty `pat`, at most `max` of them cut. -/
def splitOn (pat : List α) (max : Option Nat) (xs : List α) : List (List α) :=
  go (xs.length + 1) max xs
where
  go : Nat → Option Nat → List α → List (List α)
    | 0, _, xs => [xs]
    | fuel + 1, max, xs =>
      if max = some 0 then [xs]
      else match find? pat xs with
        | none => [xs]
        | some i => xs.take i :: go fuel (max.map (· - 1)) (xs.drop (i + pat.length))

/-- The same cuts, counted from the right. -/
def splitOnRight (pat : List α) (max : Option Nat) (xs : List α) : List (List α) :=
  ((splitOn pat.reverse max xs.reverse).map List.reverse).reverse

/-- How often `pat` occurs without overlap; an empty one occurs at every position. -/
def count (pat xs : List α) : Nat :=
  if pat.isEmpty then xs.length + 1 else (splitOn pat none xs).length - 1

/-- Puts `new` between all items and at both ends, `max` times at most. -/
def intersperse (new : List α) (max : Option Nat) (xs : List α) : List α :=
  go max xs
where
  go : Option Nat → List α → List α
    | max, [] => if max = some 0 then [] else new
    | max, x :: xs => if max = some 0 then x :: xs else new ++ x :: go (max.map (· - 1)) xs

/-- Puts `new` in place of `old`, `max` times at most. -/
def replace (old new : List α) (max : Option Nat) (xs : List α) : List α :=
  if old.isEmpty then intersperse new max xs
  else new.intercalate (splitOn old max xs)

/-- What stands before the first `pat`, `pat` itself, and what stands after it. -/
def partition (pat xs : List α) : List α × List α × List α :=
  match find? pat xs with
  | some i => (xs.take i, pat, xs.drop (i + pat.length))
  | none => (xs, [], [])

def partitionRight (pat xs : List α) : List α × List α × List α :=
  match findLast? pat xs with
  | some i => (xs.take i, pat, xs.drop (i + pat.length))
  | none => ([], [], xs)

omit [BEq α]

/-! ## Words and lines -/

/-- Words between runs of blanks, at most `max` of them cut off; the rest keeps its end. -/
def words (blank : α → Bool) (max : Option Nat) (xs : List α) : List (List α) :=
  go (xs.length + 1) max xs
where
  go : Nat → Option Nat → List α → List (List α)
    | 0, _, _ => []
    | fuel + 1, max, xs =>
      match xs.dropWhile blank with
      | [] => []
      | y :: ys =>
        if max = some 0 then [y :: ys]
        else (y :: ys).takeWhile (fun x => !blank x) ::
          go fuel (max.map (· - 1)) ((y :: ys).dropWhile fun x => !blank x)

/-- The same words, cut off from the right. -/
def wordsRight (blank : α → Bool) (max : Option Nat) (xs : List α) : List (List α) :=
  ((words blank max xs.reverse).map List.reverse).reverse

/-- Lines with the break that ends each; `pair a b` tells that `a b` is one break. -/
def lines (isBreak : α → Bool) (pair : α → α → Bool) (keep : Bool) : List α → List (List α) :=
  go []
where
  go : List α → List α → List (List α)
    | [], [] => []
    | line, [] => [line.reverse]
    | line, [x] => if isBreak x then [(if keep then x :: line else line).reverse]
      else [(x :: line).reverse]
    | line, x :: y :: xs =>
      if pair x y then (if keep then y :: x :: line else line).reverse :: go [] xs
      else if isBreak x then (if keep then x :: line else line).reverse :: go [] (y :: xs)
      else go (x :: line) (y :: xs)

/-- Removes the items that satisfy `p` from the ends that are asked for. -/
def strip (p : α → Bool) (left right : Bool) (xs : List α) : List α :=
  let xs := if left then xs.dropWhile p else xs
  if right then (xs.reverse.dropWhile p).reverse else xs

/-! ## Filling -/

/-- Fills up to `width` on the left and on the right. -/
def pad (fill : α) (left right : Nat) (xs : List α) : List α :=
  List.replicate left fill ++ xs ++ List.replicate right fill

/-- Fills both sides; an odd rest goes to the left for an odd width and to the right for an even
one. -/
def center (fill : α) (width : Nat) (xs : List α) : List α :=
  let rest := width - xs.length
  let left := rest / 2 + (if rest % 2 = 1 ∧ width % 2 = 1 then 1 else 0)
  pad fill left (rest - left) xs

/-- Replaces tabs by blanks up to the next multiple of `size`; `isEnd` begins a new line. -/
def expandTabs (isTab isEnd : α → Bool) (blank : α) (size : Nat) (xs : List α) : List α :=
  go 0 xs
where
  go : Nat → List α → List α
    | _, [] => []
    | column, x :: xs =>
      if isTab x then
        let n := if size = 0 then 0 else size - column % size
        List.replicate n blank ++ go (column + n) xs
      else x :: go (if isEnd x then 0 else column + 1) xs

end Wording.Sequence
