import Wording.Pattern.Basic
import Wording.Pattern.Search

/-!
# Matching

`Regex.run` lists the ways in which a regular expression matches from a position, in order of
preference. `scan` walks over a text and collects the matches from left to right: each one is the
preferred way at the first position that has any, and a match without characters is not repeated at
the position where the match before it ended.

`run` is structural on the expression. A loop stops growing once a round consumes nothing, which
bounds its rounds by the length of the text; `scan` ends because each search starts further right or
may not come back without characters.
-/

namespace Wording.Pattern

open Wording.Text

/-- A position with the groups that have matched so far, the latest first. -/
structure State where
  pos : Nat
  groups : List (Nat × Nat × Nat)
  deriving DecidableEq, Repr

namespace State

/-- Start and end of the latest match of a group. -/
def group? (s : State) (n : Nat) : Option (Nat × Nat) :=
  (s.groups.find? fun g => g.1 == n).map (·.2)

def advance (s : State) (n : Nat) : State := { s with pos := s.pos + n }

end State

/-! ## Positions -/

def isWordAt (text : Array Char) (ascii : Bool) (i : Nat) : Bool :=
  match text[i]? with
  | some c => CharClass.word.contains ascii c
  | none => false

/-- Whether an anchor holds in front of the character at `pos`. -/
def Anchor.holds (text : Array Char) (pos : Nat) : Anchor → Bool
  | .textStart => pos == 0
  | .textEnd => pos == text.size
  | .lineStart => pos == 0 || text[pos - 1]? == some '\n'
  | .lineEnd => pos == text.size || text[pos]? == some '\n'
  | .lastLineEnd => pos == text.size || (pos + 1 == text.size && text[pos]? == some '\n')
  | .wordEdge ascii negated =>
    text.size != 0
      && ((pos != 0 && isWordAt text ascii (pos - 1)) != isWordAt text ascii pos) != negated

/-- Whether the characters from `i` on repeat the `n` characters from `j` on. -/
def repeats (text : Array Char) (f : Folding) (i j : Nat) : Nat → Bool
  | 0 => true
  | n + 1 =>
    match text[i]?, text[j]? with
    | some a, some b => f.same a b && repeats text f (i + 1) (j + 1) n
    | _, _ => false

/-! ## Loops -/

/-- Rounds of `body`, of which `count` are done; `last` is where the round before this one began. -/
def rounds (body : State → Search State) (min : Nat) (max : Option Nat) (lazy : Bool) :
    Nat → Nat → Option Nat → State → Search State
  | 0, _, _, _ => .done
  | fuel + 1, count, last, s =>
    if count < min then
      (body s).bind fun t => rounds body min max lazy fuel (count + 1) last t
    else if (max.all fun m => decide (count < m)) && last != some s.pos then
      let more := fun (_ : Unit) =>
        (body s).bind fun t => rounds body min max lazy fuel (count + 1) (some s.pos) t
      if lazy then (Search.pure s).append more else (more ()).append fun _ => Search.pure s
    else Search.pure s

/-! ## Running -/

/-- The ways to match from `s`, the preferred one first. -/
def Regex.run (text : Array Char) : Regex → State → Search State
  | .empty, s => .pure s
  | .char set, s =>
    match text[s.pos]? with
    | some c => if set.contains c then .pure (s.advance 1) else .done
    | none => .done
  | .seq a b, s => (a.run text s).bind (b.run text)
  | .alt a b, s => (a.run text s).append fun _ => b.run text s
  | .capture n r, s =>
    (r.run text s).bind fun t => .pure { t with groups := (n, s.pos, t.pos) :: t.groups }
  | .reference n f, s =>
    match s.group? n with
    | some (i, j) =>
      if repeats text f s.pos i (j - i) then .pure (s.advance (j - i)) else .done
    | none => .done
  | .loop min max lazy r, s =>
    rounds (r.run text) min max lazy (min + text.size + 2) 0 none s
  | .atomic r, s => (r.run text s).once
  | .look behind negated r, s =>
    let inner :=
      match behind with
      | none => r.run text s
      | some n => if n ≤ s.pos then r.run text { s with pos := s.pos - n } else .done
    match inner.first? with
    | some t => if negated then .done else .pure { s with groups := t.groups }
    | none => if negated then .pure s else .done
  | .choice n yes no, s => if (s.group? n).isSome then yes.run text s else no.run text s
  | .anchor a, s => if a.holds text s.pos then .pure s else .done

/-! ## Matches in a text -/

/-- A match: where it starts and ends, and its groups. -/
structure Match where
  start : Nat
  stop : Nat
  groups : List (Nat × Nat × Nat)
  deriving DecidableEq, Repr

/-- The characters that a group of the match took, if it took part. -/
def Match.group? (m : Match) (text : Array Char) (n : Nat) : Option (List Char) :=
  (m.groups.find? fun g => g.1 == n).map fun g => (text.extract g.2.1 g.2.2).toList

/-- The preferred match that starts at `pos`; with `advance`, of those that consume something. -/
def Regex.matchAt? (r : Regex) (text : Array Char) (pos : Nat) (advance : Bool) : Option Match :=
  ((r.run text ⟨pos, []⟩).find? fun t => !advance || t.pos != pos).map fun t =>
    ⟨pos, t.pos, t.groups⟩

/-- The first match that starts at `pos` or within `n` characters after it. -/
def Regex.searchFrom? (r : Regex) (text : Array Char) (pos : Nat) (advance : Bool) :
    Nat → Option Match
  | 0 => r.matchAt? text pos advance
  | n + 1 =>
    match r.matchAt? text pos advance with
    | some m => some m
    | none => r.searchFrom? text (pos + 1) false n

/-- The matches from `pos` on, at most `fuel` of them. -/
def Regex.scanFrom (r : Regex) (text : Array Char) : Nat → Nat → Bool → List Match
  | 0, _, _ => []
  | fuel + 1, pos, advance =>
    match r.searchFrom? text pos advance (text.size - pos) with
    | some m => m :: r.scanFrom text fuel m.stop (m.stop == m.start)
    | none => []

/-- All matches in a text, from left to right. Between two matches that take no characters there is
one that does, so there are at most two for each position. -/
def Regex.scan (r : Regex) (text : Array Char) : List Match :=
  r.scanFrom text (2 * text.size + 2) 0 false

end Wording.Pattern
