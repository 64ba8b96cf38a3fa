import Wording.Text.Blank
import Wording.Text.CaseMap

/-!
# Patterns

A pattern is a regular expression with capture groups, references, look-around and conditions. The
flags of the written form are resolved while it is read, so each node of a `Regex` says by itself
what it matches.
-/

namespace Wording.Pattern

open Wording.Text

/-! ## Characters -/

/-- The classes `\d`, `\s` and `\w`. -/
inductive CharClass where
  | digit
  | blank
  | word
  deriving DecidableEq, Repr

/-- Membership in a class; `ascii` leaves only its ASCII members. -/
def CharClass.contains (k : CharClass) (ascii : Bool) (c : Char) : Bool :=
  if ascii then
    match k with
    | .digit => isAsciiDigit c
    | .blank => isAsciiBlank c
    | .word => isAsciiLetter c || isAsciiDigit c || c == '_'
  else
    match k with
    | .digit => isDecimal c
    | .blank => isBlank c
    | .word => isWord c

/-- How characters are compared: as they are, or without regard to case. -/
inductive Folding where
  | exact
  | ascii
  | unicode
  deriving DecidableEq, Repr

/-- The lower-case character that stands for `c` when case does not count. -/
def lowerOf (c : Char) : Char := if c.toNat = 0x130 then 'i' else lowerTable.single c

/-- Equality of characters under a folding. Two characters are also equal without regard to case
when their lower forms have the same upper form. -/
def Folding.same (f : Folding) (a b : Char) : Bool :=
  match f with
  | .exact => a == b
  | .ascii => a.toLower == b.toLower
  | .unicode =>
    let x := lowerOf a
    let y := lowerOf b
    x == y || upperChar x == upperChar y

/-- A member of a set of characters. -/
inductive CharItem where
  | range (first last : Nat)
  | cls (k : CharClass) (ascii negated : Bool)
  deriving DecidableEq, Repr

/-- Whether a character of the range is the same as `c`. -/
def rangeContains (f : Folding) (first last : Nat) (c : Char) : Bool :=
  (first ≤ c.toNat && c.toNat ≤ last) ||
    match f with
    | .exact => false
    | f => (List.range (last + 1 - first)).any fun i => f.same (Char.ofNat (first + i)) c

def CharItem.contains (f : Folding) (c : Char) : CharItem → Bool
  | .range first last => rangeContains f first last c
  | .cls k ascii negated => k.contains ascii c != negated

/-- A set of characters, or the complement of one. -/
structure CharSet where
  items : List CharItem
  negated : Bool
  folding : Folding
  deriving DecidableEq, Repr

namespace CharSet

def contains (s : CharSet) (c : Char) : Bool := s.items.any (·.contains s.folding c) != s.negated

/-- The set of one character. -/
def single (c : Char) (f : Folding) : CharSet := ⟨[.range c.toNat c.toNat], false, f⟩

/-- Every character but the line feed. -/
def notNewline : CharSet := ⟨[.range 10 10], true, .exact⟩

def all : CharSet := ⟨[], true, .exact⟩

end CharSet

/-! ## Regular expressions -/

/-- Conditions on a position that consume nothing. -/
inductive Anchor where
  | textStart
  | textEnd
  | lineStart
  | lineEnd
  /-- The end, or in front of a line feed that ends the text. -/
  | lastLineEnd
  | wordEdge (ascii negated : Bool)
  deriving DecidableEq, Repr

inductive Regex where
  | empty
  | char (s : CharSet)
  | seq (a b : Regex)
  | alt (a b : Regex)
  | capture (group : Nat) (r : Regex)
  | reference (group : Nat) (f : Folding)
  /-- `r` from `min` to `max` times; as often as possible unless `lazy`. -/
  | loop (min : Nat) (max : Option Nat) (lazy : Bool) (r : Regex)
  /-- Only the first way to match `r`. -/
  | atomic (r : Regex)
  /-- `r` matches from here, or ends here after `behind` characters; or it does not if `negated`. -/
  | look (behind : Option Nat) (negated : Bool) (r : Regex)
  /-- `yes` if the group has matched, else `no`. -/
  | choice (group : Nat) (yes no : Regex)
  | anchor (a : Anchor)
  deriving DecidableEq, Repr

namespace Regex

def ofList : List Regex → Regex
  | [] => .empty
  | [r] => r
  | r :: rs => .seq r (ofList rs)

def alternatives : List Regex → Regex
  | [] => .empty
  | [r] => r
  | r :: rs => .alt r (alternatives rs)

end Regex

end Wording.Pattern
