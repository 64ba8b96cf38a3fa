import Wording.Text.Segments

/-!
# Field names

A field name is a path whose segments are separated by dots. Names of items in a list hold the
position of the item as a numeric segment; the generic name puts `$` in its place, so that all items
share their messages. `generic` works in one pass over the name, `genericSegments` on the segments.

The pass ends because every step removes a character from the rest of the name.
-/

namespace Wording.Text.FieldName

/-- The ten digits that may form a position. -/
def isDigit (c : Char) : Bool := '0' ≤ c && c ≤ '9'

/-- Whether a segment ends where `rest` begins. -/
def atBoundary : List Char → Bool
  | [] => true
  | c :: _ => c == '.'

/-- One pass over the name: a dot, a run of digits and the end of the segment become `.$`. -/
def generic : List Char → List Char
  | [] => []
  | c :: cs =>
    if c = '.' ∧ (cs.takeWhile isDigit) ≠ [] ∧ atBoundary (cs.dropWhile isDigit) then
      '.' :: '$' :: generic (cs.dropWhile isDigit)
    else c :: generic cs
termination_by cs => cs.length
decreasing_by
  · have := (List.dropWhile_suffix isDigit (l := cs)).length_le
    simp only [List.length_cons]
    omega
  · simp

/-- A segment with its position replaced. -/
def genericSegment (p : List Char) : List Char :=
  if p ≠ [] ∧ p.all isDigit then ['$'] else p

/-- All segments but the first with their positions replaced. -/
def genericSegments : List (List Char) → List (List Char)
  | [] => []
  | p :: ps => p :: ps.map genericSegment

end Wording.Text.FieldName
