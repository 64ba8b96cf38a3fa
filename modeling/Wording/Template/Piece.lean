import Wording.Marker.Basic

/-!
# Pieces of a template

A template is literal text with spans between. `Piece.ofText` goes through the matches of the
markers from left to right: what stands between two matches is literal, and a match is a span of the
first role that took part in it. A match in which no role took part is left out.
-/

namespace Wording

inductive Piece where
  | text (s : String)
  /-- A span with the place where it starts and its inner text. -/
  | span (role : Role) (start : Nat) (inner : String)
  deriving DecidableEq, Repr

namespace Markers.Hit

/-- The first role that took part, with its inner text. -/
def role? (h : Hit) : Option (Role × String) :=
  match h.escape, h.interpolate, h.evaluate with
  | some cs, _, _ => some (.escape, String.ofList cs)
  | none, some cs, _ => some (.interpolate, String.ofList cs)
  | none, none, some cs => some (.evaluate, String.ofList cs)
  | none, none, none => none

end Markers.Hit

namespace Piece

/-- The literal text between two places, if there is any. -/
def gap (text : Array Char) (start stop : Nat) : List Piece :=
  if start < stop then [.text (String.ofList (text.extract start stop).toList)] else []

/-- The span of a match. -/
def ofHit (h : Markers.Hit) : List Piece :=
  (h.role?.map fun (role, inner) => .span role h.start inner).toList

/-- The pieces of the text from a place on, given the matches from there. -/
def ofHits (text : Array Char) : Nat → List Markers.Hit → List Piece
  | _, [] => []
  | pos, h :: hs => gap text pos h.start ++ ofHit h ++ ofHits text h.stop hs

/-- The pieces of a template. -/
def ofText (m : Markers) (text : String) : List Piece :=
  let cs := text.toList.toArray
  ofHits cs 0 (m.hits cs)

end Piece

end Wording
