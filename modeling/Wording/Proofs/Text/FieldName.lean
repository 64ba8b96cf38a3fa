import Mathlib.Data.List.Forall2
import Mathlib.Data.List.TakeWhile
import Wording.Box.Basic

/-!
# Generic names, segment by segment

The pass over a name looks at dots and at what stands behind them; it never asks where a segment
begins. Each dot begins a segment all the same, and a run of digits up to the next dot or the end is
a whole segment, so that the pass does to each segment what `genericSegment` does.

* `generic_eq_glue`: the pass works on the segments
* `genericName?_segments`: what follows for names
-/

namespace Wording.Text.FieldName

/-- Whether a segment is a position: digits and at least one. -/
def IsPosition (p : List Char) : Prop := p ≠ [] ∧ p.all isDigit

theorem genericSegment_of_isPosition {p : List Char} (h : IsPosition p) :
    genericSegment p = ['$'] :=
  if_pos h

theorem genericSegment_of_not {p : List Char} (h : ¬IsPosition p) : genericSegment p = p :=
  if_neg h

/-- The sign for all positions is not a position. -/
theorem not_isPosition_sign : ¬IsPosition ['$'] := by
  rintro ⟨-, h⟩
  exact absurd h (by decide)

theorem genericSegment_idem (p : List Char) :
    genericSegment (genericSegment p) = genericSegment p := by
  by_cases h : IsPosition p
  · rw [genericSegment_of_isPosition h, genericSegment_of_not not_isPosition_sign]
  · rw [genericSegment_of_not h, genericSegment_of_not h]

theorem not_mem_genericSegment {p : List Char} (hp : '.' ∉ p) : '.' ∉ genericSegment p := by
  by_cases h : IsPosition p
  · rw [genericSegment_of_isPosition h]
    decide
  · rwa [genericSegment_of_not h]

theorem genericSegments_ne_nil {ps : List (List Char)} (h : ps ≠ []) : genericSegments ps ≠ [] := by
  cases ps with
  | nil => exact absurd rfl h
  | cons p ps => simp [genericSegments]

theorem length_genericSegments (ps : List (List Char)) :
    (genericSegments ps).length = ps.length := by
  cases ps with
  | nil => rfl
  | cons p ps => simp [genericSegments]

theorem genericSegments_idem (ps : List (List Char)) :
    genericSegments (genericSegments ps) = genericSegments ps := by
  cases ps with
  | nil => rfl
  | cons p ps => simp [genericSegments, genericSegment_idem]

theorem not_mem_genericSegments {ps : List (List Char)} (h : ∀ p ∈ ps, '.' ∉ p) :
    ∀ p ∈ genericSegments ps, '.' ∉ p := by
  cases ps with
  | nil => exact h
  | cons q qs =>
    intro p hp
    rw [genericSegments, List.mem_cons, List.mem_map] at hp
    obtain rfl | ⟨r, hr, rfl⟩ := hp
    · exact h p List.mem_cons_self
    · exact not_mem_genericSegment (h r (List.mem_cons_of_mem q hr))

/-! ## One segment of the pass -/

/-- A character that is no dot stays where it is. -/
theorem generic_cons {c : Char} (hc : c ≠ '.') (cs : List Char) :
    generic (c :: cs) = c :: generic cs := by
  rw [generic, if_neg fun h => hc h.1]

theorem generic_append {p : List Char} (hp : '.' ∉ p) (cs : List Char) :
    generic (p ++ cs) = p ++ generic cs := by
  induction p with
  | nil => rfl
  | cons c p ih =>
    rw [List.mem_cons, not_or] at hp
    rw [List.cons_append, generic_cons (Ne.symm hp.1), ih hp.2, List.cons_append]

/-- What stands behind a segment. -/
theorem atBoundary_iff {rest : List Char} :
    atBoundary rest ↔ rest = [] ∨ ∃ cs, rest = '.' :: cs := by
  cases rest with
  | nil => simp [atBoundary]
  | cons c cs => simp [atBoundary]

/-- The digits at the beginning of a segment end in it, as no dot is a digit. -/
theorem digits_append (q : List Char) {rest : List Char} (hrest : atBoundary rest) :
    (q ++ rest).takeWhile isDigit = q.takeWhile isDigit ∧
      (q ++ rest).dropWhile isDigit = q.dropWhile isDigit ++ rest := by
  have hdot : isDigit '.' = false := by decide
  induction q with
  | nil =>
    obtain rfl | ⟨cs, rfl⟩ := atBoundary_iff.mp hrest
    · exact ⟨rfl, rfl⟩
    · simp [hdot]
  | cons c q ih =>
    rw [List.cons_append, List.takeWhile_cons, List.takeWhile_cons, List.dropWhile_cons,
      List.dropWhile_cons, ih.1, ih.2]
    cases isDigit c <;> simp

/-- The digits reach a dot or the end exactly when the segment has nothing else. -/
theorem atBoundary_dropWhile {q rest : List Char} (hq : '.' ∉ q) (hrest : atBoundary rest) :
    atBoundary (q.dropWhile isDigit ++ rest) ↔ q.all isDigit := by
  rw [List.all_eq_true, ← List.dropWhile_eq_nil_iff]
  cases hdrop : q.dropWhile isDigit with
  | nil => simp [hrest]
  | cons c cs =>
    have hc : c ∈ q := (List.dropWhile_sublist isDigit).subset (hdrop ▸ List.mem_cons_self)
    have hne : c ≠ '.' := fun h => hq (h ▸ hc)
    simp [atBoundary, hne]

/-- **A dot and the segment behind it.** -/
theorem generic_segment {q rest : List Char} (hq : '.' ∉ q) (hrest : atBoundary rest) :
    generic ('.' :: (q ++ rest)) = '.' :: (genericSegment q ++ generic rest) := by
  obtain ⟨htake, hdrop⟩ := digits_append q hrest
  have hwhen := atBoundary_dropWhile hq hrest
  rw [generic, htake, hdrop]
  by_cases h : IsPosition q
  · have hall : ∀ c ∈ q, isDigit c = true := List.all_eq_true.mp h.2
    have hwhole : q.takeWhile isDigit = q := List.takeWhile_eq_self_iff.mpr hall
    have hnone : q.dropWhile isDigit = [] := List.dropWhile_eq_nil_iff.mpr hall
    rw [if_pos ⟨rfl, hwhole.symm ▸ h.1, hwhen.mpr h.2⟩, genericSegment_of_isPosition h, hnone]
    rfl
  · rw [if_neg, genericSegment_of_not h, generic_append hq]
    rintro ⟨-, hsome, hall⟩
    refine h ⟨?_, hwhen.mp hall⟩
    rintro rfl
    exact hsome rfl

/-! ## The whole pass -/

/-- The segments behind the first one, each with the dot before it. -/
def behind (ps : List (List Char)) : List Char := ps.flatMap ('.' :: ·)

theorem glue_cons (p : List Char) (ps : List (List Char)) :
    glue '.' (p :: ps) = p ++ behind ps := by
  induction ps generalizing p with
  | nil => simp [glue, behind]
  | cons q ps ih => rw [glue, ih, behind, behind, List.flatMap_cons, List.cons_append]

theorem atBoundary_behind (ps : List (List Char)) : atBoundary (behind ps) := by
  cases ps <;> rfl

theorem generic_behind {ps : List (List Char)} (hps : ∀ p ∈ ps, '.' ∉ p) :
    generic (behind ps) = behind (ps.map genericSegment) := by
  induction ps with
  | nil => rw [behind, List.flatMap_nil, generic]; rfl
  | cons p ps ih =>
    obtain ⟨hp, hrest⟩ := List.forall_mem_cons.mp hps
    calc generic (behind (p :: ps))
      _ = generic ('.' :: (p ++ behind ps)) := rfl
      _ = '.' :: (genericSegment p ++ generic (behind ps)) :=
        generic_segment hp (atBoundary_behind ps)
      _ = '.' :: (genericSegment p ++ behind (ps.map genericSegment)) := by rw [ih hrest]
      _ = behind ((p :: ps).map genericSegment) := rfl

/-- **The pass works on the segments.** -/
theorem generic_eq_glue (cs : List Char) :
    generic cs = glue '.' (genericSegments (pieces '.' cs)) := by
  have hps : ∀ p ∈ pieces '.' cs, '.' ∉ p := fun p => not_mem_of_mem_pieces
  have hglue : glue '.' (pieces '.' cs) = cs := glue_pieces '.' cs
  cases hpieces : pieces '.' cs with
  | nil => exact absurd hpieces (pieces_ne_nil '.' cs)
  | cons p ps =>
    rw [hpieces] at hps hglue
    obtain ⟨hp, hrest⟩ := List.forall_mem_cons.mp hps
    rw [← hglue, glue_cons, generic_append hp, generic_behind hrest, genericSegments, glue_cons]

/-- The segments of the generic name. -/
theorem pieces_generic (cs : List Char) :
    pieces '.' (generic cs) = genericSegments (pieces '.' cs) := by
  rw [generic_eq_glue]
  exact pieces_glue (genericSegments_ne_nil (pieces_ne_nil '.' cs))
    (not_mem_genericSegments fun p => not_mem_of_mem_pieces)

theorem generic_idem (cs : List Char) : generic (generic cs) = generic cs := by
  rw [generic_eq_glue (generic cs), pieces_generic, genericSegments_idem, ← generic_eq_glue]

/-- Two segments that are the same or both positions. -/
def SegmentAlike (p q : List Char) : Prop := p = q ∨ IsPosition p ∧ IsPosition q

theorem genericSegment_congr {p q : List Char} (h : SegmentAlike p q) :
    genericSegment p = genericSegment q := by
  obtain rfl | ⟨hp, hq⟩ := h
  · rfl
  · rw [genericSegment_of_isPosition hp, genericSegment_of_isPosition hq]

/-- Names that differ in positions only: the first segment is never one. -/
def NamesAlike (cs ds : List Char) : Prop :=
  (pieces '.' cs).head? = (pieces '.' ds).head? ∧
    List.Forall₂ SegmentAlike (pieces '.' cs).tail (pieces '.' ds).tail

theorem generic_congr {cs ds : List Char} (h : NamesAlike cs ds) : generic cs = generic ds := by
  have hmap {ps qs : List (List Char)} (h : List.Forall₂ SegmentAlike ps qs) :
      ps.map genericSegment = qs.map genericSegment := by
    induction h with
    | nil => rfl
    | cons hpq _ ih => rw [List.map_cons, List.map_cons, genericSegment_congr hpq, ih]
  obtain ⟨hhead, htail⟩ := h
  rw [generic_eq_glue, generic_eq_glue]
  cases hcs : pieces '.' cs with
  | nil => exact absurd hcs (pieces_ne_nil '.' cs)
  | cons p ps =>
    cases hds : pieces '.' ds with
    | nil => exact absurd hds (pieces_ne_nil '.' ds)
    | cons q qs =>
      rw [hcs, hds] at hhead htail
      rw [List.head?_cons, List.head?_cons, Option.some.injEq] at hhead
      have hbehind : ps.map genericSegment = qs.map genericSegment := hmap htail
      rw [genericSegments, genericSegments, hhead, hbehind]

end Wording.Text.FieldName

namespace Wording

open Text FieldName

/-- **The generic name of a field is the name with its positions replaced**, segment by segment: it
has as many segments, is its own generic name, and is shared by all names that differ in positions
only. -/
theorem genericName?_segments (s : String) :
    ∃ g, genericName? (.str s) = some g ∧
      g.toList = glue '.' (genericSegments (pieces '.' s.toList)) ∧
      (pieces '.' g.toList).length = (pieces '.' s.toList).length ∧
      genericName? (.str g) = some g ∧
      ∀ t : String, NamesAlike s.toList t.toList → genericName? (.str t) = some g := by
  have hlist : (String.ofList (generic s.toList)).toList = generic s.toList := String.toList_ofList
  refine ⟨String.ofList (generic s.toList), rfl, ?_, ?_, ?_, ?_⟩
  · rw [hlist, generic_eq_glue]
  · rw [hlist, pieces_generic, length_genericSegments]
  · rw [genericName?, hlist, generic_idem]
  · intro t h
    rw [genericName?, generic_congr h]

/-- An empty segment stays, and so does one with other characters than the ten digits. -/
example : String.ofList (generic "a.0.1..٣.2\n.3".toList) = "a.$.$..٣.2\n.$" := by decide +kernel

end Wording
