import Wording.Template.Block

/-!
# Templates

A template is a text with the markers it is compiled with and the tree that it stands for. A text
that is no template is reported with the text and the place of the piece that is wrong.
-/

namespace Wording

/-- A flaw with what is known of where it is. -/
structure TemplateError where
  flaw : Flaw
  template : Option String
  position : Option Int
  deriving DecidableEq, Repr

/-- The message of a flaw, with the place behind it if that is known. -/
def TemplateError.message (e : TemplateError) : String :=
  match e.position with
  | none => e.flaw.message
  | some n => e.flaw.message ++ " (at offset " ++ toString n ++ ")"

/-- A compiled template: its written form, its markers and its tree. -/
structure Template where
  source : String
  markers : Markers
  nodes : List Node

namespace Template

/-- Compiles a text. -/
def compile (m : Markers) (text : String) : Except TemplateError Template :=
  match Node.ofPieces (Piece.ofText m text) with
  | .ok nodes => .ok ⟨text, m, nodes⟩
  | .error e => .error ⟨e.flaw, some text, some e.position⟩

/-- The text that shows a template. -/
def text (t : Template) : String := "Renderer(" ++ Text.Quoted.quote t.source ++ ")"

end Template

end Wording
