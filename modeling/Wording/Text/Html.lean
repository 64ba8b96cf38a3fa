/-!
# Escaping for HTML

Six characters are written as entities, all others as themselves. `unescape` is the single
left-to-right pass that reads the six entities back.
-/

namespace Wording.Text.Html

/-- The entity of a character that markup gives a meaning, or `none` for all other characters. -/
def entity? (c : Char) : Option (List Char) :=
  match c.toNat with
  | 0x26 => some "&amp;".toList
  | 0x3C => some "&lt;".toList
  | 0x3E => some "&gt;".toList
  | 0x22 => some "&quot;".toList
  | 0x27 => some "&#39;".toList
  | 0x60 => some "&#96;".toList
  | _ => none

/-- The text that stands for one character. -/
def escapeChar (c : Char) : List Char := (entity? c).getD [c]

/-- Writes a text so that markup reads it as plain text. -/
def escape (cs : List Char) : List Char := cs.flatMap escapeChar

/-- Reads the six entities back, from left to right; all else stands for itself. -/
def unescape : List Char → List Char
  | [] => []
  | '&' :: 'a' :: 'm' :: 'p' :: ';' :: r => '&' :: unescape r
  | '&' :: 'l' :: 't' :: ';' :: r => '<' :: unescape r
  | '&' :: 'g' :: 't' :: ';' :: r => '>' :: unescape r
  | '&' :: 'q' :: 'u' :: 'o' :: 't' :: ';' :: r => '"' :: unescape r
  | '&' :: '#' :: '3' :: '9' :: ';' :: r => '\x27' :: unescape r
  | '&' :: '#' :: '9' :: '6' :: ';' :: r => '\x60' :: unescape r
  | c :: r => c :: unescape r

theorem escape_append (s t : List Char) : escape (s ++ t) = escape s ++ escape t := by
  simp [escape]

end Wording.Text.Html
