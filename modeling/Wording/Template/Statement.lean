import Wording.Text.Blank
import Wording.Text.Property

/-!
# Statements

The statements of a template as they are written: a word, blanks, and what belongs to it. The
expressions in them are still text.
-/

namespace Wording

open Text

inductive Statement where
  | ifThen (test : String)
  | elseIf (test : String)
  | otherwise
  | forEach (name items : String)
  | done
  | set (name value : String)
  | emit (value : String)
  deriving DecidableEq, Repr

namespace Statement

/-- What stands behind a word, if the text begins with it. -/
def after? (word : String) (cs : List Char) : Option (List Char) :=
  if word.toList.isPrefixOf cs then some (cs.drop word.length) else none

/-- Leaves out blanks, of which there has to be one at least. -/
def skipBlanks? (cs : List Char) : Option (List Char) :=
  if cs.head?.any isBlank then some (cs.dropWhile isBlank) else none

/-- What is left, if anything is. -/
def rest? (cs : List Char) : Option String := if cs.isEmpty then none else some (String.ofList cs)

/-- A word with an expression behind it. -/
def phrase? (word : String) (cs : List Char) : Option String := do
  rest? (← skipBlanks? (← after? word cs))

/-- A character of a name in a statement. -/
def isNamePart (c : Char) : Bool := isAsciiLetter c || isAsciiDigit c || c == '_'

/-- A name that begins with a letter, and what stands behind it. -/
def name? (cs : List Char) : Option (String × List Char) :=
  if cs.head?.any isAsciiLetter then
    some (String.ofList (cs.takeWhile isNamePart), cs.dropWhile isNamePart)
  else none

/-- The name and the items of a loop. -/
def loop? (cs : List Char) : Option (String × String) := do
  let (name, rest) ← name? (← skipBlanks? (← after? "for" cs))
  let items ← phrase? "in" (← skipBlanks? rest)
  return (name, items)

/-- The name and the value of a binding; a doubled sign of equality does not bind. -/
def binding? (cs : List Char) : Option (String × String) := do
  let (name, rest) ← name? (← skipBlanks? (← after? "set" cs))
  let rest ← after? "=" (rest.dropWhile isBlank)
  if rest.head? = some '=' then none
  let value ← rest? (rest.dropWhile isBlank)
  return (name, value)

/-- The statement that a text without blanks around it writes. -/
def ofChars? (cs : List Char) : Option Statement :=
  match phrase? "if" cs with
  | some test => some (.ifThen test)
  | none =>
  match phrase? "elif" cs with
  | some test => some (.elseIf test)
  | none =>
  if cs = "else".toList then some .otherwise
  else
  match loop? cs with
  | some (name, items) => some (.forEach name items)
  | none =>
  if cs = "end".toList then some .done
  else
  match binding? cs with
  | some (name, value) => some (.set name value)
  | none => (phrase? "emit" cs).map .emit

/-- The statement that a text writes. -/
def read? (text : String) : Option Statement := ofChars? text.toList

end Statement

end Wording
