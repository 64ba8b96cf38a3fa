import Wording.Template.Basic
import Wording.Value.Basic

/-!
# Errors

All ways in which the library refuses what it is asked, by cause, with the messages that it gives
itself. A failure of an operation on values has no message.
-/

namespace Wording

inductive Error where
  | fault (f : Fault)
  | template (e : TemplateError)
  | marker (e : MarkerError)
  /-- A marker that comes from a variable of the environment. -/
  | environment (name : String) (e : MarkerError)
  /-- There are no messages for a language, which is written as `text`. -/
  | noMessages (language : Value) (text : String)
  | languageNotText
  | cacheTooSmall

instance : Coe Failure Error := ⟨fun f => .fault (.failure f)⟩

def RenderError.message : RenderError → String
  | undefinedName id => "Name \x27" ++ id ++ "\x27 is not defined in the template context"
  | notCallable callee => "\x27" ++ callee ++ "\x27 is not callable"
  | evaluating source _ => "Error evaluating " ++ Text.Quoted.quote source
  | raised text => text

/-- The message of an error, if it has one of its own. -/
def Error.message? : Error → Option String
  | fault (.render e) => some e.message
  | fault _ => none
  | template e => if e.flaw = .expr .nullCharacter then none else some e.message
  | marker (.unreadable _) | environment _ (.unreadable _) => none
  | marker e => some e.message
  | environment name e => some (name ++ ": " ++ e.message)
  | noMessages _ text => some ("No messages found for language \"" ++ text ++ "\"")
  | languageNotText => some "initial_language must be a string"
  | cacheTooSmall => some "max_entries must be at least 1"

end Wording
