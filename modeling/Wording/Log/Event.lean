import Wording.Value.Basic

/-!
# Log events

What is worth a line in the log, with the level, the logger, the message and the data that go with
it.
-/

namespace Wording

inductive LogEvent where
  /-- A template of so many characters has been compiled, or has turned out not to be one. -/
  | compiled (length : Nat)
  /-- A dependency with so many dependents changes. -/
  | dependencyChanged (dependents : Nat)
  /-- Defaults of these names have changed, and this is the language now. -/
  | defaultsChanged (names : List String) (language : Option String)
  /-- No message is there for an issue; `type` and `generic` are written in the log. -/
  | fallback (field errorType : Value) (type : String) (generic : Option String)

namespace LogEvent

def levelName : LogEvent → String
  | .compiled _ => "TIMED"
  | .defaultsChanged _ _ => "INFO"
  | _ => "DEBUG"

def logger : LogEvent → String
  | .compiled _ => "messagebox.template.compiler"
  | .dependencyChanged _ => "messagebox.reactive"
  | .defaultsChanged _ _ => "messagebox.config"
  | .fallback _ _ _ _ => "messagebox.box"

def message : LogEvent → String
  | .compiled _ => "template.compile took"
  | .dependencyChanged n => "Dependency changed; re-running " ++ toString n ++ " computation(s)"
  | .defaultsChanged names _ => "Updated messagebox defaults: " ++ ", ".intercalate names
  | .fallback _ _ type generic =>
    "No message for " ++ type ++ "/" ++ generic.getD "None" ++ "; using fallback"

/-- The data of an event by name. -/
def data : LogEvent → List (String × Value)
  | .defaultsChanged _ language => [("language", (language.map Value.str).getD .null)]
  | .fallback field errorType _ _ => [("field", field), ("error_type", errorType)]
  | _ => []

end LogEvent

end Wording
