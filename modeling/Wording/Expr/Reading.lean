import Wording.Expr.Grammar
import Wording.Text.Blank
import Wording.Text.Quoted

/-!
# Reading expressions

From a written text to an expression that can be evaluated. Blanks around the text do not count. The
text has to be a term, and the term may only use what templates may use; the first thing that it may
not, level by level, is what is reported.
-/

namespace Wording

/-- Why a text is no expression that a template may hold. -/
inductive ExprFlaw where
  | empty
  /-- A character that no written text may hold. -/
  | nullCharacter
  | malformed (source : String)
  | offence (o : Offence) (source : String)
  deriving DecidableEq, Repr

namespace Offence

def message : Offence → String
  | .unsupported kind => "Unsupported syntax " ++ kind
  | .privateName id => "Private name \x27" ++ id ++ "\x27 is not allowed"
  | .attribute name => "Attribute \x27" ++ name ++ "\x27 is not allowed"
  | .unpacking => "Unpacking is not allowed"

end Offence

def ExprFlaw.message : ExprFlaw → String
  | .empty => "Empty expression"
  | .nullCharacter => "Null character in expression"
  | .malformed source => "Invalid expression " ++ Text.Quoted.quote source
  | .offence o source => o.message ++ " in expression " ++ Text.Quoted.quote source

namespace Expression

/-- The expression of a term, or the first thing in it that no template may use. -/
def ofTerm (source : String) (t : Term) : Except ExprFlaw Expression :=
  match t.check, Expr.ofTerm? t with
  | some o, _ => .error (.offence o source)
  | none, some e => .ok ⟨source, e⟩
  | none, none => .error (.malformed source)

/-- The expression that a text writes. -/
def read (source : String) : Except ExprFlaw Expression :=
  let cs := Text.trim source.toList
  let text := String.ofList cs
  if cs.isEmpty then .error .empty
  else if cs.contains '\x00' then .error .nullCharacter
  else
    match Term.read? cs with
    | none => .error (.malformed text)
    | some t => ofTerm text t

/-- The text that shows an expression. -/
def text (e : Expression) : String := "Expression(" ++ Text.Quoted.quote e.source ++ ")"

end Expression

end Wording
