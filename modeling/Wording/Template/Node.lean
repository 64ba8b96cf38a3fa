import Wording.Expr.Syntax

/-!
# Templates as trees

A compiled template is a list of nodes: literal text, expressions whose value is written, and the
statements that bind names, choose and repeat.
-/

namespace Wording

mutual

inductive Node where
  | text (s : String)
  /-- Writes a value, escaped for HTML. -/
  | escape (e : Expression)
  /-- Writes a value as it is. -/
  | interpolate (e : Expression)
  /-- Writes a value as it is, from a statement. -/
  | emit (e : Expression)
  | set (name : String) (e : Expression)
  | cond (test : Expression) (body : List Node) (rest : Branches)
  | loop (name : String) (items : Expression) (body : List Node)

/-- What follows the first branch of a condition. -/
inductive Branches where
  | done
  | otherwise (body : List Node)
  | elseIf (test : Expression) (body : List Node) (rest : Branches)

end

end Wording
