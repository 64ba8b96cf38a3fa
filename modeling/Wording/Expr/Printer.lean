import Wording.Expr.Syntax
import Wording.Value.Shown

/-!
# Expressions as text

The written form of an expression, which messages about something that cannot be called quote.
Spaces and quotes are normalised, and parentheses stand only where the precedence of operators asks
for them. Every operand after the first of a chain of `and` or `or` asks for more precedence than
the one before.
-/

namespace Wording

namespace Precedence

/-! How tightly the kinds of expressions bind. -/

def test : Nat := 4
def or : Nat := 5
def and : Nat := 6
def not : Nat := 7
def comparison : Nat := 8
def sum : Nat := 13
def product : Nat := 14
def factor : Nat := 15
def atom : Nat := 18

end Precedence

def UnaryOp.symbol : UnaryOp → String
  | .plus => "+"
  | .minus => "-"
  | .not => "not "

def UnaryOp.precedence : UnaryOp → Nat
  | .not => Precedence.not
  | _ => Precedence.factor

def BinaryOp.symbol : BinaryOp → String
  | .add => "+"
  | .sub => "-"
  | .mul => "*"
  | .div => "/"
  | .floorDiv => "//"
  | .mod => "%"

def BinaryOp.precedence : BinaryOp → Nat
  | .add | .sub => Precedence.sum
  | _ => Precedence.product

def CompareOp.symbol : CompareOp → String
  | .eq => "=="
  | .ne => "!="
  | .lt => "<"
  | .le => "<="
  | .gt => ">"
  | .ge => ">="
  | .is => "is"
  | .isNot => "is not"
  | .isIn => "in"
  | .notIn => "not in"

def BoolOp.symbol : BoolOp → String
  | .and => "and"
  | .or => "or"

def BoolOp.precedence : BoolOp → Nat
  | .and => Precedence.and
  | .or => Precedence.or

namespace Literal

/-- An infinite number is written as one beyond all doubles. -/
def finiteText (s : String) : String := "1e309".intercalate (s.splitOn "inf")

def print : Literal → Except Failure String
  | .float x => .ok (finiteText (Decimal.floatText x))
  | .imaginary x => .ok (finiteText (Decimal.complexText 0 x))
  | .text s marked => .ok ((if marked then "u" else "") ++ Text.Quoted.quote s)
  | .ellipsis => .ok "..."
  | l => (Value.ofLiteral l).atomText

/-- Literals that a point would be taken as a part of, or that count as such. -/
def isWhole : Literal → Bool
  | .int _ | .bool _ => true
  | _ => false

end Literal

namespace Expr

/-- Puts parentheses around what binds less tightly than asked for. -/
def enclose (asked own : Nat) (s : String) : String :=
  if asked > own then "(" ++ s ++ ")" else s

/-- Items with commas between them; one item alone has a comma behind it. -/
def tupleText : List String → String
  | [s] => s ++ ","
  | ss => ", ".intercalate ss

/-- A point behind a whole number needs a blank. -/
def beforePoint (e : Expr) (text : String) : String :=
  match e with
  | .literal l => if l.isWhole then text ++ " " else text
  | _ => text

/-- The part of a slice behind a colon. -/
def stepText : Option String → String
  | none => ""
  | some s => ":" ++ s

mutual

/-- The written form where a precedence is asked for. -/
def print : Nat → Expr → Except Failure String
  | _, .literal l => l.print
  | _, .name id => .ok id
  | _, .attr e field => do
    return beforePoint e (← print Precedence.atom e) ++ "." ++ field
  | _, .subscript e (.tuple []) => do return (← print Precedence.atom e) ++ "[()]"
  | _, .subscript e (.tuple items) => do
    return (← print Precedence.atom e) ++ "[" ++ tupleText (← printAll items) ++ "]"
  | _, .subscript e key => do
    return (← print Precedence.atom e) ++ "[" ++ (← print Precedence.test key) ++ "]"
  | _, .slice lower upper step => do
    return ((← printOption lower).getD "") ++ ":" ++ ((← printOption upper).getD "")
      ++ stepText (← printOption step)
  | p, .unary op e => do
    return enclose p op.precedence (op.symbol ++ (← print op.precedence e))
  | p, .binary op a b => do
    return enclose p op.precedence
      ((← print op.precedence a) ++ " " ++ op.symbol ++ " " ++ (← print (op.precedence + 1) b))
  | p, .bool op es => do
    return enclose p op.precedence
      ((" " ++ op.symbol ++ " ").intercalate (← printRising op.precedence es))
  | p, .compare e rest => do
    return enclose p Precedence.comparison
      ((← print (Precedence.comparison + 1) e) ++ (← printComparisons rest))
  | p, .ifElse test body orelse => do
    let body ← print (Precedence.test + 1) body
    let test ← print (Precedence.test + 1) test
    return enclose p Precedence.test
      (body ++ " if " ++ test ++ " else " ++ (← print Precedence.test orelse))
  | _, .list items => do return "[" ++ ", ".intercalate (← printAll items) ++ "]"
  | _, .tuple items => do return "(" ++ tupleText (← printAll items) ++ ")"
  | _, .dict items => do return "\x7b" ++ ", ".intercalate (← printEntries items) ++ "\x7d"
  | _, .call f args keywords => do
    let f ← print Precedence.atom f
    let args ← printAll args
    let keywords ← printKeywords keywords
    return f ++ "(" ++ ", ".intercalate (args ++ keywords) ++ ")"

def printOption : Option Expr → Except Failure (Option String)
  | none => .ok none
  | some e => do return some (← print Precedence.test e)

def printAll : List Expr → Except Failure (List String)
  | [] => .ok []
  | e :: es => do
    let s ← print Precedence.test e
    return s :: (← printAll es)

def printRising : Nat → List Expr → Except Failure (List String)
  | _, [] => .ok []
  | p, e :: es => do
    let p := min (p + 1) Precedence.atom
    let s ← print p e
    return s :: (← printRising p es)

def printComparisons : List (CompareOp × Expr) → Except Failure String
  | [] => .ok ""
  | (op, e) :: es => do
    let s ← print (Precedence.comparison + 1) e
    return " " ++ op.symbol ++ " " ++ s ++ (← printComparisons es)

def printEntries : List (Expr × Expr) → Except Failure (List String)
  | [] => .ok []
  | (k, v) :: es => do
    let s := (← print Precedence.test k) ++ ": " ++ (← print Precedence.test v)
    return s :: (← printEntries es)

def printKeywords : List (String × Expr) → Except Failure (List String)
  | [] => .ok []
  | (k, e) :: es => do
    let s := k ++ "=" ++ (← print Precedence.test e)
    return s :: (← printKeywords es)

end

/-- The written form of a whole expression. -/
def text (e : Expr) : Except Failure String := e.print Precedence.test

end Expr

end Wording
