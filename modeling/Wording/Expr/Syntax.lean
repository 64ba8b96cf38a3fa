/-!
# Expressions

The expressions that a template may hold: literals, names, attributes, subscripts, operators,
comparisons, conditions, displays and calls. An `Expr` is what is left of a written expression once
it has been read and checked; everything in it can be evaluated.
-/

namespace Wording

/-- A value written out in an expression. -/
inductive Literal where
  | null
  | bool (b : Bool)
  | int (n : Nat)
  | float (x : Float)
  | imaginary (x : Float)
  /-- `marked` tells that the text was written with the letter `u` in front. -/
  | text (s : String) (marked : Bool)
  | bytes (bs : List UInt8)
  | ellipsis

inductive UnaryOp where
  | plus
  | minus
  | not
  deriving DecidableEq, Repr

inductive BinaryOp where
  | add
  | sub
  | mul
  | div
  | floorDiv
  | mod
  deriving DecidableEq, Repr

inductive CompareOp where
  | eq
  | ne
  | lt
  | le
  | gt
  | ge
  | is
  | isNot
  | isIn
  | notIn
  deriving DecidableEq, Repr

inductive BoolOp where
  | and
  | or
  deriving DecidableEq, Repr

inductive Expr where
  | literal (l : Literal)
  | name (id : String)
  | attr (e : Expr) (name : String)
  | subscript (e key : Expr)
  | slice (lower upper step : Option Expr)
  | unary (op : UnaryOp) (e : Expr)
  | binary (op : BinaryOp) (left right : Expr)
  | bool (op : BoolOp) (operands : List Expr)
  | compare (first : Expr) (rest : List (CompareOp × Expr))
  | ifElse (test body orelse : Expr)
  | list (items : List Expr)
  | tuple (items : List Expr)
  | dict (items : List (Expr × Expr))
  | call (f : Expr) (args : List Expr) (keywords : List (String × Expr))

/-- An expression with the text it was read from, which error messages quote. -/
structure Expression where
  source : String
  expr : Expr

end Wording
