/-!
# Failures

What can go wrong while values are computed. Evaluation reports the failures of computing (a wrong
kind of operand, a value out of range, a division by zero, a missing entry) with the expression that
caused them; all others pass through unreported.
-/

namespace Wording

/-- A cause for which an operation on values gives no result. -/
inductive Failure where
  | arithmetic
  | floatingPoint
  | overflow
  | zeroDivision
  | lookup
  | index
  | key
  /-- An operand or argument of the wrong kind. -/
  | type
  /-- An operand or argument of the right kind with an unsuitable value. -/
  | value
  | unicode
  | encoding
  | decoding
  | replacing
  | attribute
  | memory
  | runtime
  /-- A failure of another kind, known by its name, that a callable from outside has raised. -/
  | other (name : String)
  deriving DecidableEq, Repr

/-- The failures that are reported with the expression that caused them. -/
def Failure.isReported : Failure → Bool
  | .arithmetic | .floatingPoint | .overflow | .zeroDivision => true
  | .lookup | .index | .key => true
  | .type => true
  | .value | .unicode | .encoding | .decoding | .replacing => true
  | .attribute | .memory | .runtime | .other _ => false

/-- Why an expression of a template has no value. -/
inductive RenderError where
  | undefinedName (id : String)
  /-- The written form of what was called. -/
  | notCallable (callee : String)
  | evaluating (source : String) (cause : Failure)
  /-- Raised by a callable from outside. -/
  | raised (text : String)
  deriving DecidableEq, Repr

/-- How a computation ends without a result. -/
inductive Fault where
  | failure (f : Failure)
  | render (e : RenderError)
  /-- The bound on nested calls or on rounds of a loop is used up. -/
  | exhausted
  deriving DecidableEq, Repr

instance : Coe Failure Fault := ⟨.failure⟩

end Wording
