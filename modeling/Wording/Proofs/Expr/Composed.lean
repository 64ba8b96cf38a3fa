import Wording.Expr.Eval
import Wording.Proofs.Value.Composed

/-!
# Evaluations that are put together

An evaluation is put together from operations on values, calls and errors that it reports. What holds
of these, and is carried on by computations, holds of evaluations.

* `Eval.Evaluates`: a property that holds of all that an evaluation does
* `Eval.Evaluates.evaluation`: evaluations
-/

namespace Wording.Eval

theorem Composes.lookup? {C : {α : Type} → Eval α → Prop} (hC : Composes C)
    (halloc : ∀ c, C (Eval.alloc c)) (s : Scope) (id : String) : C (s.lookup? id) := by
  unfold Scope.lookup?
  split
  · exact hC.pure _
  · unfold Scope.inContext?
    split
    · exact hC.get_bind fun _ => hC.pure _
    · refine hC.get_bind fun _ => hC.bind (hC.lift _) fun held => ?_
      split
      · exact hC.bind (hC.getItem halloc _ _) fun _ => hC.pure _
      · exact hC.pure _
  · exact hC.pure _

/-- A property that is carried on, holds of calls, and holds where something is made or reported. -/
structure Evaluates (C : {α : Type} → Eval α → Prop) (call : Caller) : Prop
    extends Composes C where
  alloc : ∀ c, C (Eval.alloc c)
  render : ∀ r, C (throw (.render r) : Eval Value)
  call : ∀ f a, C (call f a)

namespace Evaluates

variable {C : {α : Type} → Eval α → Prop} {call : Caller} (hC : Evaluates C call) (s : Scope)
include hC

theorem evalName (id : String) : C (evalName s id) := by
  refine hC.bind (hC.lookup? hC.alloc s id) fun found => ?_
  split
  · exact hC.pure _
  · split
    · exact hC.pure _
    · exact hC.render _

mutual

theorem evalExpr : (e : Expr) → C (e.eval call s)
  | .literal _ => hC.pure _
  | .name id => hC.evalName s id
  | .attr e _ => hC.bind (evalExpr e) fun _ => hC.get_bind fun _ => hC.pure _
  | .subscript e key => by
    refine hC.bind (evalExpr e) fun v => ?_
    split
    · exact hC.pure _
    · exact hC.bind (evalExpr key) fun _ => hC.getItemOrNull hC.alloc _ _
  | .slice lower upper step => hC.bind (evalOption lower) fun _ => hC.bind (evalOption upper)
      fun _ => hC.bind (evalOption step) fun _ => hC.pure _
  | .unary op e => hC.bind (evalExpr e) fun _ => hC.unary op _
  | .binary op a b => hC.bind (evalExpr a) fun _ => hC.bind (evalExpr b) fun _ =>
      hC.binary hC.alloc op _ _
  | .bool op es => evalBool op es
  | .compare e rest => hC.bind (evalExpr e) fun v => evalComparisons (e.makes v) v rest
  | .ifElse test body orelse => by
    refine hC.bind (evalExpr test) fun v => hC.get_bind fun h => ?_
    split
    · exact evalExpr body
    · exact evalExpr orelse
  | .list items => hC.bind (evalAll items) fun _ => hC.newList hC.alloc _
  | .tuple items => hC.bind (evalAll items) fun _ => hC.pure _
  | .dict items => hC.bind (evalEntries [] items) fun _ => hC.newDict hC.alloc _
  | .call f args keywords => by
    refine hC.bind (evalExpr f) fun v => ?_
    split
    · exact hC.bind (evalAll args) fun _ => hC.bind (evalNamed [] keywords) fun _ => hC.call _ _
    · exact hC.bind (hC.lift _) fun _ => hC.render _

theorem evalOption : (e : Option Expr) → C (Expr.evalOption call s e)
  | none => hC.pure _
  | some e => evalExpr e

theorem evalAll : (es : List Expr) → C (Expr.evalAll call s es)
  | [] => hC.pure _
  | e :: es => hC.bind (evalExpr e) fun _ => hC.bind (evalAll es) fun _ => hC.pure _

theorem evalBool (op : BoolOp) : (es : List Expr) → C (Expr.evalBool call s op es)
  | [] => hC.pure _
  | [e] => evalExpr e
  | e :: e' :: es => by
    refine hC.bind (evalExpr e) fun v => hC.get_bind fun h => ?_
    split
    · exact hC.pure _
    · exact evalBool op (e' :: es)

theorem evalComparisons (made : Bool) (v : Value) :
    (es : List (CompareOp × Expr)) → C (Expr.evalComparisons call s made v es)
  | [] => hC.pure _
  | (op, e) :: es => by
    refine hC.bind (evalExpr e) fun w => hC.bind (hC.compare op _ v w) fun holds => ?_
    split
    · exact evalComparisons (e.makes w) w es
    · exact hC.pure _

theorem evalEntries (acc : Entries) :
    (es : List (Expr × Expr)) → C (Expr.evalEntries call s acc es)
  | [] => hC.pure _
  | (k, e) :: es => by
    refine hC.bind (evalExpr k) fun key => hC.bind (evalExpr e) fun v => ?_
    split
    · exact evalEntries (acc.insert key v) es
    · exact hC.fail _

theorem evalNamed (acc : List (String × Value)) :
    (es : List (String × Expr)) → C (Expr.evalNamed call s acc es)
  | [] => hC.pure _
  | (k, e) :: es => hC.bind (evalExpr e) fun v => evalNamed (insertNamed k v acc) es

end

/-- What an evaluation catches it throws again, reported or as it is. -/
theorem evaluation (e : Expression) : C (e.eval call s) := by
  refine hC.caught (hC.evalExpr s e.expr) fun e' => ?_
  cases e' with
  | failure f =>
    cases hf : f.isReported with
    | true =>
      left
      simp only [hf, if_true]
      exact hC.render _
    | false =>
      right
      simp only [hf, Bool.false_eq_true, if_false]
  | _ => exact .inr rfl

end Evaluates

end Wording.Eval
