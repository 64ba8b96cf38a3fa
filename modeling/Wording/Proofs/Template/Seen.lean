import Wording.Proofs.Expr.Composed
import Wording.Proofs.Value.Kept
import Wording.Template.Render

/-!
# What a template sees

A template sees its context through the names in its expressions, and calls values through the calls
in them. So two renderings end alike if both contexts have the same values under these names, whatever
else they hold; and a rendering without a call depends on no way of calling.

What the renderings leave as it is (a predicate `P` of heaps) is carried along: names are looked up
again and again, so the contexts have to have the same values still when the heap has changed.

* `Expr.In`: expressions in an expression
* `Expression.Agrees`: what two contexts and a way of calling have to do for an expression
* `coincide_renderTemplate`
-/

namespace Wording

/-! ## Expressions in a template -/

namespace Expr

def children : Expr → List Expr
  | .literal _ | .name _ => []
  | .attr e _ | .unary _ e => [e]
  | .subscript e key => [e, key]
  | .slice lower upper step => lower.toList ++ upper.toList ++ step.toList
  | .binary _ a b => [a, b]
  | .bool _ es | .list es | .tuple es => es
  | .compare e rest => e :: rest.map (·.2)
  | .ifElse test body orelse => [test, body, orelse]
  | .dict items => items.flatMap fun e => [e.1, e.2]
  | .call f args keywords => f :: (args ++ keywords.map (·.2))

/-- One expression stands in another one, or is that. -/
inductive In (e : Expr) : Expr → Prop
  | self : In e e
  | child {f g : Expr} (hg : g ∈ f.children) (h : In e g) : In e f

def Mentions (e : Expr) (id : String) : Prop := (Expr.name id).In e

def Calls (e : Expr) : Prop := ∃ f args keywords, (Expr.call f args keywords).In e

end Expr

mutual

/-- The expressions that stand in a node. -/
def Node.expressions : Node → List Expression
  | .text _ => []
  | .escape e | .interpolate e | .emit e | .set _ e => [e]
  | .cond test body rest => test :: (Node.expressionsAll body ++ rest.expressions)
  | .loop _ items body => items :: Node.expressionsAll body

def Node.expressionsAll : List Node → List Expression
  | [] => []
  | n :: ns => n.expressions ++ Node.expressionsAll ns

def Branches.expressions : Branches → List Expression
  | .done => []
  | .otherwise body => Node.expressionsAll body
  | .elseIf test body rest => test :: (Node.expressionsAll body ++ rest.expressions)

end

/-! ## Names -/

section

variable {P : Heap → Prop} {c d : Option Value}

/-- What is bound in front of two contexts hides the same in both. -/
theorem Scope.coincide_lookup? {id : String}
    (h : Coincide P (Scope.lookup? ⟨[], c⟩ id) (Scope.lookup? ⟨[], d⟩ id))
    (bound : List (String × Value)) :
    Coincide P (Scope.lookup? ⟨bound, c⟩ id) (Scope.lookup? ⟨bound, d⟩ id) := by
  unfold Scope.lookup? at h ⊢
  cases bound.find? (·.1 == id) with
  | some b => exact coincide_pure _
  | none => exact h

theorem Scope.leaves_lookup? (hP : Heap.Lasting P) (s : Scope) (id : String) :
    Eval.Leaves P (s.lookup? id) :=
  (Eval.composes_leaves P).lookup? (leaves_alloc hP) s id

theorem coincide_evalName {s t : Scope} {id : String}
    (h : Coincide P (s.lookup? id) (t.lookup? id)) :
    Coincide P (evalName s id) (evalName t id) := by
  refine h.bind fun found => ?_
  split
  · exact coincide_pure _
  · split
    · exact coincide_pure _
    · exact coincide_throw _

end

/-! ## Expressions -/

namespace Expr

/-- Two scopes have the same values under the names in an expression, and a way to call leaves `P` as
it is if there is a call in the expression. -/
structure Agrees (P : Heap → Prop) (call : Caller) (s t : Scope) (e : Expr) : Prop where
  names : ∀ id, e.Mentions id → Coincide P (s.lookup? id) (t.lookup? id)
  calls : e.Calls → ∀ v a, Eval.Leaves P (call v a)

variable {P : Heap → Prop} {call : Caller} {s t : Scope}

theorem Agrees.child {e f : Expr} (h : f.Agrees P call s t) (he : e ∈ f.children) :
    e.Agrees P call s t where
  names id hid := h.names id (.child he hid)
  calls := fun ⟨f, args, keywords, hc⟩ => h.calls ⟨f, args, keywords, .child he hc⟩

mutual

/-- **Scopes with the same values under the names in an expression give it the same value.** -/
theorem coincide_eval (hP : Heap.Lasting P) : (e : Expr) → e.Agrees P call s t →
    Coincide P (e.eval call s) (e.eval call t)
  | .literal l, _ => coincide_pure _
  | .name id, h => coincide_evalName (h.names id .self)
  | .attr e field, h =>
    (coincide_eval hP e (h.child (by simp [children]))).bind fun _ =>
      coincide_get_bind fun _ => coincide_pure _
  | .subscript e key, h => by
    refine (coincide_eval hP e (h.child (by simp [children]))).bind fun v => ?_
    split
    · exact coincide_pure _
    · exact (coincide_eval hP key (h.child (by simp [children]))).bind fun k =>
        (leaves_getItemOrNull hP _ k).coincide
  | .slice lower upper step, h =>
    (coincide_evalOption hP lower fun e he => h.child (by simp [children, Option.mem_def.mp he])).bind fun _ =>
      (coincide_evalOption hP upper fun e he => h.child (by simp [children, Option.mem_def.mp he])).bind fun _ =>
      (coincide_evalOption hP step fun e he => h.child (by simp [children, Option.mem_def.mp he])).bind fun _ =>
      coincide_pure _
  | .unary op e, h =>
    (coincide_eval hP e (h.child (by simp [children]))).bind fun v => (op.leaves_apply v).coincide
  | .binary op a b, h =>
    (coincide_eval hP a (h.child (by simp [children]))).bind fun v =>
      (coincide_eval hP b (h.child (by simp [children]))).bind fun w =>
      (op.leaves_apply hP v w).coincide
  | .bool op es, h => coincide_evalBool hP op es fun e he => h.child he
  | .compare e rest, h =>
    (coincide_eval hP e (h.child (by simp [children]))).bind fun v =>
      coincide_evalComparisons hP _ v rest fun e he =>
        h.child (List.mem_cons_of_mem _ (List.mem_map_of_mem he))
  | .ifElse test body orelse, h => by
    refine (coincide_eval hP test (h.child (by simp [children]))).bind fun v =>
      coincide_get_bind fun k => ?_
    split
    · exact coincide_eval hP body (h.child (by simp [children]))
    · exact coincide_eval hP orelse (h.child (by simp [children]))
  | .list items, h =>
    (coincide_evalAll hP items fun e he => h.child he).bind fun vs => (leaves_newList hP vs).coincide
  | .tuple items, h =>
    (coincide_evalAll hP items fun e he => h.child he).bind fun _ => coincide_pure _
  | .dict items, h =>
    (coincide_evalEntries hP [] items fun e he =>
      ⟨h.child (List.mem_flatMap.mpr ⟨e, he, by simp⟩),
        h.child (List.mem_flatMap.mpr ⟨e, he, by simp⟩)⟩).bind fun es =>
      (leaves_newDict hP es).coincide
  | .call f args keywords, h => by
    refine (coincide_eval hP f (h.child (by simp [children]))).bind fun v => ?_
    split
    · refine (coincide_evalAll hP args fun e he => h.child (by simp [children, he])).bind
        fun positional => (coincide_evalNamed hP [] keywords fun e he =>
          h.child ?_).bind fun named => ?_
      · exact List.mem_cons_of_mem _ (List.mem_append_right _ (List.mem_map_of_mem he))
      · exact (h.calls ⟨f, args, keywords, .self⟩ v _).coincide
    · exact (leaves_lift _).coincide.bind fun _ => coincide_throw _

theorem coincide_evalOption (hP : Heap.Lasting P) : (e : Option Expr) → (∀ f ∈ e, f.Agrees P call s t) →
    Coincide P (evalOption call s e) (evalOption call t e)
  | none, _ => coincide_pure _
  | some e, h => coincide_eval hP e (h e rfl)

theorem coincide_evalAll (hP : Heap.Lasting P) : (es : List Expr) → (∀ e ∈ es, e.Agrees P call s t) →
    Coincide P (evalAll call s es) (evalAll call t es)
  | [], _ => coincide_pure _
  | e :: es, h =>
    (coincide_eval hP e (h e List.mem_cons_self)).bind fun _ =>
      (coincide_evalAll hP es fun f hf => h f (List.mem_cons_of_mem _ hf)).bind fun _ =>
      coincide_pure _

theorem coincide_evalBool (hP : Heap.Lasting P) (op : BoolOp) : (es : List Expr) → (∀ e ∈ es, e.Agrees P call s t) →
    Coincide P (evalBool call s op es) (evalBool call t op es)
  | [], _ => coincide_pure _
  | [e], h => coincide_eval hP e (h e List.mem_cons_self)
  | e :: e' :: es, h => by
    refine (coincide_eval hP e (h e List.mem_cons_self)).bind fun v => coincide_get_bind fun k => ?_
    split
    · exact coincide_pure _
    · exact coincide_evalBool hP op (e' :: es) fun f hf => h f (List.mem_cons_of_mem _ hf)

theorem coincide_evalComparisons (hP : Heap.Lasting P) (made : Bool) (v : Value) : (es : List (CompareOp × Expr)) →
    (∀ e ∈ es, e.2.Agrees P call s t) →
    Coincide P (evalComparisons call s made v es) (evalComparisons call t made v es)
  | [], _ => coincide_pure _
  | (op, e) :: es, h => by
    refine (coincide_eval hP e (h _ List.mem_cons_self)).bind fun w =>
      (op.leaves_apply _ v w).coincide.bind fun holds => ?_
    split
    · exact coincide_evalComparisons hP _ w es fun f hf => h f (List.mem_cons_of_mem _ hf)
    · exact coincide_pure _

theorem coincide_evalEntries (hP : Heap.Lasting P) (acc : Entries) : (es : List (Expr × Expr)) →
    (∀ e ∈ es, e.1.Agrees P call s t ∧ e.2.Agrees P call s t) →
    Coincide P (evalEntries call s acc es) (evalEntries call t acc es)
  | [], _ => coincide_pure _
  | (k, e) :: es, h => by
    obtain ⟨hk, he⟩ := h _ List.mem_cons_self
    refine (coincide_eval hP k hk).bind fun key => (coincide_eval hP e he).bind fun v => ?_
    split
    · exact coincide_evalEntries hP _ es fun f hf => h f (List.mem_cons_of_mem _ hf)
    · exact coincide_throw _

theorem coincide_evalNamed (hP : Heap.Lasting P) (acc : List (String × Value)) : (es : List (String × Expr)) →
    (∀ e ∈ es, e.2.Agrees P call s t) →
    Coincide P (evalNamed call s acc es) (evalNamed call t acc es)
  | [], _ => coincide_pure _
  | (_, e) :: es, h =>
    (coincide_eval hP e (h _ List.mem_cons_self)).bind fun _ =>
      coincide_evalNamed hP _ es fun f hf => h f (List.mem_cons_of_mem _ hf)

end

end Expr

theorem Expression.coincide_eval {P : Heap → Prop} (hP : Heap.Lasting P) {call : Caller}
    {s t : Scope} {e : Expression} (h : e.expr.Agrees P call s t) :
    Coincide P (e.eval call s) (e.eval call t) := by
  refine Coincide.tryCatch (Expr.coincide_eval hP e.expr h) fun e' => ?_
  split
  · exact coincide_throw _
  · exact coincide_throw _

/-! ## Pages -/

/-- Two contexts have the same values under the names in an expression, and calls leave `P` as it is
if there is one in the expression. -/
def Expression.Agrees (P : Heap → Prop) (m : Machine) (c d : Option Value) (e : Expression) : Prop :=
  e.expr.Agrees P m.call ⟨[], c⟩ ⟨[], d⟩

section

variable {P : Heap → Prop} {m : Machine} {c d : Option Value}

theorem Page.coincide_eval (hP : Heap.Lasting P) {e : Expression} (h : e.Agrees P m c d)
    (p : Page) : Coincide P (p.eval m c e) (p.eval m d e) :=
  Expression.coincide_eval hP
    ⟨fun id hid => Scope.coincide_lookup? (h.names id hid) p.bound, h.calls⟩

theorem leaves_plainText (v : Value) : Eval.Leaves P (plainText v) := by
  unfold plainText
  split
  · exact leaves_pure _
  · exact leaves_lift_get _

theorem leaves_escapedText (v : Value) : Eval.Leaves P (escapedText v) :=
  (leaves_plainText v).bind fun _ => leaves_pure _

/-! ## Loops -/

section

variable {round round' : Value → Page → Eval Page}
  (hround : ∀ v p, Coincide P (round v p) (round' v p))
include hround

theorem coincide_eachOf (vs : List Value) (p : Page) :
    Coincide P (eachOf round vs p) (eachOf round' vs p) := by
  induction vs generalizing p with
  | nil => exact coincide_pure _
  | cons v vs ih => exact (hround v p).bind ih

theorem coincide_eachIn (r : Ref) (limit i : Nat) (p : Page) :
    Coincide P (eachIn round r limit i p) (eachIn round' r limit i p) := by
  induction limit generalizing i p with
  | zero => exact coincide_throw _
  | succ limit ih =>
    refine coincide_get_bind fun h => ?_
    split
    · exact coincide_pure _
    · exact (hround _ p).bind fun q => ih _ q

theorem coincide_eachItem (limit : Nat) (items : Value) (p : Page) :
    Coincide P (eachItem limit round items p) (eachItem limit round' items p) := by
  unfold eachItem
  split
  · exact coincide_pure _
  · exact coincide_eachIn hround _ _ _ _
  · exact (leaves_elements _).coincide.bind fun vs => coincide_eachOf hround vs p

end

/-! ## Nodes -/

mutual

theorem Node.coincide_render (hP : Heap.Lasting P) : (n : Node) → (∀ e ∈ n.expressions, e.Agrees P m c d) → (p : Page) →
    Coincide P (n.render m c p) (n.render m d p)
  | .text s, _, p => coincide_pure _
  | .escape e, h, p =>
    (p.coincide_eval hP (h e (by simp [Node.expressions]))).bind fun v =>
      (leaves_escapedText v).coincide.bind fun _ => coincide_pure _
  | .interpolate e, h, p =>
    (p.coincide_eval hP (h e (by simp [Node.expressions]))).bind fun v =>
      (leaves_plainText v).coincide.bind fun _ => coincide_pure _
  | .emit e, h, p =>
    (p.coincide_eval hP (h e (by simp [Node.expressions]))).bind fun v =>
      (leaves_plainText v).coincide.bind fun _ => coincide_pure _
  | .set name e, h, p =>
    (p.coincide_eval hP (h e (by simp [Node.expressions]))).bind fun _ => coincide_pure _
  | .cond test body rest, h, p => by
    refine (p.coincide_eval hP (h test (by simp [Node.expressions]))).bind fun v =>
      coincide_get_bind fun k => ?_
    split
    · exact Node.coincide_renderAll hP body (fun e he => h e (by simp [Node.expressions, he])) p
    · exact Branches.coincide_render hP rest (fun e he => h e (by simp [Node.expressions, he])) p
  | .loop name items body, h, p =>
    (p.coincide_eval hP (h items (by simp [Node.expressions]))).bind fun v =>
      coincide_eachItem (fun w q => Node.coincide_renderAll hP body
        (fun e he => h e (by simp [Node.expressions, he])) (q.bind name w)) m.limit v p

theorem Node.coincide_renderAll (hP : Heap.Lasting P) : (ns : List Node) →
    (∀ e ∈ Node.expressionsAll ns, e.Agrees P m c d) → (p : Page) →
    Coincide P (Node.renderAll m c ns p) (Node.renderAll m d ns p)
  | [], _, p => coincide_pure _
  | n :: ns, h, p =>
    (Node.coincide_render hP n (fun e he => h e (by simp [Node.expressionsAll, he])) p).bind fun q =>
      Node.coincide_renderAll hP ns (fun e he => h e (by simp [Node.expressionsAll, he])) q

theorem Branches.coincide_render (hP : Heap.Lasting P) : (k : Branches) → (∀ e ∈ k.expressions, e.Agrees P m c d) →
    (p : Page) → Coincide P (k.render m c p) (k.render m d p)
  | .done, _, p => coincide_pure _
  | .otherwise body, h, p => Node.coincide_renderAll hP body h p
  | .elseIf test body rest, h, p => by
    refine (p.coincide_eval hP (h test (by simp [Branches.expressions]))).bind fun v =>
      coincide_get_bind fun k => ?_
    split
    · exact Node.coincide_renderAll hP body (fun e he => h e (by simp [Branches.expressions, he])) p
    · exact Branches.coincide_render hP rest (fun e he => h e (by simp [Branches.expressions, he])) p

end

/-- **Two renderings end alike in contexts that agree for all expressions of the template.** -/
theorem coincide_renderTemplate (hP : Heap.Lasting P) (ns : List Node)
    (h : ∀ e ∈ Node.expressionsAll ns, e.Agrees P m c d) :
    Coincide P (do return (← Node.renderAll m c ns ⟨[], ""⟩).text)
      (do return (← Node.renderAll m d ns ⟨[], ""⟩).text) :=
  (Node.coincide_renderAll hP ns h ⟨[], ""⟩).bind fun _ => coincide_pure _

end

end Wording
