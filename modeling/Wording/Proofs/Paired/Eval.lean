import Wording.Proofs.Paired.Call
import Wording.Expr.Eval

/-!
# Expressions in scopes that go together

An expression gives, in scopes and on heaps that go together, values that do. The proof follows the
structure of the expression, one case for each of its kinds; what a part gives goes together in a
pairing that may have grown, to which the scopes are taken along.

* `Expr.alike_print`: the written form
* `Expr.agrees_eval`, `Expression.agrees_eval`
-/

namespace Wording

variable {p : Pairing}

/-! ## Written forms -/

theorem Literal.alike_print (l : Literal) : p.Alike Eq l.print l.print := by
  cases l with
  | int n => exact alike_intText n
  | _ => exact .ok rfl

namespace Expr

mutual

/-- Writing an expression fails in ordinary ways only. -/
theorem alike_print : ∀ (n : Nat) (e : Expr), p.Alike Eq (e.print n) (e.print n)
  | _, .literal l => l.alike_print
  | _, .name _ => .ok rfl
  | _, .attr e _ => (alike_print _ e).bind_eq fun _ => .ok rfl
  | _, .subscript e key => by
    have he := alike_print Precedence.atom e
    have hk := alike_print Precedence.test key
    cases key with
    | tuple items =>
      cases items with
      | nil => exact he.bind_eq fun _ => .ok rfl
      | cons k ks => exact he.bind_eq fun _ => (alike_printAll (k :: ks)).bind_eq fun _ => .ok rfl
    | _ => exact he.bind_eq fun _ => hk.bind_eq fun _ => .ok rfl
  | _, .slice lower upper step =>
    (alike_printOption lower).bind_eq fun _ => (alike_printOption upper).bind_eq fun _ =>
      (alike_printOption step).bind_eq fun _ => .ok rfl
  | _, .unary _ e => (alike_print _ e).bind_eq fun _ => .ok rfl
  | _, .binary _ a b => (alike_print _ a).bind_eq fun _ => (alike_print _ b).bind_eq fun _ => .ok rfl
  | _, .bool _ es => (alike_printRising _ es).bind_eq fun _ => .ok rfl
  | _, .compare e rest =>
    (alike_print _ e).bind_eq fun _ => (alike_printComparisons rest).bind_eq fun _ => .ok rfl
  | _, .ifElse test body orelse =>
    (alike_print _ body).bind_eq fun _ => (alike_print _ test).bind_eq fun _ =>
      (alike_print _ orelse).bind_eq fun _ => .ok rfl
  | _, .list items => (alike_printAll items).bind_eq fun _ => .ok rfl
  | _, .tuple items => (alike_printAll items).bind_eq fun _ => .ok rfl
  | _, .dict items => (alike_printEntries items).bind_eq fun _ => .ok rfl
  | _, .call f args keywords =>
    (alike_print _ f).bind_eq fun _ => (alike_printAll args).bind_eq fun _ =>
      (alike_printKeywords keywords).bind_eq fun _ => .ok rfl

theorem alike_printOption : ∀ e : Option Expr, p.Alike Eq (printOption e) (printOption e)
  | none => .ok rfl
  | some e => (alike_print _ e).bind_eq fun _ => .ok rfl

theorem alike_printAll : ∀ es : List Expr, p.Alike Eq (printAll es) (printAll es)
  | [] => .ok rfl
  | e :: es => (alike_print _ e).bind_eq fun _ => (alike_printAll es).bind_eq fun _ => .ok rfl

theorem alike_printRising : ∀ (n : Nat) (es : List Expr),
    p.Alike Eq (printRising n es) (printRising n es)
  | _, [] => .ok rfl
  | _, e :: es => (alike_print _ e).bind_eq fun _ => (alike_printRising _ es).bind_eq fun _ => .ok rfl

theorem alike_printComparisons : ∀ es : List (CompareOp × Expr),
    p.Alike Eq (printComparisons es) (printComparisons es)
  | [] => .ok rfl
  | (_, e) :: es =>
    (alike_print _ e).bind_eq fun _ => (alike_printComparisons es).bind_eq fun _ => .ok rfl

theorem alike_printEntries : ∀ es : List (Expr × Expr),
    p.Alike Eq (printEntries es) (printEntries es)
  | [] => .ok rfl
  | (k, v) :: es =>
    (alike_print _ k).bind_eq fun _ => (alike_print _ v).bind_eq fun _ =>
      (alike_printEntries es).bind_eq fun _ => .ok rfl

theorem alike_printKeywords : ∀ es : List (String × Expr),
    p.Alike Eq (printKeywords es) (printKeywords es)
  | [] => .ok rfl
  | (_, e) :: es =>
    (alike_print _ e).bind_eq fun _ => (alike_printKeywords es).bind_eq fun _ => .ok rfl

end

end Expr

/-! ## Scopes -/

/-- Scopes that bind what goes together. -/
structure Scope.Paired (p : Pairing) (s t : Scope) : Prop where
  bound : p.Named s.bound t.bound
  context : p.Optional s.context t.context

section

variable {s t : Scope} {v w : Value} {call call' : Caller}

theorem Scope.Paired.mono {q : Pairing} (hs : s.Paired p t) (hpq : p ≤ q) : s.Paired q t :=
  ⟨hs.bound.mono hpq, hs.context.mono hpq⟩

theorem Scope.agrees_inContext? (hv : v.Paired p w) (id : String) :
    p.Agrees Pairing.Optional (inContext? v id) (inContext? w id) := by
  have hother : p.Agrees Pairing.Optional
      (do
        if ← Eval.lift ((← get).holds (.str id) v) then some <$> getItem v (.str id)
        else return none)
      (do
        if ← Eval.lift ((← get).holds (.str id) w) then some <$> getItem w (.str id)
        else return none) := by
    refine agree_get_bind fun _ _ hp => Pairing.agrees_lift_bind (hp.holds (.atom rfl) hv) ?_
    rintro b _ rfl
    cases b with
    | true => exact (agrees_getItem hv (.atom rfl)).map fun _ _ _ _ h => .some h
    | false => exact agree_pure .none
  cases hv with
  | dict hr => exact agree_get_bind fun _ _ hp => agree_pure (hp.lookup hr (.atom rfl))
  | atom h => cases v <;> first | exact hother | cases h
  | _ => exact hother

theorem Scope.agrees_lookup? (hs : s.Paired p t) (id : String) :
    p.Agrees Pairing.Optional (s.lookup? id) (t.lookup? id) := by
  unfold Scope.lookup?
  have hfind := hs.bound.entry? fun k => k == id
  have hcontext := hs.context
  generalize s.bound.find? (·.1 == id) = x, t.bound.find? (·.1 == id) = y at hfind
  cases hfind with
  | some h => exact agree_pure (.some h.2)
  | none =>
    generalize s.context = x, t.context = y at hcontext
    cases hcontext with
    | none => exact agree_pure .none
    | some h => exact agrees_inContext? h id

theorem agrees_evalName (hs : s.Paired p t) (id : String) :
    p.Agrees Value.Paired (evalName s id) (evalName t id) := by
  refine (Scope.agrees_lookup? hs id).bind fun q _ x y hxy => ?_
  cases hxy with
  | some h => exact agree_pure h
  | none =>
    dsimp only
    split
    · exact agree_pure (.atom rfl)
    · exact Pairing.agrees_throw (q.render _)

theorem insertNamed_paired {ms ns : List (String × Value)} (h : p.Named ms ns) (name : String)
    (hv : v.Paired p w) : p.Named (insertNamed name v ms) (insertNamed name w ns) := by
  induction h with
  | nil => exact .cons ⟨rfl, hv⟩ .nil
  | cons hmn hs ih =>
    rw [insertNamed, insertNamed, hmn.1]
    split
    · exact .cons ⟨rfl, hv⟩ hs
    · exact .cons hmn ih

namespace Expr

theorem makes_paired (e : Expr) (hv : v.Paired p w) : e.makes v = e.makes w := by
  cases hv with
  | atom _ => rfl
  | _ =>
    cases e with
    | unary op e => cases op <;> rfl
    | _ => rfl

/-! ## Evaluation -/

mutual

/-- **An expression gives, in scopes that go together, values that do.** -/
theorem agrees_eval {p : Pairing} {s t : Scope} (hc : p.Calls call call') (hs : s.Paired p t) :
    ∀ e : Expr, p.Agrees Value.Paired (e.eval call s) (e.eval call' t)
  | .literal l => agree_pure (.atom (by cases l <;> rfl))
  | .name id => agrees_evalName hs id
  | .attr e field =>
    (agrees_eval hc hs e).bind fun _ _ _ _ hv =>
      agree_get_bind fun _ _ hp => agree_pure (hp.attr hv field)
  | .subscript e key => by
    refine (agrees_eval hc hs e).bind fun q hpq v w hv => ?_
    have hitem : q.Agrees Value.Paired (key.eval call s >>= getItemOrNull v)
        (key.eval call' t >>= getItemOrNull w) :=
      (agrees_eval (hc.mono hpq) (hs.mono hpq) key).bind fun r hqr k k' hk =>
        agrees_getItemOrNull (hv.mono hqr) hk
    cases hv with
    | atom h =>
      cases v with
      | null => exact agree_pure (.atom rfl)
      | _ => exact hitem
    | _ => exact hitem
  | .slice lower upper step =>
    (agrees_evalOption hc hs lower).bind fun q hpq _ _ hl =>
      (agrees_evalOption (hc.mono hpq) (hs.mono hpq) upper).bind fun r hqr _ _ hu =>
        (agrees_evalOption (hc.mono (hpq.trans hqr)) (hs.mono (hpq.trans hqr)) step).bind
          fun _ hrs _ _ hst =>
            agree_pure (.slice (hl.mono (hqr.trans hrs)) (hu.mono hrs) hst)
  | .unary op e => (agrees_eval hc hs e).bind fun _ _ _ _ hv => op.agrees_apply hv
  | .binary op a b =>
    (agrees_eval hc hs a).bind fun q hpq _ _ hv =>
      (agrees_eval (hc.mono hpq) (hs.mono hpq) b).bind fun _ hqr _ _ hw =>
        op.agrees_apply (hv.mono hqr) hw
  | .bool op es => agrees_evalBool hc hs op es
  | .compare e rest => by
    refine (agrees_eval hc hs e).bind fun q hpq v w hv => ?_
    rw [e.makes_paired hv]
    exact agrees_evalComparisons (hc.mono hpq) (hs.mono hpq) _ hv rest
  | .ifElse test body orelse => by
    refine (agrees_eval hc hs test).bind fun q hpq v w hv => agree_get_bind fun _ _ hp => ?_
    rw [hp.truthy hv]
    split
    · exact agrees_eval (hc.mono hpq) (hs.mono hpq) body
    · exact agrees_eval (hc.mono hpq) (hs.mono hpq) orelse
  | .list items =>
    (agrees_evalAll hc hs items).bind fun _ _ _ _ hvs => Pairing.agrees_newList hvs
  | .tuple items =>
    (agrees_evalAll hc hs items).bind fun _ _ _ _ hvs => agree_pure (.tuple hvs)
  | .dict items =>
    (agrees_evalEntries hc hs .nil items).bind fun _ _ _ _ hes => Pairing.agrees_newDict hes
  | .call f args keywords => by
    refine (agrees_eval hc hs f).bind fun q hpq v w hv => ?_
    rw [hv.isCallable]
    split
    · refine (agrees_evalAll (hc.mono hpq) (hs.mono hpq) args).bind fun r hqr vs ws hvs => ?_
      have hpr := hpq.trans hqr
      refine (agrees_evalNamed (hc.mono hpr) (hs.mono hpr) .nil keywords).bind
        fun u hru ms ns hms => ?_
      exact (hc.mono (hpr.trans hru)).agrees (hv.mono (hqr.trans hru))
        ⟨Pairing.Values.mono hru hvs, hms⟩
    · refine Pairing.agrees_lift_bind (f.alike_print _) ?_
      rintro text _ rfl
      exact Pairing.agrees_throw (q.render _)

theorem agrees_evalOption {p : Pairing} {s t : Scope} (hc : p.Calls call call')
    (hs : s.Paired p t) :
    ∀ e : Option Expr, p.Agrees Value.Paired (evalOption call s e) (evalOption call' t e)
  | none => agree_pure (.atom rfl)
  | some e => agrees_eval hc hs e

theorem agrees_evalAll {p : Pairing} {s t : Scope} (hc : p.Calls call call') (hs : s.Paired p t) :
    ∀ es : List Expr, p.Agrees Pairing.Values (evalAll call s es) (evalAll call' t es)
  | [] => agree_pure .nil
  | e :: es =>
    (agrees_eval hc hs e).bind fun _q hpq _ _ hv =>
      (agrees_evalAll (hc.mono hpq) (hs.mono hpq) es).bind fun _ hqr _ _ hvs =>
        agree_pure (.cons (hv.mono hqr) hvs)

theorem agrees_evalBool {p : Pairing} {s t : Scope} (hc : p.Calls call call') (hs : s.Paired p t)
    (op : BoolOp) :
    ∀ es : List Expr, p.Agrees Value.Paired (evalBool call s op es) (evalBool call' t op es)
  | [] => agree_pure (.atom rfl)
  | [e] => agrees_eval hc hs e
  | e :: e' :: es => by
    refine (agrees_eval hc hs e).bind fun q hpq v w hv => agree_get_bind fun _ _ hp => ?_
    rw [hp.truthy hv]
    split
    · exact agree_pure hv
    · exact agrees_evalBool (hc.mono hpq) (hs.mono hpq) op (e' :: es)

theorem agrees_evalComparisons {p : Pairing} {s t : Scope} (hc : p.Calls call call')
    (hs : s.Paired p t) (made : Bool) {v w : Value} (hv : v.Paired p w) :
    ∀ es : List (CompareOp × Expr),
      p.Agrees Value.Paired (evalComparisons call s made v es) (evalComparisons call' t made w es)
  | [] => agree_pure (.atom rfl)
  | (op, e) :: es => by
    refine (agrees_eval hc hs e).bind fun q hpq x y hx => ?_
    dsimp only
    rw [e.makes_paired hx]
    refine (op.agrees_apply _ (hv.mono hpq) hx).bind ?_
    rintro r hqr b _ rfl
    have hpr := hpq.trans hqr
    cases b with
    | true => exact agrees_evalComparisons (hc.mono hpr) (hs.mono hpr) _ (hx.mono hqr) es
    | false => exact agree_pure (.atom rfl)

theorem agrees_evalEntries {p : Pairing} {s t : Scope} (hc : p.Calls call call')
    (hs : s.Paired p t) {acc acc' : Entries} (ha : p.Entries acc acc') :
    ∀ es : List (Expr × Expr),
      p.Agrees Pairing.Entries (evalEntries call s acc es) (evalEntries call' t acc' es)
  | [] => agree_pure ha
  | (k, e) :: es => by
    refine (agrees_eval hc hs k).bind fun q hpq x y hk => ?_
    refine (agrees_eval (hc.mono hpq) (hs.mono hpq) e).bind fun r hqr v w hv => ?_
    have hpr := hpq.trans hqr
    rw [hk.isKey]
    split
    · exact agrees_evalEntries (hc.mono hpr) (hs.mono hpr)
        (Keyed.put_paired (Pairing.Entries.mono hpr ha) (hk.mono hqr) hv) es
    · exact Pairing.agrees_fail rfl

theorem agrees_evalNamed {p : Pairing} {s t : Scope} (hc : p.Calls call call')
    (hs : s.Paired p t) {acc acc' : List (String × Value)} (ha : p.Named acc acc') :
    ∀ es : List (String × Expr),
      p.Agrees Pairing.Named (evalNamed call s acc es) (evalNamed call' t acc' es)
  | [] => agree_pure ha
  | (k, e) :: es => by
    refine (agrees_eval hc hs e).bind fun q hpq v w hv => ?_
    exact agrees_evalNamed (hc.mono hpq) (hs.mono hpq)
      (insertNamed_paired (Pairing.Named.mono hpq ha) k hv) es

end

end Expr

/-- What fails in computing is reported alike. -/
theorem Expression.agrees_eval (hc : p.Calls call call') (hs : s.Paired p t) (e : Expression) :
    p.Agrees Value.Paired (e.eval call s) (e.eval call' t) := by
  refine Agree.tryCatch (e.expr.agrees_eval hc hs) ?_
  rintro q _ e' _ ⟨rfl, he⟩
  cases e' with
  | failure f =>
    dsimp only
    split
    · exact Pairing.agrees_throw (q.render _)
    · exact Pairing.agrees_throw he
  | _ => exact Pairing.agrees_throw he

end

end Wording
