import Wording.Expr.Eval
import Wording.Proofs.Expr.Offences
import Wording.Proofs.Outcome

/-!
# What an evaluation comes to

A term can be evaluated before it is checked: `visit` goes through it by the kinds of its nodes, and
breaks off where it comes to a kind or an operator that has no rule, to an entry or an argument that
unpacks, or to an attribute that no template may read.

Of what passes the check none of that is reached: such a term is visited to the very end, and with
the value of the expression that it is (`visit_eq`). With what `Offences` says of the check this is
the whole of what reading an expression promises: `read_guards`.
-/

namespace Wording

/-! ## Breaches -/

/-- What no evaluation may come to. -/
inductive Breach where
  /-- A node or an operator without a rule, by the name of its kind. -/
  | noRule (kind : String)
  /-- An attribute that no template may read. -/
  | attribute (name : String)
  /-- An entry without a key, or an argument that unpacks a mapping. -/
  | unpacking
  deriving DecidableEq, Repr

/-- An evaluation that may come to a breach. -/
abbrev Visit := ExceptT Breach Eval

namespace Visit

variable {α β : Type}

def breach (b : Breach) : Visit α := ExceptT.mk (pure (.error b))

/-- An evaluation that comes to no breach. -/
def safe (m : Eval α) : Visit α := ExceptT.lift m

theorem safe_pure (a : α) : safe (pure a) = pure a := by
  refine ExceptT.ext ?_
  rw [safe, ExceptT.run_lift, map_pure]
  rfl

theorem safe_bind (m : Eval α) (f : α → Eval β) :
    safe (m >>= f) = safe m >>= fun a => safe (f a) := by
  refine ExceptT.ext ?_
  simp only [safe, ExceptT.run_bind_lift, ExceptT.run_lift, map_bind]

theorem safe_ite (c : Bool) (m m' : Eval α) :
    safe (if c then m else m') = if c then safe m else safe m' := by
  cases c <;> rfl

/-- An evaluation that is safe ends in no breach. -/
theorem outcome_safe_ne (m : Eval α) (h h' : Heap) (b : Breach) :
    outcome (safe m).run h ≠ (.ok (.error b), h') := by
  rw [safe, ExceptT.run_lift, outcome_map]
  intro heq
  cases hm : (outcome m h).1 with
  | error f => simp [hm, Except.map] at heq
  | ok a => simp [hm, Except.map] at heq

end Visit

/-! ## Visiting a term -/

namespace Term

open Visit (breach safe)

/-- Whether a term does not refer to a value but makes one. -/
def makes : Term → Value → Bool
  | .literal _, _ | .tuple _, _ | .unary .minus _, _ => true
  | .binary _ _ _, .int _ | .binary _ _ _, .float _ | .binary _ _ _, .complex _ _ => true
  | .attr _ _, .method _ _ => true
  | _, _ => false

section

variable (text : Term → Except Failure String) (call : Caller) (s : Scope)

mutual

/-- The value of a term, by the rule for its kind. `text` is the written form of what is called. -/
def visit : Term → Visit Value
  | .literal l => return .ofLiteral l
  | .name id => safe (evalName s id)
  | .attr e field => do
    let v ← visit e
    if isPrivate field || isBlocked field then breach (.attribute field)
    else safe (do return (← get).attr v field)
  | .subscript e key => do
    match ← visit e with
    | .null => return .null
    | v =>
      let key ← visit key
      safe (getItemOrNull v key)
  | .slice lower upper step => do
    let lower ← visitOption lower
    let upper ← visitOption upper
    let step ← visitOption step
    return .slice lower upper step
  | .unary op e => do
    let v ← visit e
    safe (op.apply v)
  | .binary op a b => do
    let v ← visit a
    let w ← visit b
    safe (op.apply v w)
  | .bool op es => visitBool op es
  | .compare e rest => do
    let v ← visit e
    visitComparisons (e.makes v) v rest
  | .ifElse test body orelse => do
    let v ← visit test
    if (← safe get).truthy v then visit body else visit orelse
  | .list items => do
    let vs ← visitAll items
    safe (Eval.newList vs)
  | .tuple items => do
    let vs ← visitAll items
    return .tuple vs
  | .dict items => do
    let es ← visitEntries [] items
    safe (Eval.newDict es)
  | .call f args keywords => do
    let v ← visit f
    if v.isCallable then
      let positional ← visitAll args
      let named ← visitNamed [] keywords
      safe (call v ⟨positional, named⟩)
    else
      safe (do
        let text ← Eval.lift (text f)
        throw (.render (.notCallable text)))
  | .starred _ => breach (.noRule "Starred")
  | .otherUnary op _ | .otherBinary op _ _ => breach (.noRule op.name)
  | .other k => breach (.noRule k.name)

def visitOption : Option Term → Visit Value
  | none => return .null
  | some t => visit t

def visitAll : List Term → Visit (List Value)
  | [] => return []
  | t :: ts => do
    let v ← visit t
    let vs ← visitAll ts
    return v :: vs

def visitBool (op : BoolOp) : List Term → Visit Value
  | [] => return .null
  | [t] => visit t
  | t :: ts => do
    let v ← visit t
    if (← safe get).truthy v == (op == .or) then return v else visitBool op ts

def visitComparisons (made : Bool) (v : Value) : List (CompareOp × Term) → Visit Value
  | [] => return .bool true
  | (op, t) :: ts => do
    let w ← visit t
    let makes := t.makes w
    if ← safe (op.apply (made || makes) v w) then visitComparisons makes w ts
    else return .bool false

def visitEntries (acc : Entries) : List (Option Term × Term) → Visit Entries
  | [] => return acc
  | (none, _) :: _ => breach .unpacking
  | (some k, t) :: ts => do
    let key ← visit k
    let v ← visit t
    if key.isKey then visitEntries (acc.insert key v) ts else safe (Eval.fail .type)

def visitNamed (acc : List (String × Value)) :
    List (Option String × Term) → Visit (List (String × Value))
  | [] => return acc
  | (none, _) :: _ => breach .unpacking
  | (some k, t) :: ts => do
    let v ← visit t
    visitNamed (insertNamed k v acc) ts

end

end

/-! ## Expressions are visited to the end -/

open Wording.Expr Visit

/-- An expression makes a value if the term that it comes from does. -/
theorem makes_eq {t : Term} {e : Expr} (h : ofTerm? t = some e) (v : Value) :
    t.makes v = e.makes v := by
  cases t with
  | literal l => cases h; rfl
  | name id =>
    obtain ⟨-, h⟩ := Option.ite_none_left_eq_some.mp h
    cases h
    rfl
  | attr e field =>
    obtain ⟨-, h⟩ := Option.ite_none_left_eq_some.mp h
    obtain ⟨e', -, h⟩ := Option.bind_eq_some_iff.mp h
    cases h
    cases v <;> rfl
  | starred | otherUnary | otherBinary | other => cases h
  | unary op e =>
    obtain ⟨e', -, h⟩ := Option.bind_eq_some_iff.mp h
    cases h
    cases op <;> rfl
  | bool | list | tuple | dict =>
    obtain ⟨es, -, h⟩ := Option.bind_eq_some_iff.mp h
    cases h
    rfl
  | subscript | binary | compare =>
    obtain ⟨a, -, h⟩ := Option.bind_eq_some_iff.mp h
    obtain ⟨b, -, h⟩ := Option.bind_eq_some_iff.mp h
    cases h
    cases v <;> rfl
  | slice | ifElse | call =>
    obtain ⟨a, -, h⟩ := Option.bind_eq_some_iff.mp h
    obtain ⟨b, -, h⟩ := Option.bind_eq_some_iff.mp h
    obtain ⟨c, -, h⟩ := Option.bind_eq_some_iff.mp h
    cases h
    rfl

/-- A way to write terms that writes an expression as it is written. -/
def Writes (text : Term → Except Failure String) : Prop :=
  ∀ t e, ofTerm? t = some e → text t = e.text

section

variable {text : Term → Except Failure String} (call : Caller) (s : Scope)

mutual

/-- **A term that is an expression is visited to the end, with the value of the expression.** -/
theorem visit_eq (htext : Writes text) :
    (t : Term) → (e : Expr) → ofTerm? t = some e → visit text call s t = safe (e.eval call s)
  | .literal l, _, h => by
    cases h
    rw [visit, eval, safe_pure]
  | .name id, _, h => by
    obtain ⟨-, h⟩ := Option.ite_none_left_eq_some.mp h
    cases h
    rw [visit, eval]
  | .attr t field, _, h => by
    obtain ⟨hfield, h⟩ := Option.ite_none_left_eq_some.mp h
    obtain ⟨e, he, h⟩ := Option.bind_eq_some_iff.mp h
    cases h
    simp only [visit, eval, safe_bind, visit_eq htext t e he, hfield, Bool.false_eq_true, if_false]
  | .subscript t key, _, h => by
    obtain ⟨e, he, h⟩ := Option.bind_eq_some_iff.mp h
    obtain ⟨k, hk, h⟩ := Option.bind_eq_some_iff.mp h
    cases h
    rw [visit, eval, safe_bind, visit_eq htext t e he]
    refine bind_congr fun v => ?_
    rw [visit_eq htext key k hk]
    cases v <;> simp only [safe_bind, safe_pure]
  | .slice lower upper step, _, h => by
    obtain ⟨a, ha, h⟩ := Option.bind_eq_some_iff.mp h
    obtain ⟨b, hb, h⟩ := Option.bind_eq_some_iff.mp h
    obtain ⟨c, hc, h⟩ := Option.bind_eq_some_iff.mp h
    cases h
    simp only [visit, eval, safe_bind, safe_pure, visitOption_eq htext _ _ ha,
      visitOption_eq htext _ _ hb, visitOption_eq htext _ _ hc]
  | .unary op t, _, h => by
    obtain ⟨e, he, h⟩ := Option.bind_eq_some_iff.mp h
    cases h
    simp only [visit, eval, safe_bind, visit_eq htext t e he]
  | .binary op t u, _, h => by
    obtain ⟨a, ha, h⟩ := Option.bind_eq_some_iff.mp h
    obtain ⟨b, hb, h⟩ := Option.bind_eq_some_iff.mp h
    cases h
    simp only [visit, eval, safe_bind, visit_eq htext t a ha, visit_eq htext u b hb]
  | .bool op ts, _, h => by
    obtain ⟨es, hes, h⟩ := Option.bind_eq_some_iff.mp h
    cases h
    rw [visit, eval, visitBool_eq htext op ts es hes]
  | .compare t rest, _, h => by
    obtain ⟨e, he, h⟩ := Option.bind_eq_some_iff.mp h
    obtain ⟨es, hes, h⟩ := Option.bind_eq_some_iff.mp h
    cases h
    simp only [visit, eval, safe_bind, visit_eq htext t e he, makes_eq he,
      visitComparisons_eq htext rest es hes]
  | .ifElse test body orelse, _, h => by
    obtain ⟨a, ha, h⟩ := Option.bind_eq_some_iff.mp h
    obtain ⟨b, hb, h⟩ := Option.bind_eq_some_iff.mp h
    obtain ⟨c, hc, h⟩ := Option.bind_eq_some_iff.mp h
    cases h
    simp only [visit, eval, safe_bind, safe_ite, visit_eq htext test a ha, visit_eq htext body b hb,
      visit_eq htext orelse c hc]
  | .list ts, _, h => by
    obtain ⟨es, hes, h⟩ := Option.bind_eq_some_iff.mp h
    cases h
    simp only [visit, eval, safe_bind, visitAll_eq htext ts es hes]
  | .tuple ts, _, h => by
    obtain ⟨es, hes, h⟩ := Option.bind_eq_some_iff.mp h
    cases h
    simp only [visit, eval, safe_bind, safe_pure, visitAll_eq htext ts es hes]
  | .dict items, _, h => by
    obtain ⟨es, hes, h⟩ := Option.bind_eq_some_iff.mp h
    cases h
    simp only [visit, eval, safe_bind, visitEntries_eq htext items es hes]
  | .call f args keywords, _, h => by
    obtain ⟨e, he, h⟩ := Option.bind_eq_some_iff.mp h
    obtain ⟨es, hes, h⟩ := Option.bind_eq_some_iff.mp h
    obtain ⟨ks, hks, h⟩ := Option.bind_eq_some_iff.mp h
    cases h
    simp only [visit, eval, safe_bind, safe_ite, visit_eq htext f e he, htext f e he,
      visitAll_eq htext args es hes, visitNamed_eq htext keywords ks hks]

theorem visitOption_eq (htext : Writes text) :
    (t : Option Term) → (e : Option Expr) → ofOption? t = some e →
      visitOption text call s t = safe (evalOption call s e)
  | none, _, h => by
    cases h
    rw [visitOption, evalOption, safe_pure]
  | some t, _, h => by
    obtain ⟨e, he, h⟩ := Option.bind_eq_some_iff.mp h
    cases h
    rw [visitOption, evalOption, visit_eq htext t e he]

theorem visitAll_eq (htext : Writes text) :
    (ts : List Term) → (es : List Expr) → ofAll? ts = some es →
      visitAll text call s ts = safe (evalAll call s es)
  | [], _, h => by
    cases h
    rw [visitAll, evalAll, safe_pure]
  | t :: ts, _, h => by
    obtain ⟨e, he, h⟩ := Option.bind_eq_some_iff.mp h
    obtain ⟨es, hes, h⟩ := Option.bind_eq_some_iff.mp h
    cases h
    simp only [visitAll, evalAll, safe_bind, safe_pure, visit_eq htext t e he,
      visitAll_eq htext ts es hes]

theorem visitBool_eq (htext : Writes text) (op : BoolOp) :
    (ts : List Term) → (es : List Expr) → ofAll? ts = some es →
      visitBool text call s op ts = safe (evalBool call s op es)
  | [], _, h => by
    cases h
    rw [visitBool, evalBool, safe_pure]
  | [t], _, h => by
    obtain ⟨e, he, h⟩ := Option.bind_eq_some_iff.mp h
    cases h
    rw [visitBool, evalBool, visit_eq htext t e he]
  | t :: u :: ts, _, h => by
    obtain ⟨e, he, h⟩ := Option.bind_eq_some_iff.mp h
    obtain ⟨es, hes, h⟩ := Option.bind_eq_some_iff.mp h
    cases h
    obtain ⟨e', he', h⟩ := Option.bind_eq_some_iff.mp hes
    obtain ⟨es', hes', h⟩ := Option.bind_eq_some_iff.mp h
    cases h
    simp only [visitBool, evalBool, safe_bind, safe_pure, safe_ite, visit_eq htext t e he,
      visitBool_eq htext op (u :: ts) (e' :: es') hes]

theorem visitComparisons_eq (htext : Writes text) :
    (ts : List (CompareOp × Term)) → (es : List (CompareOp × Expr)) → ofComparisons? ts = some es →
      ∀ made v, visitComparisons text call s made v ts = safe (evalComparisons call s made v es)
  | [], _, h, made, v => by
    cases h
    rw [visitComparisons, evalComparisons, safe_pure]
  | (op, t) :: ts, _, h, made, v => by
    obtain ⟨e, he, h⟩ := Option.bind_eq_some_iff.mp h
    obtain ⟨es, hes, h⟩ := Option.bind_eq_some_iff.mp h
    cases h
    simp only [visitComparisons, evalComparisons, safe_bind, safe_pure, safe_ite,
      visit_eq htext t e he, makes_eq he, visitComparisons_eq htext ts es hes]

theorem visitEntries_eq (htext : Writes text) :
    (ts : List (Option Term × Term)) → (es : List (Expr × Expr)) → ofEntries? ts = some es →
      ∀ acc, visitEntries text call s acc ts = safe (evalEntries call s acc es)
  | [], _, h, acc => by
    cases h
    rw [visitEntries, evalEntries, safe_pure]
  | (none, _) :: _, _, h, _ => nomatch h
  | (some k, t) :: ts, _, h, acc => by
    obtain ⟨k?, hk?, h⟩ := Option.bind_eq_some_iff.mp h
    obtain ⟨key, hkey, hsome⟩ := Option.bind_eq_some_iff.mp hk?
    cases hsome
    obtain ⟨e, he, h⟩ := Option.bind_eq_some_iff.mp h
    obtain ⟨es, hes, h⟩ := Option.bind_eq_some_iff.mp h
    cases h
    simp only [visitEntries, evalEntries, safe_bind, safe_ite, visit_eq htext k key hkey,
      visit_eq htext t e he, visitEntries_eq htext ts es hes]

theorem visitNamed_eq (htext : Writes text) :
    (ts : List (Option String × Term)) → (es : List (String × Expr)) → ofKeywords? ts = some es →
      ∀ acc, visitNamed text call s acc ts = safe (evalNamed call s acc es)
  | [], _, h, acc => by
    cases h
    rw [visitNamed, evalNamed, safe_pure]
  | (none, _) :: _, _, h, _ => nomatch h
  | (some k, t) :: ts, _, h, acc => by
    obtain ⟨e, he, h⟩ := Option.bind_eq_some_iff.mp h
    obtain ⟨es, hes, h⟩ := Option.bind_eq_some_iff.mp h
    cases h
    simp only [visitNamed, evalNamed, safe_bind, visit_eq htext t e he,
      visitNamed_eq htext ts es hes]

end

end

/-! ## Reading an expression -/

theorem read?_nil : read? [] = none :=
  Option.isNone_iff_eq_none.mp (by decide +kernel)

end Term

namespace Expression

open Term Wording.Expr
open Visit (safe)

/-- What is read off a text that is a term. -/
theorem read_eq_ofTerm {source : String} {t : Term} (hnull : '\x00' ∉ Text.trim source.toList)
    (ht : Term.read? (Text.trim source.toList) = some t) :
    read source = ofTerm (String.ofList (Text.trim source.toList)) t := by
  have hempty : (Text.trim source.toList).isEmpty = false := by
    cases hcs : Text.trim source.toList with
    | nil =>
      rw [hcs, read?_nil] at ht
      cases ht
    | cons c cs => rfl
  have hnull' : (Text.trim source.toList).contains '\x00' = false := by simpa using hnull
  simp only [read, hempty, hnull', ht, Bool.false_eq_true, if_false]

/-- A term is an expression, or is refused for the offence that comes first. -/
theorem ofTerm_cases (source : String) (t : Term) :
    (∃ o, t.check = some o ∧ ofTerm source t = .error (.offence o source)) ∨
      ∃ e, t.check = none ∧ ofTerm? t = some e ∧ ofTerm source t = .ok ⟨source, e⟩ := by
  cases hcheck : t.check with
  | some o =>
    refine .inl ⟨o, rfl, ?_⟩
    rw [ofTerm, hcheck]
  | none =>
    obtain ⟨e, he⟩ := exists_ofTerm? t (clean_of_check hcheck)
    refine .inr ⟨e, rfl, he, ?_⟩
    rw [ofTerm, hcheck, he]

/--
**Reading guards evaluating.** A text that is a term is refused if and only if a node of its tree, at
whatever depth, offends; it is refused for the offence that comes first, level by level. If it is
taken, no evaluation comes to a kind or an operator without a rule, to what unpacks, or to an
attribute that no template may read: the term is visited to the end, in any scope and however values
are called, and has the value of the expression.
-/
theorem read_guards {source : String} {t : Term} (hnull : '\x00' ∉ Text.trim source.toList)
    (ht : Term.read? (Text.trim source.toList) = some t) :
    ((∃ f, read source = .error f) ↔
      ∃ n o, Node.Within (.term t) n ∧ Offends n o) ∧
    (∀ f, read source = .error f → ∃ o, FirstOffence t o ∧
      f = .offence o (String.ofList (Text.trim source.toList)) ∧
      f.message = o.message ++ " in expression " ++
        Text.Quoted.quote (String.ofList (Text.trim source.toList))) ∧
    ∀ e, read source = .ok e → ∀ text : Term → Except Failure String,
      Writes text → ∀ call s,
        visit text call s t = safe (e.expr.eval call s) ∧
          ∀ h h' b, outcome (visit text call s t).run h ≠ (.ok (.error b), h') := by
  rw [read_eq_ofTerm hnull ht]
  obtain ⟨o, hcheck, hread⟩ | ⟨e, hcheck, he, hread⟩ :=
    ofTerm_cases (String.ofList (Text.trim source.toList)) t
  · have hfirst := check_eq_some_iff.mp hcheck
    rw [hread]
    refine ⟨⟨fun _ => ?_, fun _ => ⟨_, rfl⟩⟩, fun f hf => ?_, nofun⟩
    · by_contra hno
      have hnone : t.check = none := check_eq_none_iff.mpr fun n hn o ho => hno ⟨n, o, hn, ho⟩
      rw [hcheck] at hnone
      cases hnone
    · cases hf
      exact ⟨o, hfirst, rfl, rfl⟩
  · rw [hread]
    refine ⟨⟨nofun, fun ⟨n, o, hn, ho⟩ => ?_⟩, nofun, fun e' he' text htext call s => ?_⟩
    · exact absurd ho (check_eq_none_iff.mp hcheck n hn o)
    · cases he'
      have hvisit := visit_eq call s htext t e he
      exact ⟨hvisit, fun h h' b => hvisit ▸ Visit.outcome_safe_ne _ h h' b⟩

/-- The flaw of a text, if it is no expression. -/
def flaw? (source : String) : Option ExprFlaw :=
  match read source with
  | .ok _ => none
  | .error f => some f

/-- The function comes first, one level above the private name that stands in front of it. An
attribute that may be read is visited. -/
theorem read_guards_lambda :
    (∃ t, '\x00' ∉ Text.trim " -_x + (lambda: 0)".toList ∧
      Term.read? (Text.trim " -_x + (lambda: 0)".toList) = some t ∧
      FirstOffence t (.unsupported "Lambda")) ∧
    ∃ t e, '\x00' ∉ Text.trim "user.name".toList ∧
      Term.read? (Text.trim "user.name".toList) = some t ∧ read "user.name" = .ok e ∧
      ∀ call s, visit (fun u => (ofTerm? u).elim (.error .type) Expr.text) call s t =
        safe (e.expr.eval call s) := by
  constructor
  · have hnull : '\x00' ∉ Text.trim " -_x + (lambda: 0)".toList := by decide +kernel
    obtain ⟨t, ht⟩ := Option.isSome_iff_exists.mp
      (show (Term.read? (Text.trim " -_x + (lambda: 0)".toList)).isSome = true by decide +kernel)
    have hflaw : flaw? " -_x + (lambda: 0)" =
        some (.offence (.unsupported "Lambda") "-_x + (lambda: 0)") := by decide +kernel
    cases hread : read " -_x + (lambda: 0)" with
    | ok e => simp [flaw?, hread] at hflaw
    | error f =>
      obtain ⟨o, hfirst, hf, -⟩ := (read_guards hnull ht).2.1 f hread
      rw [flaw?, hread, hf] at hflaw
      cases hflaw
      exact ⟨t, hnull, ht, hfirst⟩
  · have hnull : '\x00' ∉ Text.trim "user.name".toList := by decide +kernel
    obtain ⟨t, ht⟩ := Option.isSome_iff_exists.mp
      (show (Term.read? (Text.trim "user.name".toList)).isSome = true by decide +kernel)
    have hflaw : flaw? "user.name" = none := by decide +kernel
    cases hread : read "user.name" with
    | error f => simp [flaw?, hread] at hflaw
    | ok e =>
      have htext : Writes fun u => (ofTerm? u).elim (.error .type) Expr.text := by
        intro u d hd
        simp only [hd]
        rfl
      exact ⟨t, e, hnull, ht, rfl, fun call s =>
        ((read_guards hnull ht).2.2 e hread _ htext call s).1⟩

end Expression

end Wording
