import Wording.Proofs.Paired.Eval
import Wording.Template.Render

/-!
# Rendering in contexts that go together

A template gives, in contexts and on heaps that go together, the same text, or fails with the same
fault. Statements bind what goes together, and a loop over a list walks over lists that go together at
each of its rounds.

* `Node.agrees_renderAll`, `agrees_renderTemplate`
* `calls_callTo`: ways to call of one depth
-/

namespace Wording

variable {p : Pairing}

/-! ## Text of values -/

section

variable {v w : Value}

theorem agrees_plainText (hv : v.Paired p w) :
    p.Agrees (fun _ => Eq) (plainText v) (plainText w) := by
  have hdisplay : p.Agrees (fun _ => Eq) (do Eval.lift ((← get).display v))
      (do Eval.lift ((← get).display w)) :=
    agree_get_bind fun _ _ hp => Pairing.agrees_lift (hp.display hv)
  cases hv with
  | atom h =>
    cases v with
    | null => exact agree_pure rfl
    | _ => exact hdisplay
  | _ => exact hdisplay

theorem agrees_escapedText (hv : v.Paired p w) :
    p.Agrees (fun _ => Eq) (escapedText v) (escapedText w) := by
  refine (agrees_plainText hv).bind ?_
  rintro q _ text _ rfl
  exact agree_pure rfl

/-! ## Pages -/

/-- Pages with one text that bind what goes together. -/
structure Page.Paired (p : Pairing) (a b : Page) : Prop where
  bound : p.Named a.bound b.bound
  text : a.text = b.text

variable {a b : Page}

theorem Page.Paired.mono {q : Pairing} (h : a.Paired p b) (hpq : p ≤ q) : a.Paired q b :=
  ⟨h.bound.mono hpq, h.text⟩

theorem Page.Paired.write (h : a.Paired p b) (s : String) : (a.write s).Paired p (b.write s) :=
  ⟨h.bound, congrArg (· ++ s) h.text⟩

theorem Pairing.Named.filter {ms ns : List (String × Value)} (h : p.Named ms ns)
    (k : String → Bool) : p.Named (ms.filter fun m => k m.1) (ns.filter fun n => k n.1) := by
  induction h with
  | nil => exact .nil
  | @cons m n ms ns hmn _ ih =>
    rw [List.filter_cons, List.filter_cons, hmn.1]
    split
    · exact .cons hmn ih
    · exact ih

theorem Page.Paired.bind (h : a.Paired p b) (name : String) (hv : v.Paired p w) :
    (a.bind name v).Paired p (b.bind name w) :=
  ⟨.cons ⟨rfl, hv⟩ (h.bound.filter fun k => k != name), h.text⟩

/-! ## Loops -/

/-- Rounds of loops go together in a pairing if they do in all that it grows to. -/
def Pairing.Rounds (p : Pairing) (round round' : Value → Page → Eval Page) : Prop :=
  ∀ ⦃q⦄, p ≤ q → ∀ ⦃v w⦄, v.Paired q w → ∀ ⦃a b⦄, a.Paired q b →
    q.Agrees Page.Paired (round v a) (round' w b)

variable {round round' : Value → Page → Eval Page}

theorem Pairing.Rounds.mono {q : Pairing} (h : p.Rounds round round') (hpq : p ≤ q) :
    q.Rounds round round' := fun _ hq => h (hpq.trans hq)

theorem agrees_eachOf (hr : p.Rounds round round') {vs ws : List Value} (hvs : p.Values vs ws)
    (h : a.Paired p b) : p.Agrees Page.Paired (eachOf round vs a) (eachOf round' ws b) := by
  induction vs generalizing p a b ws with
  | nil =>
    cases hvs
    exact agree_pure h
  | cons v vs ih =>
    cases hvs with
    | cons hv hvs =>
      refine (hr le_rfl hv h).bind fun q hpq c d hcd => ?_
      exact ih (hr.mono hpq) (Pairing.Values.mono hpq hvs) hcd

theorem agrees_eachIn (hr : p.Rounds round round') {r s : Ref} (hrs : p.ref r s) (limit i : Nat)
    (h : a.Paired p b) :
    p.Agrees Page.Paired (eachIn round r limit i a) (eachIn round' s limit i b) := by
  induction limit generalizing p a b i with
  | zero => exact Pairing.agrees_throw p.exhausted
  | succ limit ih =>
    rw [eachIn, eachIn]
    refine agree_get_bind fun k k' hp => ?_
    have hi := getElem?_of_forall₂ (hp.items hrs) i
    rw [Array.getElem?_toList, Array.getElem?_toList] at hi
    generalize (k.items r)[i]? = x, (k'.items s)[i]? = y at hi
    cases hi with
    | none => exact agree_pure h
    | some hv =>
      refine (hr le_rfl hv h).bind fun q hpq c d hcd => ?_
      exact ih (hr.mono hpq) (Pairing.ref_of_le hpq hrs) (i + 1) hcd

theorem agrees_eachItem (hr : p.Rounds round round') (limit : Nat) (hv : v.Paired p w)
    (h : a.Paired p b) :
    p.Agrees Page.Paired (eachItem limit round v a) (eachItem limit round' w b) := by
  have helements : p.Agrees Page.Paired (do eachOf round (← Eval.elements v) a)
      (do eachOf round' (← Eval.elements w) b) :=
    Eval.agrees_elements hv fun _ _ hvs => agrees_eachOf hr hvs h
  cases hv with
  | list hrs => exact agrees_eachIn hr hrs limit 0 h
  | atom hatom =>
    cases v with
    | null => exact agree_pure h
    | _ => first | exact helements | cases hatom
  | _ => exact helements

end

/-! ## Nodes -/

/-- Machines with ways to call that go together and one bound on the rounds of a loop. -/
structure Machine.Paired (p : Pairing) (m n : Machine) : Prop where
  call : p.Calls m.call n.call
  limit : m.limit = n.limit

section

variable {m n : Machine} {c d : Option Value}

theorem Machine.Paired.mono {q : Pairing} (h : m.Paired p n) (hpq : p ≤ q) : m.Paired q n :=
  ⟨h.call.mono hpq, h.limit⟩

theorem Page.agrees_eval (hm : m.Paired p n) (hc : p.Optional c d) {a b : Page} (h : a.Paired p b)
    (e : Expression) : p.Agrees Value.Paired (a.eval m c e) (b.eval n d e) :=
  Expression.agrees_eval hm.call ⟨h.bound, hc⟩ e

mutual

theorem Node.agrees_render {p : Pairing} (hm : m.Paired p n) (hc : p.Optional c d) {a b : Page}
    (h : a.Paired p b) :
    ∀ k : Node, p.Agrees Page.Paired (k.render m c a) (k.render n d b)
  | .text s => agree_pure (h.write s)
  | .escape e => by
    refine (Page.agrees_eval hm hc h e).bind fun q hpq v w hv => (agrees_escapedText hv).bind ?_
    rintro r hqr text _ rfl
    exact agree_pure ((h.mono (hpq.trans hqr)).write text)
  | .interpolate e => by
    refine (Page.agrees_eval hm hc h e).bind fun q hpq v w hv => (agrees_plainText hv).bind ?_
    rintro r hqr text _ rfl
    exact agree_pure ((h.mono (hpq.trans hqr)).write text)
  | .emit e => by
    refine (Page.agrees_eval hm hc h e).bind fun q hpq v w hv => (agrees_plainText hv).bind ?_
    rintro r hqr text _ rfl
    exact agree_pure ((h.mono (hpq.trans hqr)).write text)
  | .set name e =>
    (Page.agrees_eval hm hc h e).bind fun _ hpq _ _ hv =>
      agree_pure ((h.mono hpq).bind name hv)
  | .cond test body rest => by
    refine (Page.agrees_eval hm hc h test).bind fun q hpq v w hv => agree_get_bind fun _ _ hp => ?_
    rw [hp.truthy hv]
    split
    · exact Node.agrees_renderAll (hm.mono hpq) (Pairing.Optional.mono hpq hc) (h.mono hpq) body
    · exact Branches.agrees_render (hm.mono hpq) (Pairing.Optional.mono hpq hc) (h.mono hpq) rest
  | .loop name items body => by
    refine (Page.agrees_eval hm hc h items).bind fun q hpq v w hv => ?_
    rw [hm.limit]
    refine agrees_eachItem ?_ n.limit hv (h.mono hpq)
    intro r hqr x y hx a b hab
    have hpr := hpq.trans hqr
    exact Node.agrees_renderAll (hm.mono hpr) (Pairing.Optional.mono hpr hc) (hab.bind name hx) body

theorem Node.agrees_renderAll {p : Pairing} (hm : m.Paired p n) (hc : p.Optional c d) {a b : Page}
    (h : a.Paired p b) :
    ∀ ks : List Node, p.Agrees Page.Paired (Node.renderAll m c ks a) (Node.renderAll n d ks b)
  | [] => agree_pure h
  | k :: ks =>
    (Node.agrees_render hm hc h k).bind fun _ hpq _ _ hab =>
      Node.agrees_renderAll (hm.mono hpq) (Pairing.Optional.mono hpq hc) hab ks

theorem Branches.agrees_render {p : Pairing} (hm : m.Paired p n) (hc : p.Optional c d)
    {a b : Page} (h : a.Paired p b) :
    ∀ k : Branches, p.Agrees Page.Paired (k.render m c a) (k.render n d b)
  | .done => agree_pure h
  | .otherwise body => Node.agrees_renderAll hm hc h body
  | .elseIf test body rest => by
    refine (Page.agrees_eval hm hc h test).bind fun q hpq v w hv => agree_get_bind fun _ _ hp => ?_
    rw [hp.truthy hv]
    split
    · exact Node.agrees_renderAll (hm.mono hpq) (Pairing.Optional.mono hpq hc) (h.mono hpq) body
    · exact Branches.agrees_render (hm.mono hpq) (Pairing.Optional.mono hpq hc) (h.mono hpq) rest

end

/-! ## Templates -/

theorem Pairing.optional_filter (hc : p.Optional c d) {f g : Value → Bool}
    (hfg : ∀ v w, v.Paired p w → f v = g w) : p.Optional (c.filter f) (d.filter g) := by
  cases hc with
  | none => exact .none
  | @some v w h =>
    rw [Option.filter_some, Option.filter_some, hfg v w h]
    split
    · exact .some h
    · exact .none

/-- **A template gives the same text in contexts that go together.** -/
theorem agrees_renderTemplate (hm : m.Paired p n) (ks : List Node) (hc : p.Optional c d) :
    p.Agrees (fun _ => Eq) (renderTemplate m ks c) (renderTemplate n ks d) := by
  refine agree_get_bind fun k k' hp => ?_
  have hcontext := Pairing.optional_filter hc fun _ _ hv => hp.truthy hv
  refine (Node.agrees_renderAll hm hcontext ⟨.nil, rfl⟩ ks).bind fun q _ a b hab => ?_
  exact agree_pure hab.text

end

/-! ## Calls -/

section

variable {sub sub' : Caller} {f g : Value} {a b : Arguments}

/-- Calls may lack an attribute only where one joins. -/
theorem agrees_callWith (hs : p.Calls sub sub') (limit : Nat) (hf : f.Paired p g)
    (ha : a.Paired p b)
    (hj : p.fault (.failure .attribute) ∨ (f = .helper .join → a.separates)) :
    p.Agrees Value.Paired (callWith limit sub f a) (callWith limit sub' g b) := by
  have hinvoke := hs.invoke hf ha hj
  cases hf with
  | atom h =>
    cases f with
    | renderer template nodes =>
      refine agrees_bind _ ha fun xs ys hxs => ?_
      obtain _ | ⟨hc, _ | ⟨_, _⟩⟩ := hxs
      · exact Pairing.agrees_fail rfl
      · have hm : Machine.Paired p ⟨sub, limit⟩ ⟨sub', limit⟩ := ⟨hs, rfl⟩
        refine (agrees_renderTemplate hm nodes hc).bind ?_
        rintro r _ text _ rfl
        exact agree_pure (.atom rfl)
      · exact Pairing.agrees_fail rfl
    | _ => exact hinvoke
  | _ => exact hinvoke

end

theorem calls_callTo (hj : p.fault (.failure .attribute)) (limit depth : Nat) :
    p.Calls (callTo limit depth) (callTo limit depth) := by
  induction depth with
  | zero => exact fun q _ _ _ _ _ _ _ => Pairing.agrees_throw q.exhausted
  | succ depth ih =>
    exact fun q hpq f g hf a b ha =>
      agrees_callWith (ih.mono hpq) limit hf ha (.inl ((Pairing.grows hpq).fault ▸ hj))

end Wording
