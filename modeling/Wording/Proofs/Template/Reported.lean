import Wording.Proofs.Paired.Render
import Wording.Proofs.Paired.Within
import Wording.Template.Basic

/-!
# What a rendering reports

A template that is rendered in a context of plain data gives a text, or it fails with an error that
names the expression at fault. Evaluation reports what goes wrong in an expression. Two things are
done with the value of an expression behind its evaluation: it is turned into text, and a loop walks
over its items. What goes wrong there is not reported, and neither is a separator that cannot join.
These are the only ways in which a failure gets out of a rendering as it is.

* `Asks`: the expressions that a rendering comes to
* `Unreported`: the failures at an expression that are not reported
* `renders_or_reports`: a rendering gives a text, reports an error, meets a limit, or comes to an
  expression at which a failure is not reported
-/

namespace Wording

/-! ## Calm values -/

/-- A failure that is reported. -/
def Fault.IsReported (e : Fault) : Prop := ∃ f : Failure, f.isReported = true ∧ e = .failure f

/-- No callable in a value raises another failure than those that are reported. -/
def Value.Calm (v : Value) : Prop := v.Within (fun _ => True) Fault.IsReported

def Heap.Calm (h : Heap) : Prop := ∀ (r : Ref) (c : Cell), h.cells[r]? = some c → c.All Value.Calm

theorem Failure.isOrdinary_of_isReported {f : Failure} (h : f.isReported = true) :
    f.isOrdinary = true := by
  cases f <;> first | rfl | cases h

/-- Each place goes together with itself, callables raise reported failures only, and computations
end in ordinary ones, besides in those that `lacking` tells. -/
def Pairing.calm (lacking : Failure → Prop) (size : Nat) : Pairing := {
  Pairing.self (fun _ => True) size with
  raised := Fault.IsReported
  fault := fun e => ∀ f, e = .failure f → f.isOrdinary = true ∨ lacking f
  fault_of_raised := by
    rintro _ ⟨f, hf, rfl⟩ _ ⟨⟩
    exact .inl (Failure.isOrdinary_of_isReported hf)
  ordinary := by
    rintro f hf _ ⟨⟩
    exact .inl hf
  render := fun _ _ => nofun
  exhausted := fun _ => nofun }

section

variable {lacking : Failure → Prop} {n : Nat}

theorem Value.Calm.paired {v : Value} (h : v.Calm) : v.Paired (.calm lacking n) v :=
  Value.Within.paired (p := .calm lacking n) (fun _ h => ⟨rfl, h⟩) (fun _ he => he) h

theorem Heap.Calm.paired {h : Heap} (hh : h.Calm) : h.Paired (.calm lacking h.cells.size) h := by
  refine ⟨rfl, rfl, ?_, fun _ _ _ => trivial⟩
  rintro r _ ⟨rfl, -⟩
  cases hc : h.cells[r]? with
  | none => exact .none
  | some c => exact .some ((hh r c hc).paired fun _ hv => hv.paired)

theorem Optional.calm_paired {c : Option Value} (h : ∀ v ∈ c, v.Calm) :
    Pairing.Optional (.calm lacking n) c c := by
  cases c with
  | none => exact .none
  | some v => exact .some (h v rfl).paired

/-- A pairing that pairs each place with itself has grown into another such one. -/
theorem Pairing.ref_of_calm_le {p : Pairing} (hp : .calm lacking n ≤ p) (r s : Ref) :
    p.ref r s ↔ r = s := by
  rw [(Pairing.grows hp).ref_iff]
  constructor
  · rintro (h | h) <;> exact h.1
  · exact fun h => .inl ⟨h, trivial⟩

end

/-! ## Joining with care -/

/-- The same way to call, but that a call of `join` with a separator that is neither a text nor bytes
fails by its type. -/
def sparing (call : Caller) : Caller := fun f a =>
  match f with
  | .helper .join => if a.separates then call f a else Eval.fail .type
  | f => call f a

/-- Calls values at most `depth` deep, and joins with care. -/
def sparingTo (limit : Nat) : Nat → Caller
  | 0 => fun _ _ => throw .exhausted
  | depth + 1 => sparing (callWith limit (sparingTo limit depth))

/-- The machine with the same bounds that joins with care. -/
def Bounds.sparing (b : Bounds) : Machine := ⟨sparingTo b.rounds b.depth, b.rounds⟩

theorem calls_sparingTo (p : Pairing) (limit depth : Nat) :
    p.Calls (sparingTo limit depth) (sparingTo limit depth) := by
  induction depth with
  | zero => exact fun q _ _ _ _ _ _ _ => Pairing.agrees_throw q.exhausted
  | succ depth ih =>
    intro q hpq f g hf a b ha
    have hcall (h : f = .helper .join → a.separates) :=
      agrees_callWith (ih.mono hpq) limit hf ha (.inr h)
    cases hf with
    | atom h =>
      cases f with
      | helper f =>
        cases f with
        | join =>
          rw [sparingTo, sparing, sparing, ← ha.separates]
          split
          · next h => exact hcall fun _ => h
          · exact Pairing.agrees_fail rfl
        | _ => exact hcall nofun
      | _ => exact hcall nofun
    | _ => exact hcall nofun

/-! ## What a rendering comes to -/

/-- What a template uses the value of an expression for. -/
inductive Use where
  | written
  | bound
  | tested
  | walked

/-- The expression that a node has evaluated first. -/
def Node.asks? : Node → Option (Use × Expression)
  | .text _ => none
  | .escape e | .interpolate e | .emit e => some (.written, e)
  | .set _ e => some (.bound, e)
  | .cond test _ _ => some (.tested, test)
  | .loop _ items _ => some (.walked, items)

/-- The nodes that stand for the branches that are left. -/
def Branches.nodes : Branches → List Node
  | .done => []
  | .otherwise body => body
  | .elseIf test body rest => [.cond test body rest]

/-- What a loop still has before it: a list from a position on, or items. -/
inductive Source where
  | list (r : Ref) (i : Nat)
  | items (vs : List Value)

def Source.ofValue (h : Heap) : Value → Source
  | .list r => .list r 0
  | v => .items ((h.elements v).toOption.getD [])

/-- The next item, and what is left behind it. -/
def Source.next? (h : Heap) : Source → Option (Value × Source)
  | .list r i => (h.items r)[i]?.map fun v => (v, .list r (i + 1))
  | .items [] => none
  | .items (v :: vs) => some (v, .items vs)

/-- `Round round s a h v b k`: a loop over what is left in `s` that goes on from the page `a` and the
heap `h` comes to the item `v` with the page `b` and the heap `k`. -/
inductive Round (round : Value → Page → Eval Page) :
    Source → Page → Heap → Value → Page → Heap → Prop
  | first {s t : Source} {v : Value} {a : Page} {h : Heap} (hs : s.next? h = some (v, t)) :
      Round round s a h v a h
  | later {s t : Source} {v w : Value} {a b c : Page} {h k l : Heap}
      (hs : s.next? h = some (v, t)) (hv : outcome (round v a) h = (.ok b, k))
      (hw : Round round t b k w c l) : Round round s a h w c l

/-- `Asks m c ns a h u e b k`: a rendering of the nodes `ns` from the page `a` and the heap `h` comes
to the expression `e`, which it uses for `u`, with the page `b` and the heap `k`. -/
inductive Asks (m : Machine) (c : Option Value) :
    List Node → Page → Heap → Use → Expression → Page → Heap → Prop
  | first {n : Node} {ns : List Node} {a : Page} {h : Heap} {u : Use} {e : Expression}
      (hn : n.asks? = some (u, e)) : Asks m c (n :: ns) a h u e a h
  | next {n : Node} {ns : List Node} {a b q : Page} {h k l : Heap} {u : Use} {e : Expression}
      (hn : outcome (n.render m c a) h = (.ok b, k)) (hns : Asks m c ns b k u e q l) :
      Asks m c (n :: ns) a h u e q l
  | chosen {test e : Expression} {body ns : List Node} {rest : Branches} {a q : Page}
      {h k l : Heap} {v : Value} {u : Use} (ht : outcome (a.eval m c test) h = (.ok v, k))
      (hb : Asks m c (if k.truthy v then body else rest.nodes) a k u e q l) :
      Asks m c (.cond test body rest :: ns) a h u e q l
  | round {name : String} {items e : Expression} {body ns : List Node} {a b q : Page}
      {h k k' l : Heap} {v w : Value} {u : Use}
      (hi : outcome (a.eval m c items) h = (.ok v, k))
      (hr : Round (fun x p => Node.renderAll m c body (p.bind name x)) (.ofValue k v) a k w b k')
      (hb : Asks m c body (b.bind name w) k' u e q l) :
      Asks m c (.loop name items body :: ns) a h u e q l

/-- The failures that get out of a rendering as they are, at an expression that it has come to: the
value has no text, or no items, or something is joined with what cannot join. -/
inductive Unreported (b : Bounds) (c : Option Value) (e : Expression) (a : Page) (h : Heap) :
    Use → Failure → Prop
  | written {v : Value} {k : Heap} {f : Failure}
      (he : outcome (a.eval b.machine c e) h = (.ok v, k)) (hv : k.display v = .error f) :
      Unreported b c e a h .written f
  | walked {v : Value} {k : Heap} {f : Failure}
      (he : outcome (a.eval b.machine c e) h = (.ok v, k)) (hnull : v ≠ .null)
      (hv : k.elements v = .error f) : Unreported b c e a h .walked f
  | joined {u : Use}
      (he : (outcome (a.eval b.machine c e) h).1 = .error (.failure .attribute))
      (hs : (outcome (a.eval b.sparing c e) h).1 ≠ .error (.failure .attribute)) :
      Unreported b c e a h u .attribute

/-- A rendering comes to an expression at which a failure is not reported. -/
def Escapes (b : Bounds) (c : Option Value) (ns : List Node) (a : Page) (h : Heap) (f : Failure) :
    Prop :=
  ∃ u e q k, Asks b.machine c ns a h u e q k ∧ Unreported b c e q k u f

/-- The limits of memory and of nested calls. -/
def Fault.isLimit : Fault → Bool
  | .exhausted | .failure .memory | .failure .runtime => true
  | _ => false

/-! ## Failures of computations -/

/-- From a heap, a computation fails with a failure only at a limit or with one of a kind. -/
def FailsBy {α : Type} (m : Eval α) (h : Heap) (U : Failure → Prop) : Prop :=
  ∀ f : Failure, (outcome m h).1 = .error (.failure f) → (Fault.failure f).isLimit = true ∨ U f

section

variable {α β : Type} {m : Eval α} {g : α → Eval β} {h : Heap} {U : Failure → Prop}

theorem failsBy_pure (x : α) : FailsBy (pure x) h U := by
  intro f hf
  cases hf

theorem FailsBy.mono {U' : Failure → Prop} (hm : FailsBy m h U) (hU : ∀ f, U f → U' f) :
    FailsBy m h U' := fun f hf => (hm f hf).imp_right (hU f)

theorem FailsBy.bind (hm : FailsBy m h U)
    (hg : ∀ x k, outcome m h = (.ok x, k) → FailsBy (g x) k U) : FailsBy (m >>= g) h U := by
  intro f hf
  rw [outcome_bind] at hf
  cases hout : outcome m h with
  | mk r k =>
    rw [hout] at hf
    cases r with
    | ok x => exact hg x k hout f hf
    | error e =>
      obtain rfl : e = .failure f := Except.error.inj hf
      exact hm f (congrArg Prod.fst hout)

/-- A computation that agrees with itself and gives a result leaves a heap that goes together with
itself. -/
theorem Pairing.exists_of_agrees {p : Pairing} {R : Pairing → α → α → Prop}
    (hm : p.Agrees R m m) (hp : h.Paired p h) {x : α} {k : Heap} (hok : outcome m h = (.ok x, k)) :
    ∃ q, p ≤ q ∧ k.Paired q k ∧ R q x x := by
  obtain ⟨q, hpq, hk, hr⟩ := hm h h hp
  rw [hok] at hk hr
  cases hr with
  | ok hr => exact ⟨q, hpq, hk, hr⟩

end

/-! ## Evaluation -/

/-- The failures that a calling machine may show: ordinary ones, and an attribute that a separator
lacks. -/
abbrev Pairing.calling (n : Nat) : Pairing := .calm (· = .attribute) n

abbrev Pairing.caring (n : Nat) : Pairing := .calm (fun _ => False) n

variable {b : Bounds} {c : Option Value} {a : Page} {h : Heap} {n : Nat} {p : Pairing}

theorem Bounds.machine_paired (hp : .calling n ≤ p) : b.machine.Paired p b.machine := by
  refine ⟨calls_callTo ?_ b.rounds b.depth, rfl⟩
  rw [(Pairing.grows hp).fault]
  rintro _ ⟨⟩
  exact .inr rfl

theorem Bounds.sparing_paired : b.sparing.Paired p b.sparing :=
  ⟨calls_sparingTo p b.rounds b.depth, rfl⟩

/-- Evaluation lets through what is not reported only. -/
theorem Expression.isReported_of_eval {call : Caller} {s : Scope} {e : Expression} {f : Failure}
    (hf : (outcome (e.eval call s) h).1 = .error (.failure f)) : f.isReported = false := by
  unfold Expression.eval at hf
  rw [outcome_tryCatch] at hf
  split at hf
  · cases hf
  · next e' k' _ =>
    cases e' with
    | failure g =>
      replace hf : (if g.isReported then Fault.render (.evaluating e.source g) else .failure g) =
          .failure f := Except.error.inj hf
      split at hf
      · cases hf
      · next hg =>
        cases hf
        exact Bool.eq_false_iff.mpr hg
    | _ => cases hf

theorem Failure.isLimit_of_ordinary {f : Failure} (h : f.isOrdinary = true)
    (hf : f.isReported = false) : (Fault.failure f).isLimit = true := by
  cases f <;> first | rfl | exact Bool.noConfusion h | exact Bool.noConfusion hf

section

variable (hp : .calling n ≤ p) (m : Nat)
include hp

/-- What goes together under the one machine does so under the other. -/
theorem Pairing.into_caring : p.Into (.caring m) :=
  ⟨fun r s hr => ⟨(Pairing.ref_of_calm_le hp r s).mp hr, trivial⟩,
    fun _ he => (Pairing.grows hp).raised ▸ he⟩

theorem Page.Paired.caring (ha : a.Paired p a) : a.Paired (.caring m) a :=
  ⟨ha.bound.imp fun _ _ h => ⟨h.1, h.2.imp (Pairing.into_caring hp m)⟩, rfl⟩

theorem Optional.caring (hc : p.Optional c c) : Pairing.Optional (.caring m) c c := by
  cases hc with
  | none => exact .none
  | some hv => exact .some (hv.imp (Pairing.into_caring hp m))

theorem Heap.Paired.caring (hh : h.Paired p h) : h.Paired (.caring p.size) h :=
  hh.imp (Pairing.into_caring hp p.size) rfl (Pairing.grows hp).gap.symm (fun _ _ => trivial)
    fun r s hr => (Pairing.ref_of_calm_le hp r s).mpr hr.1

end

/-- At an expression a failure gets out only where something is joined with what cannot join. -/
theorem failsBy_eval (hp : .calling n ≤ p) (hc : p.Optional c c) (ha : a.Paired p a)
    (hh : h.Paired p h) (e : Expression) (u : Use) :
    FailsBy (a.eval b.machine c e) h (Unreported b c e a h u) := by
  intro f hf
  have hreported : f.isReported = false := Expression.isReported_of_eval hf
  -- The same machine ends in ordinary failures or a lacking attribute, the careful one in ordinary
  -- failures only.
  obtain ⟨q, hpq, -, hr⟩ := Page.agrees_eval (Bounds.machine_paired (b := b) hp) hc ha e h h hh
  rw [hf] at hr
  obtain _ | ⟨-, hfault⟩ := hr
  rw [(Pairing.grows (hp.trans hpq)).fault] at hfault
  obtain hordinary | rfl := hfault f rfl
  · exact .inl (Failure.isLimit_of_ordinary hordinary hreported)
  · refine .inr (.joined hf fun hs => ?_)
    obtain ⟨r, hr, -, hsparing⟩ := Page.agrees_eval (Bounds.sparing_paired (b := b))
      (Optional.caring hp p.size hc) (ha.caring hp p.size) e h h (hh.caring hp)
    rw [hs] at hsparing
    obtain _ | ⟨-, hfault⟩ := hsparing
    rw [(Pairing.grows hr).fault] at hfault
    obtain h | h := hfault _ rfl <;> cases h

/-! ## Text of values -/

theorem eq_error_of_lift {α : Type} {x : Except Failure α} {f : Failure}
    (hf : (outcome (Eval.lift x) h).1 = .error (.failure f)) : x = .error f := by
  cases x with
  | ok x => cases hf
  | error g =>
    cases hf
    rfl

theorem failsBy_plainText {v : Value} {k : Heap} {e : Expression}
    (he : outcome (a.eval b.machine c e) h = (.ok v, k)) :
    FailsBy (plainText v) k (Unreported b c e a h .written) := by
  intro f hf
  refine .inr (.written he ?_)
  cases v with
  | null => cases hf
  | _ =>
    rw [plainText, outcome_get_bind] at hf
    · exact eq_error_of_lift hf
    · rintro ⟨⟩

theorem failsBy_escapedText {v : Value} {k : Heap} {e : Expression}
    (he : outcome (a.eval b.machine c e) h = (.ok v, k)) :
    FailsBy (escapedText v) k (Unreported b c e a h .written) :=
  (failsBy_plainText he).bind fun _ _ _ => failsBy_pure _

theorem failsBy_write (hp : .calling n ≤ p) (hc : p.Optional c c) (ha : a.Paired p a)
    (hh : h.Paired p h) (e : Expression) {text : Value → Eval String}
    (htext : ∀ v k, outcome (a.eval b.machine c e) h = (.ok v, k) →
      FailsBy (text v) k (Unreported b c e a h .written)) :
    FailsBy (do return a.write (← text (← a.eval b.machine c e))) h
      (Unreported b c e a h .written) := by
  refine (failsBy_eval hp hc ha hh e .written).bind fun v k hv => ?_
  exact (htext v k hv).bind fun t _ _ => failsBy_pure (a.write t)

/-! ## Loops -/

section

variable {round : Value → Page → Eval Page} {U : Value → Page → Heap → Failure → Prop}

/-- A round that a loop comes to shows a failure of a kind. -/
def RoundFails (round : Value → Page → Eval Page) (U : Value → Page → Heap → Failure → Prop)
    (s : Source) (a : Page) (h : Heap) (f : Failure) : Prop :=
  ∃ w q k, Round round s a h w q k ∧ U w q k f

/-- From states that go together with themselves, rounds fail only with failures of a kind. -/
def Pairing.RoundsFailBy (p : Pairing) (round : Value → Page → Eval Page)
    (U : Value → Page → Heap → Failure → Prop) : Prop :=
  ∀ ⦃q⦄, p ≤ q → ∀ ⦃w⦄, w.Paired q w → ∀ ⦃a⦄, a.Paired q a → ∀ ⦃h⦄, h.Paired q h →
    FailsBy (round w a) h (U w a h)

theorem failsBy_eachOf (hr : p.Rounds round round) (hU : p.RoundsFailBy round U) {vs : List Value}
    (hvs : p.Values vs vs) (ha : a.Paired p a) (hh : h.Paired p h) :
    FailsBy (eachOf round vs a) h (RoundFails round U (.items vs) a h) := by
  induction vs generalizing p a h with
  | nil => exact failsBy_pure a
  | cons v vs ih =>
    obtain _ | ⟨hv, hvs⟩ := hvs
    rw [eachOf]
    refine FailsBy.bind ?_ fun q k hk => ?_
    · exact (hU le_rfl hv ha hh).mono fun f hf => ⟨v, a, h, .first rfl, hf⟩
    · obtain ⟨r, hpr, hk', hq⟩ := Pairing.exists_of_agrees (hr le_rfl hv ha) hh hk
      have hrest := ih (hr.mono hpr) (fun s hs => hU (hpr.trans hs)) (Pairing.Values.mono hpr hvs)
        hq hk'
      refine hrest.mono ?_
      rintro f ⟨w, c, l, hw, hf⟩
      exact ⟨w, c, l, .later rfl hk hw, hf⟩

theorem failsBy_eachIn (hr : p.Rounds round round) (hU : p.RoundsFailBy round U) {r : Ref}
    (hrr : p.ref r r) (limit i : Nat) (ha : a.Paired p a) (hh : h.Paired p h) :
    FailsBy (eachIn round r limit i a) h (RoundFails round U (.list r i) a h) := by
  induction limit generalizing p a h i with
  | zero =>
    intro f hf
    cases hf
  | succ limit ih =>
    rw [eachIn]
    intro f hf
    rw [outcome_get_bind] at hf
    revert f
    cases hi : (h.items r)[i]? with
    | none => exact failsBy_pure a
    | some v =>
      have hv : v.Paired p v := by
        have hitems := getElem?_of_forall₂ (hh.items hrr) i
        rw [Array.getElem?_toList, hi] at hitems
        obtain ⟨hv⟩ := hitems
        exact hv
      have hnext : (Source.list r i).next? h = some (v, .list r (i + 1)) := by
        rw [Source.next?, hi]
        rfl
      refine FailsBy.bind ?_ fun q k hk => ?_
      · exact (hU le_rfl hv ha hh).mono fun f hf => ⟨v, a, h, .first hnext, hf⟩
      · obtain ⟨s, hps, hk', hq⟩ := Pairing.exists_of_agrees (hr le_rfl hv ha) hh hk
        have hrest := ih (hr.mono hps) (fun t ht => hU (hps.trans ht)) (Pairing.ref_of_le hps hrr) (i + 1) hq hk'
        refine hrest.mono ?_
        rintro f ⟨w, c, l, hw, hf⟩
        exact ⟨w, c, l, .later hnext hk hw, hf⟩

theorem Source.ofValue_of_elements {v : Value} {vs : List Value} (hv : ∀ r, v ≠ .list r)
    (hvs : h.elements v = .ok vs) : Source.ofValue h v = .items vs := by
  cases v with
  | list r => exact absurd rfl (hv r)
  | _ => rw [Source.ofValue, hvs] <;> first | rfl | rintro _ ⟨⟩

theorem Source.ofValue_of_error {v : Value} {f : Failure} (hv : ∀ r, v ≠ .list r)
    (hvs : h.elements v = .error f) : Source.ofValue h v = .items [] := by
  cases v with
  | list r => exact absurd rfl (hv r)
  | _ => rw [Source.ofValue, hvs] <;> first | rfl | rintro _ ⟨⟩

/-- A loop fails where its value has no items, or in a round that it comes to. -/
theorem failsBy_eachItem (hr : p.Rounds round round) (hU : p.RoundsFailBy round U) (limit : Nat)
    {v : Value} (hv : v.Paired p v) (ha : a.Paired p a) (hh : h.Paired p h) :
    FailsBy (eachItem limit round v a) h fun f =>
      v ≠ .null ∧ h.elements v = .error f ∨ RoundFails round U (.ofValue h v) a h f := by
  have helements (hnull : v ≠ .null) (hlist : ∀ r, v ≠ .list r) :
      FailsBy (do eachOf round (← Eval.elements v) a) h fun f =>
        v ≠ .null ∧ h.elements v = .error f ∨ RoundFails round U (.ofValue h v) a h f := by
    intro f hf
    rw [Eval.elements, bind_assoc, outcome_get_bind] at hf
    cases hvs : h.elements v with
    | error g =>
      rw [hvs] at hf
      cases hf
      exact .inr (.inl ⟨hnull, rfl⟩)
    | ok vs =>
      rw [hvs] at hf
      have hvalues := hh.elements hv
      rw [hvs] at hvalues
      obtain ⟨hvalues⟩ := hvalues
      rw [Source.ofValue_of_elements hlist hvs]
      exact (failsBy_eachOf hr hU hvalues ha hh f hf).imp_right .inr
  cases v with
  | null => exact failsBy_pure a
  | list r =>
    cases hv with
    | list hrr => exact (failsBy_eachIn hr hU hrr limit 0 ha hh).mono fun f hf => .inr hf
    | atom h => cases h
  | _ => exact helements nofun nofun

end

/-! ## Nodes -/

/-- What gets out at the expression of the first node gets out. -/
theorem Unreported.escapes {e : Expression} {u : Use} {f : Failure}
    (hf : Unreported b c e a h u f) (n : Node) (ns : List Node) (hn : n.asks? = some (u, e)) :
    Escapes b c (n :: ns) a h f := ⟨u, e, a, h, .first hn, hf⟩

mutual

theorem Node.failsBy_render {p : Pairing} (hp : .calling n ≤ p) (hc : p.Optional c c) {a : Page}
    (ha : a.Paired p a) {h : Heap} (hh : h.Paired p h) :
    ∀ (n : Node) (ns : List Node), FailsBy (n.render b.machine c a) h (Escapes b c (n :: ns) a h)
  | .text s, ns => failsBy_pure _
  | .escape e, ns =>
    (failsBy_write hp hc ha hh e fun _ _ he => failsBy_escapedText he).mono
      fun _ hf => hf.escapes (.escape e) ns rfl
  | .interpolate e, ns =>
    (failsBy_write hp hc ha hh e fun _ _ he => failsBy_plainText he).mono
      fun _ hf => hf.escapes (.interpolate e) ns rfl
  | .emit e, ns =>
    (failsBy_write hp hc ha hh e fun _ _ he => failsBy_plainText he).mono
      fun _ hf => hf.escapes (.emit e) ns rfl
  | .set name e, ns =>
    ((failsBy_eval hp hc ha hh e .bound).mono fun _ hf => hf.escapes (.set name e) ns rfl).bind
      fun _ _ _ => failsBy_pure _
  | .cond test body rest, ns => by
    refine FailsBy.bind ((failsBy_eval hp hc ha hh test .tested).mono fun _ hf =>
      hf.escapes (.cond test body rest) ns rfl) fun v k hv => ?_
    obtain ⟨q, hpq, hk, -⟩ := Pairing.exists_of_agrees
      (Page.agrees_eval (Bounds.machine_paired hp) hc ha test) hh hv
    have hq := hp.trans hpq
    have hc := Pairing.Optional.mono hpq hc
    have hchosen (f : Failure)
        (hf : Escapes b c (if k.truthy v then body else rest.nodes) a k f) :
        Escapes b c (.cond test body rest :: ns) a h f := by
      obtain ⟨u, e, r, l, hasks, hf⟩ := hf
      exact ⟨u, e, r, l, .chosen hv hasks, hf⟩
    intro f hf
    rw [outcome_get_bind] at hf
    by_cases htruthy : k.truthy v = true
    · rw [if_pos htruthy] at hf hchosen
      exact (Node.failsBy_renderAll hq hc (ha.mono hpq) hk body f hf).imp_right (hchosen f)
    · rw [if_neg htruthy] at hf hchosen
      exact (Branches.failsBy_render hq hc (ha.mono hpq) hk rest f hf).imp_right (hchosen f)
  | .loop name items body, ns => by
    refine FailsBy.bind ((failsBy_eval hp hc ha hh items .walked).mono fun _ hf =>
      hf.escapes (.loop name items body) ns rfl) fun v k hv => ?_
    have hm : b.machine.Paired p b.machine := Bounds.machine_paired hp
    obtain ⟨q, hpq, hk, hvv⟩ := Pairing.exists_of_agrees (Page.agrees_eval hm hc ha items) hh hv
    have hrounds : q.Rounds (fun w r => Node.renderAll b.machine c body (r.bind name w))
        (fun w r => Node.renderAll b.machine c body (r.bind name w)) := by
      intro r hqr w w' hw d d' hd
      have hpr := hpq.trans hqr
      exact Node.agrees_renderAll (hm.mono hpr) (Pairing.Optional.mono hpr hc) (hd.bind name hw) body
    have hfails : q.RoundsFailBy (fun w r => Node.renderAll b.machine c body (r.bind name w))
        fun w r => Escapes b c body (r.bind name w) := by
      intro r hqr w hw d hd l hl
      have hpr := hpq.trans hqr
      exact Node.failsBy_renderAll (hp.trans hpr) (Pairing.Optional.mono hpr hc) (hd.bind name hw)
        hl body
    refine (failsBy_eachItem hrounds hfails b.machine.limit hvv (ha.mono hpq) hk).mono ?_
    rintro f (⟨hnull, hf⟩ | ⟨w, d, l, hround, u, e, r, l', hasks, hf⟩)
    · exact (Unreported.walked hv hnull hf).escapes (.loop name items body) ns rfl
    · exact ⟨u, e, r, l', .round hv hround hasks, hf⟩

theorem Node.failsBy_renderAll {p : Pairing} (hp : .calling n ≤ p) (hc : p.Optional c c) {a : Page}
    (ha : a.Paired p a) {h : Heap} (hh : h.Paired p h) :
    ∀ ns : List Node, FailsBy (Node.renderAll b.machine c ns a) h (Escapes b c ns a h)
  | [] => failsBy_pure a
  | n :: ns => by
    refine (Node.failsBy_render hp hc ha hh n ns).bind fun d k hk => ?_
    obtain ⟨q, hpq, hk', hd⟩ := Pairing.exists_of_agrees
      (Node.agrees_render (Bounds.machine_paired hp) hc ha n) hh hk
    have hrest := Node.failsBy_renderAll (hp.trans hpq) (Pairing.Optional.mono hpq hc) hd hk' ns
    refine hrest.mono ?_
    rintro f ⟨u, e, r, l, hasks, hf⟩
    exact ⟨u, e, r, l, .next hk hasks, hf⟩

theorem Branches.failsBy_render {p : Pairing} (hp : .calling n ≤ p) (hc : p.Optional c c) {a : Page}
    (ha : a.Paired p a) {h : Heap} (hh : h.Paired p h) :
    ∀ k : Branches, FailsBy (k.render b.machine c a) h (Escapes b c k.nodes a h)
  | .done => failsBy_pure a
  | .otherwise body => Node.failsBy_renderAll hp hc ha hh body
  | .elseIf test body rest => Node.failsBy_render hp hc ha hh (.cond test body rest) []

end

/-! ## Templates -/

theorem outcome_renderTemplate (m : Machine) (ns : List Node) (context : Option Value) :
    outcome (renderTemplate m ns context) h =
      outcome (do return (← Node.renderAll m (context.filter h.truthy) ns ⟨[], ""⟩).text) h := by
  rw [renderTemplate, contextOf, bind_assoc, outcome_get_bind, pure_bind]

/-- **A rendering gives a text, reports an error or meets a limit, unless it comes to an expression at
which a failure is not reported.** The heap and the context hold plain data, and callables that fail
only with failures that are reported. -/
theorem renders_or_reports (b : Bounds) (ns : List Node) {context : Option Value} {h : Heap}
    (hh : h.Calm) (hc : ∀ v ∈ context, v.Calm) :
    (∃ text, (outcome (renderTemplate b.machine ns context) h).1 = .ok text) ∨
      (∃ e, (outcome (renderTemplate b.machine ns context) h).1 = .error (.render e)) ∨
      (∃ e, (outcome (renderTemplate b.machine ns context) h).1 = .error e ∧ e.isLimit = true) ∨
      ∃ f, (outcome (renderTemplate b.machine ns context) h).1 = .error (.failure f) ∧
        Escapes b (context.filter h.truthy) ns ⟨[], ""⟩ h f := by
  have hcalm : ∀ v ∈ context.filter h.truthy, v.Calm :=
    fun v hv => hc v (Option.filter_eq_some_iff.mp hv).1
  have hfails : FailsBy (renderTemplate b.machine ns context) h
      (Escapes b (context.filter h.truthy) ns ⟨[], ""⟩ h) := by
    have hnodes := Node.failsBy_renderAll (b := b) (n := h.cells.size) le_rfl
      (Optional.calm_paired hcalm) (a := ⟨[], ""⟩) ⟨.nil, rfl⟩ hh.paired ns
    intro f hf
    rw [outcome_renderTemplate] at hf
    exact hnodes.bind (fun d _ _ => failsBy_pure d.text) f hf
  cases hout : (outcome (renderTemplate b.machine ns context) h).1 with
  | ok text => exact .inl ⟨text, rfl⟩
  | error e =>
    cases e with
    | render e => exact .inr (.inl ⟨e, rfl⟩)
    | exhausted => exact .inr (.inr (.inl ⟨_, rfl, rfl⟩))
    | failure f =>
      obtain hlimit | hescapes := hfails f hout
      · exact .inr (.inr (.inl ⟨_, rfl, hlimit⟩))
      · exact .inr (.inr (.inr ⟨f, rfl, hescapes⟩))

/-- A heap with a context in which `n` is a number. -/
def numberHeap : Heap := ⟨#[.dict [(.str "n", .int 5)]]⟩

theorem numberHeap_calm : numberHeap.Calm := by
  intro r c hc
  obtain ⟨hr, rfl⟩ := Array.getElem?_eq_some_iff.mp hc
  obtain rfl : r = 0 := Nat.lt_one_iff.mp hr
  refine Cell.All.dict fun e he => ?_
  obtain rfl := List.mem_singleton.mp he
  exact ⟨.atom rfl, .atom rfl⟩

/-- A loop over a number escapes. -/
theorem renders_or_reports_loop :
    numberHeap.Calm ∧ (∀ v ∈ some (Value.dict 0), v.Calm) ∧
      Escapes ⟨1, 1⟩ (some (.dict 0)) [.loop "x" ⟨"n", .name "n"⟩ []] ⟨[], ""⟩ numberHeap .type := by
  have hc : ∀ v ∈ some (Value.dict 0), v.Calm := by
    rintro _ ⟨⟩
    exact .dict trivial
  refine ⟨numberHeap_calm, hc, ?_⟩
  have hout : (outcome (renderTemplate (Bounds.machine ⟨1, 1⟩)
      [.loop "x" ⟨"n", .name "n"⟩ []] (some (.dict 0))) numberHeap).1 = .error (.failure .type) := by
    rfl
  have h := renders_or_reports ⟨1, 1⟩ [.loop "x" ⟨"n", .name "n"⟩ []] numberHeap_calm hc
  rw [hout] at h
  obtain ⟨_, h⟩ | ⟨_, h⟩ | ⟨_, h, hlimit⟩ | ⟨f, h, hescapes⟩ := h
  · cases h
  · cases h
  · cases h
    cases hlimit
  · cases h
    exact hescapes

/-- A loop over a number fails with a bare failure. -/
theorem renderTemplate_loopOverNumber :
    ∃ m t, Markers.ofOffers .absent .absent (.source "<(.+?)>") = .ok m ∧
      Template.compile m "<for x in n><end>" = .ok t ∧
      numberHeap.Calm ∧ (Value.dict 0).Calm ∧
      (outcome (renderTemplate (Bounds.machine ⟨1, 1⟩) t.nodes (some (.dict 0))) numberHeap).1 =
        .error (.failure .type) := by
  obtain ⟨m, hm, h⟩ := exists_of_map_toOption
    (x := Markers.ofOffers .absent .absent (.source "<(.+?)>"))
    (f := fun m => (Template.compile m
      "<for x in n><end>").toOption.map fun t =>
        match (outcome (renderTemplate (Bounds.machine ⟨1, 1⟩) t.nodes (some (.dict 0)))
          numberHeap).1 with
        | .error e => some e
        | .ok _ => none)
    (b := some (some (.failure .type))) (by decide +kernel)
  obtain ⟨t, ht, h⟩ := exists_of_map_toOption h
  refine ⟨m, t, hm, ht, numberHeap_calm, .dict trivial, ?_⟩
  split at h
  · next e he =>
    rw [he, Option.some.inj h]
  · cases h

end Wording
