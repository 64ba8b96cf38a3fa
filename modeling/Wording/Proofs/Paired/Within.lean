import Wording.Proofs.Paired.Heap

/-!
# Values that go together with themselves

A value that refers only to places of a kind, with callables that raise only faults of a kind, goes
together with itself in each pairing that has these places and faults.

* `Value.Within.paired`, `Cell.All.paired`
* `Value.Paired.within`, `Cell.Paired.all`
* `Pairing.self`: the pairing of places with themselves
-/

namespace Wording

/-- A value refers only to places of a kind, and its callables raise only faults of a kind. -/
inductive Value.Within (place : Ref → Prop) (raised : Fault → Prop) : Value → Prop
  | atom {v : Value} (h : v.isAtom = true) : Within place raised v
  | tuple {vs : List Value} (h : ∀ v ∈ vs, Within place raised v) : Within place raised (.tuple vs)
  | slice {a b c : Value} (ha : Within place raised a) (hb : Within place raised b)
      (hc : Within place raised c) : Within place raised (.slice a b c)
  | list {r : Ref} (h : place r) : Within place raised (.list r)
  | dict {r : Ref} (h : place r) : Within place raised (.dict r)
  | record {r : Ref} (h : place r) : Within place raised (.record r)
  | method {v : Value} (h : Within place raised v) (m : Method) : Within place raised (.method v m)
  | constant {v : Value} (h : Within place raised v) : Within place raised (.constant v)
  | entryAt {v : Value} (h : Within place raised v) : Within place raised (.entryAt v)
  | failing {e : Fault} (h : raised e) : Within place raised (.failing e)

/-- All values in a cell are of a kind. -/
inductive Cell.All (P : Value → Prop) : Cell → Prop
  | list {xs : Array Value} (h : ∀ v ∈ xs.toList, P v) : All P (.list xs)
  | dict {es : Entries} (h : ∀ e ∈ es, P e.1 ∧ P e.2) : All P (.dict es)
  | record {as : List (String × Value)} (h : ∀ n ∈ as, P n.2) : All P (.record as)

section

variable {p : Pairing} {place : Ref → Prop} {raised : Fault → Prop}

theorem Value.Within.paired (hplace : ∀ r, place r → p.ref r r)
    (hraised : ∀ e, raised e → p.raised e) {v : Value} (h : v.Within place raised) :
    v.Paired p v := by
  induction h with
  | atom h => exact .atom h
  | tuple _ ih => exact .tuple (List.forall₂_same.mpr ih)
  | slice _ _ _ iha ihb ihc => exact .slice iha ihb ihc
  | list h => exact .list (hplace _ h)
  | dict h => exact .dict (hplace _ h)
  | record h => exact .record (hplace _ h)
  | method _ m ih => exact .method ih m
  | constant _ ih => exact .constant ih
  | entryAt _ ih => exact .entryAt ih
  | failing h => exact .failing (hraised _ h)

theorem Cell.All.paired {P : Value → Prop} (hP : ∀ v, P v → v.Paired p v) {c : Cell}
    (h : c.All P) : c.Paired p c := by
  cases h with
  | list h => exact .list (List.forall₂_same.mpr fun v hv => hP v (h v hv))
  | dict h => exact .dict (List.forall₂_same.mpr fun e he => ⟨hP _ (h e he).1, hP _ (h e he).2⟩)
  | record h => exact .record (List.forall₂_same.mpr fun n hn => ⟨rfl, hP _ (h n hn)⟩)

end

mutual

/-- All values refer to places and raise faults. -/
theorem Value.within_all : (v : Value) → v.Within (fun _ => True) fun _ => True
  | .tuple vs => .tuple (Value.within_all_of_mem vs)
  | .slice lower upper step => .slice lower.within_all upper.within_all step.within_all
  | .list _ => .list trivial
  | .dict _ => .dict trivial
  | .record _ => .record trivial
  | .method v m => .method v.within_all m
  | .constant v => .constant v.within_all
  | .entryAt v => .entryAt v.within_all
  | .failing _ => .failing trivial
  | .null | .ellipsis | .bool _ | .int _ | .float _ | .complex _ _ | .str _ | .bytes _ | .helper _
  | .unbound _ _ | .static _ _ | .foreign _ | .echo | .keyNames | .renderer _ _ => .atom rfl

theorem Value.within_all_of_mem : (vs : List Value) →
    ∀ v ∈ vs, v.Within (fun _ => True) fun _ => True
  | [], _, h => nomatch h
  | v :: vs, w, h => by
    obtain hw | hw := List.mem_cons.mp h
    · exact hw ▸ v.within_all
    · exact Value.within_all_of_mem vs w hw

end

section

variable {q : Pairing}

mutual

theorem Value.Paired.within {place : Ref → Prop} (hq : ∀ r s, q.ref r s → place r) {v w : Value}
    (hv : v.Paired q w) : v.Within place fun _ => True := by
  cases hv with
  | atom ha => exact .atom ha
  | tuple hs => exact .tuple (Value.Paired.withinAll hq hs)
  | slice ha hb hc => exact .slice (ha.within hq) (hb.within hq) (hc.within hq)
  | list hr => exact .list (hq _ _ hr)
  | dict hr => exact .dict (hq _ _ hr)
  | record hr => exact .record (hq _ _ hr)
  | method hv m => exact .method (hv.within hq) m
  | constant hv => exact .constant (hv.within hq)
  | entryAt hv => exact .entryAt (hv.within hq)
  | failing _ => exact .failing trivial

theorem Value.Paired.withinAll {place : Ref → Prop} (hq : ∀ r s, q.ref r s → place r)
    {vs ws : List Value} (hs : q.Values vs ws) : ∀ v ∈ vs, v.Within place fun _ => True := by
  cases hs with
  | nil => exact nofun
  | cons hv hs =>
    intro u hu
    rcases List.mem_cons.mp hu with rfl | hu
    · exact hv.within hq
    · exact Value.Paired.withinAll hq hs u hu

end

theorem forall_mem_of_forall₂ {α β : Type} {R : α → β → Prop} {P : α → Prop}
    (hR : ∀ a b, R a b → P a) {xs : List α} {ys : List β} (hs : List.Forall₂ R xs ys) :
    ∀ x ∈ xs, P x := by
  induction hs with
  | nil => exact nofun
  | cons hab _ ih => exact List.forall_mem_cons.mpr ⟨hR _ _ hab, ih⟩

theorem Cell.Paired.all {P : Value → Prop} (hP : ∀ v w, v.Paired q w → P v) {c c' : Cell}
    (hc : c.Paired q c') : c.All P := by
  cases hc with
  | list hs => exact .list (forall_mem_of_forall₂ hP hs)
  | dict hs => exact .dict (forall_mem_of_forall₂ (fun _ _ he => ⟨hP _ _ he.1, hP _ _ he.2⟩) hs)
  | record hs => exact .record (forall_mem_of_forall₂ (fun _ _ hn => hP _ _ hn.2) hs)

end

/-! ## Places with themselves -/

/-- Each place of a kind goes together with itself; callables and computations may fail in any way.
-/
def Pairing.self (place : Ref → Prop) (size : Nat) : Pairing where
  ref r s := r = s ∧ place r
  size := size
  gap := 0
  aside _ _ := True
  raised _ := True
  fault _ := True
  unique := by
    rintro a b c d ⟨rfl, -⟩ ⟨rfl, -⟩
    rfl
  beyond h _ := h.1
  fault_of_raised _ _ := trivial
  ordinary _ _ := trivial
  render _ := trivial
  exhausted := trivial

end Wording
