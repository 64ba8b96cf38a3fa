import Wording.Proofs.Box.Apart
import Wording.Proofs.Box.Rerun

/-!
# A box that is asked again later

A box is asked for a message, and once more for the same message when the heap has grown. If it rests
on the same footing, and if all is as it was that the box and the request lead to, the second message
is built like the first one, with all that it leads to.

* `Request.isOpen_sameAt`: whether a box is asked in its language
* `World.Rests.message_paired`: the two messages
* `World.Rests.extends_message`: what a message leaves as it is
* `Value.Alike`: values that are built alike
-/

namespace Wording

variable {T : Ref → Prop} {p : Pairing} {h h' k : Heap} {v : Value} {r : Request} {gap : Nat}

/-! ## A heap and a larger one -/

/-- The places in `T` with themselves, in a heap and in another one that is larger. What lies at other
places of the first heap stays as it is. -/
def Pairing.shifted (T : Ref → Prop) (h : Heap) (gap : Nat) : Pairing where
  ref (r s : Nat) := r = s ∧ T r ∧ r < h.cells.size
  size := h.cells.size
  gap := gap
  aside (r : Nat) c := c = h.cells[r]?
  raised _ := True
  fault _ := True
  unique := by
    rintro a b c d ⟨rfl, -⟩ ⟨rfl, -⟩
    rfl
  beyond := by
    rintro r s ⟨rfl, -, hlt⟩ hbeyond
    omega
  fault_of_raised _ _ := trivial
  ordinary _ _ := trivial
  render _ := trivial
  exhausted := trivial

/-- The places in `T` are in use. -/
def Heap.Uses (T : Ref → Prop) (h : Heap) : Prop := ∀ r : Nat, T r → r < h.cells.size

theorem Heap.Uses.into (hT : h.Uses T) : (Pairing.self T 0).Into (.shifted T h gap) :=
  ⟨fun r _ hr => ⟨hr.1, hr.2, hT r hr.2⟩, fun _ _ => trivial⟩

theorem Value.In.into (hv : v.In T) (hp : (Pairing.self T 0).Into p) : v.Paired p v :=
  (hv.paired 0).imp hp

theorem Heap.SameAt.shifted (hh : h.SameAt T k) (hT : h.Uses T)
    (hle : h.cells.size ≤ k.cells.size) :
    h.Paired (.shifted T h (k.cells.size - h.cells.size)) k := by
  refine ⟨rfl, (Nat.add_sub_cancel' hle).symm, ?_, fun _ _ _ => rfl⟩
  rintro r _ ⟨rfl, hr, -⟩
  rw [← hh.cell r hr]
  cases hc : h.cells[r]? with
  | none => exact .none
  | some c => exact .some ((hh.closed r c hr hc).paired fun v hv => hv.into hT.into)

theorem Heap.SameAt.symm (hh : h.SameAt T k) : k.SameAt T h :=
  ⟨fun r hr => (hh.cell r hr).symm, fun r c hr hc => hh.closed r c hr ((hh.cell r hr).trans hc)⟩

/-- Places that are in use on one heap are in use on another one that is the same there. -/
theorem Heap.SameAt.uses (hh : h.SameAt T k) (hT : h.Uses T) : k.Uses T := by
  intro r hr
  have hc := hh.cell r hr
  rw [Array.getElem?_eq_getElem (hT r hr)] at hc
  exact (Array.getElem?_eq_some_iff.mp hc.symm).1

/-! ## What is asked -/

theorem Request.isOpen_paired {r s : Request} (hp : h.Paired p h') (hr : r.Paired p s) :
    r.isOpen h = s.isOpen h' := by
  have hfields := Issue.fields_paired hp hr.issue
  have hlanguage := hr.language
  unfold isOpen
  generalize r.issue.fields h = x, s.issue.fields h' = y at hfields
  generalize r.language = l, s.language = m at hlanguage
  cases hfields with
  | error _ => cases hlanguage <;> first | rfl | (cases l <;> rfl)
  | ok he =>
    have hready := Session.preformatted?_paired he
    cases hlanguage with
    | atom _ => cases l <;> first | rfl | exact congrArg Option.isNone hready
    | _ => rfl

/-- **Whether a box is asked in its language depends on what the request leads to.** -/
theorem Request.isOpen_sameAt (hr : r.All (Value.In T)) (hh : h.SameAt T k) (hT : h.Uses T) :
    r.isOpen h = r.isOpen k := by
  -- The heap that is not the larger one comes first.
  rcases Nat.le_total h.cells.size k.cells.size with hle | hle
  · exact isOpen_paired (hh.shifted hT hle) (hr.paired fun v hv => hv.into hT.into)
  · exact (isOpen_paired (hh.symm.shifted (hh.uses hT) hle)
      (hr.paired fun v hv => hv.into (hh.uses hT).into)).symm

/-! ## What is answered -/

namespace World.Rests

variable {id : Nat} {f : Footing} {a b : World}

/-- A box answers as if it were alone. -/
theorem message_alone (ha : a.Rests id f) (name : String) (r : Request) :
    (outcome (Session.message id r) a).2.heap =
        (outcome (Session.message 0 r) (f.alone name a.heap).world).2.heap ∧
      (outcome (Session.message id r) a).1 =
        (outcome (Session.message 0 r) (f.alone name a.heap).world).1 := by
  obtain ⟨_, -, htwins, hresult⟩ := Session.alike_message rfl a _ (ha.twins name r.language)
  refine ⟨htwins.heap, ?_⟩
  generalize (outcome (Session.message id r) a).1 = x,
    (outcome (Session.message 0 r) (f.alone name a.heap).world).1 = y at hresult
  cases hresult with
  | ok hv => rw [hv]
  | error he => rw [he]

/-- **A box on one footing in two worlds answers alike**, on heaps that go together at all that it is
about. -/
theorem message_paired (ha : a.Rests id f) (hb : b.Rests id f) (hf : f.In T)
    (hr : r.All (Value.In T)) (hinto : (Pairing.self T 0).Into p)
    (hlacking : p.fault (.failure .attribute)) (hheap : a.heap.Paired p b.heap) :
    ∃ q, p ≤ q ∧ (outcome (Session.message id r) a).2.heap.Paired q
        (outcome (Session.message id r) b).2.heap ∧
      Results (Error.Paired q) (Value.Paired q) (outcome (Session.message id r) a).1
        (outcome (Session.message id r) b).1 := by
  have halone := hf.paired_alone "" ha.combined hinto hlacking hheap
  obtain ⟨q, hpq, hworld, hresult⟩ :=
    Session.instep_message 0 (hr.paired fun v hv => hv.into hinto) _ _ halone.world
  refine ⟨q, hpq, ?_, ?_⟩
  · rw [(ha.message_alone "" r).1, (hb.message_alone "" r).1]
    exact hworld.heap
  · rw [(ha.message_alone "" r).2, (hb.message_alone "" r).2]
    exact hresult

/-- **A message changes nothing but what the box and the request lead to.** -/
theorem extends_message (ha : a.Rests id f) (hf : f.In T) (hr : r.All (Value.In T))
    (hT : a.heap.Uses T) (hclosed : a.heap.SameAt T a.heap)
    (hspared : ∀ r' : Nat, T r' →
      (outcome (Session.message id r) a).2.heap.cells[r']? = a.heap.cells[r']?) :
    a.heap.Extends (outcome (Session.message id r) a).2.heap := by
  obtain ⟨q, hpq, hheap, -⟩ := ha.message_paired ha hf hr hT.into trivial
    (hclosed.shifted hT (Nat.le_refl _))
  have hgrows := Pairing.grows hpq
  refine ⟨hheap.left ▸ hgrows.size, fun r' hlt => ?_⟩
  by_cases hT' : T r'
  · exact hspared r' hT'
  · have hnone (s : Nat) : ¬q.ref r' s := by
      rw [hgrows.ref_iff]
      rintro (⟨-, hr', -⟩ | ⟨-, hge, -⟩)
      · exact hT' hr'
      · exact absurd hlt (Nat.not_lt.mpr hge)
    have haside := hheap.aside r' (Nat.lt_of_lt_of_le hlt hgrows.size) hnone
    rw [hgrows.aside] at haside
    exact haside

end World.Rests

/-! ## Values that are built alike -/

/-- Two values on two heaps are built alike, with all that they lead to. -/
def Value.Alike (h h' : Heap) (v v' : Value) : Prop :=
  ∃ p : Pairing, v.Paired p v' ∧
    ∀ r s : Nat, p.ref r s → Option.Rel (Cell.Paired p) h.cells[r]? h'.cells[s]?

/-- What is built like a text is the same text. -/
theorem Value.Alike.eq_of_str {s : String} {v' : Value} (hv : (Value.str s).Alike h h' v') :
    v' = .str s := by
  obtain ⟨p, hp, -⟩ := hv
  cases hp
  rfl

/-- Values that go together are built alike, also when one of the heaps has gone on and has left all as
it was. -/
theorem Value.Paired.alike {q : Pairing} {k' z : Heap} {v' : Value} (hq : .shifted T h gap ≤ q)
    (hv : v.Paired q v') (hk : k.Paired q k') (hz : k.Extends z) : v.Alike z k' v' := by
  refine ⟨q, hv, fun r s hr => ?_⟩
  have hlt : r < q.size := by
    obtain ⟨-, -, hlt⟩ | ⟨-, -, hlt⟩ := ((Pairing.grows hq).ref_iff r s).mp hr
    · exact Nat.lt_of_lt_of_le hlt (Pairing.grows hq).size
    · exact hlt
  rw [hz.2 r (hk.left.symm ▸ hlt)]
  exact hk.cell hr

/-- **A box that gives a message gives one that is built alike when it is asked again later.** -/
theorem World.Rests.exists_alike {id : Nat} {f : Footing} {a a' b : World} {z : Heap}
    (ha : a.Rests id f) (hb : b.Rests id f) (hf : f.In T) (hr : r.All (Value.In T))
    (hT : a.heap.Uses T) (hh : a.heap.SameAt T b.heap)
    (hle : a.heap.cells.size ≤ b.heap.cells.size)
    (hv : outcome (Session.message id r) a = (.ok v, a')) (hz : a'.heap.Extends z) :
    ∃ v' b', outcome (Session.message id r) b = (.ok v', b') ∧ v.Alike z b'.heap v' := by
  obtain ⟨q, hpq, hheap, hresult⟩ :=
    ha.message_paired hb hf hr hT.into trivial (hh.shifted hT hle)
  rw [hv] at hheap hresult
  cases hout : outcome (Session.message id r) b with
  | mk x b' =>
    rw [hout] at hheap hresult
    cases hresult with
    | ok hvalue => exact ⟨_, b', rfl, hvalue.alike hpq hheap hz⟩

end Wording
