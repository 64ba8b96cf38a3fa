import Wording.Proofs.Agreement
import Wording.Proofs.Paired.Value

/-!
# Heaps that go together

Two heaps go together in a pairing if what lies at places that go together does. What is allocated in
both goes together from then on, in a pairing that has grown by the new places, and what is written to
places that go together changes nothing about it.

Two computations on such heaps agree (`Pairing.Agrees`) if they end in heaps that go together, and
both in results that do or both in the same fault, one that the pairing allows.

* `Heap.Paired.alloc`, `Heap.Paired.write`: changes of two heaps
* `Pairing.agrees_lift`, `Pairing.agrees_newList`, …: the steps that computations are made of
-/

namespace Wording

/-! ## Cells and heaps -/

/-- Cells of one kind that hold what goes together. -/
inductive Cell.Paired (p : Pairing) : Cell → Cell → Prop
  | list {xs ys : Array Value} (h : p.Values xs.toList ys.toList) : Paired p (.list xs) (.list ys)
  | dict {es es' : Entries} (h : p.Entries es es') : Paired p (.dict es) (.dict es')
  | record {as bs : List (String × Value)} (h : p.Named as bs) : Paired p (.record as) (.record bs)

/-- Heaps with what goes together at the places that do. -/
structure Heap.Paired (p : Pairing) (h h' : Heap) : Prop where
  left : h.cells.size = p.size
  right : h'.cells.size = p.size + p.gap
  cell : ∀ {r s : Ref}, p.ref r s → Option.Rel (Cell.Paired p) h.cells[r]? h'.cells[s]?
  aside : ∀ r : Nat, r < p.size → (∀ s, ¬p.ref r s) → p.aside r h.cells[r]?

section

variable {p q : Pairing}

theorem Cell.Paired.imp (hpq : p.Into q) {c c' : Cell} (h : c.Paired p c') : c.Paired q c' := by
  cases h with
  | list h => exact .list (h.imp fun _ _ h => h.imp hpq)
  | dict h => exact .dict (h.imp fun _ _ h => ⟨h.1.imp hpq, h.2.imp hpq⟩)
  | record h => exact .record (h.imp fun _ _ h => ⟨h.1, h.2.imp hpq⟩)

theorem Cell.Paired.mono (hpq : p ≤ q) {c c' : Cell} (h : c.Paired p c') : c.Paired q c' :=
  h.imp (Pairing.into hpq)

namespace Heap.Paired

variable {h h' : Heap} {r s : Ref}

/-- The right heap is larger by the gap. -/
theorem size (hp : h.Paired p h') : h.cells.size + p.gap = h'.cells.size := by
  rw [hp.left, hp.right]

theorem right_of_level (hp : h.Paired p h') (hlevel : p.gap = 0) : h'.cells.size = p.size := by
  rw [hp.right, hlevel, Nat.add_zero]

theorem size_of_level (hp : h.Paired p h') (hlevel : p.gap = 0) :
    h.cells.size = h'.cells.size := hp.left.trans (hp.right_of_level hlevel).symm

/-- Only the places that go together count, and what callables raise. -/
theorem imp (hp : h.Paired p h') (hpq : p.Into q) (hsize : q.size = p.size) (hgap : q.gap = p.gap)
    (haside : ∀ r c, q.aside r c) (href : ∀ r s, q.ref r s → p.ref r s) : h.Paired q h' := by
  refine ⟨hp.left.trans hsize.symm, hp.right.trans (by rw [hsize, hgap]), fun {r s} hr => ?_,
    fun r _ _ => haside r _⟩
  have hc := hp.cell (href r s hr)
  generalize h.cells[r]? = x, h'.cells[s]? = y at hc
  cases hc with
  | none => exact .none
  | some hc => exact .some (hc.imp hpq)

/-! ## Reading -/

theorem items (hp : h.Paired p h') (hr : p.ref r s) :
    p.Values (h.items r).toList (h'.items s).toList := by
  have hc := hp.cell hr
  rw [Heap.items, Heap.items]
  generalize h.cells[r]? = x, h'.cells[s]? = y at hc
  cases hc with
  | none => exact .nil
  | some hc =>
    cases hc with
    | list hv => exact hv
    | _ => exact .nil

theorem entries (hp : h.Paired p h') (hr : p.ref r s) : p.Entries (h.entries r) (h'.entries s) := by
  have hc := hp.cell hr
  rw [Heap.entries, Heap.entries]
  generalize h.cells[r]? = x, h'.cells[s]? = y at hc
  cases hc with
  | none => exact .nil
  | some hc =>
    cases hc with
    | dict hv => exact hv
    | _ => exact .nil

theorem attributes (hp : h.Paired p h') (hr : p.ref r s) :
    p.Named (h.attributes r) (h'.attributes s) := by
  have hc := hp.cell hr
  rw [Heap.attributes, Heap.attributes]
  generalize h.cells[r]? = x, h'.cells[s]? = y at hc
  cases hc with
  | none => exact .nil
  | some hc =>
    cases hc with
    | record hv => exact hv
    | _ => exact .nil

theorem lookup (hp : h.Paired p h') (hr : p.ref r s) {k k' : Value} (hk : k.Paired p k') :
    p.Optional (h.lookup r k) (h'.lookup s k') := Keyed.find?_paired (hp.entries hr) hk

/-- Of two places that go together both are in use or none is. -/
theorem lt_iff {r s : Nat} (hr : p.ref r s) : r < p.size ↔ s < p.size + p.gap := by
  have hbeyond := p.beyond hr
  omega

/-! ## Changing -/

/-- What is allocated in both heaps goes together from then on. -/
theorem alloc (hp : h.Paired p h') {c c' : Cell} (hc : c.Paired p c') :
    ∃ q, p ≤ q ∧ q.ref (h.alloc c).1 (h'.alloc c').1 ∧
      (h.alloc c).2.Paired q (h'.alloc c').2 := by
  have hfresh {r s : Nat} (hr : p.ref r s) : r = p.size ↔ s = p.size + p.gap := by
    have hb := p.beyond hr
    omega
  let q : Pairing := {
    p with
    ref := fun r s => p.ref r s ∨ r = p.size ∧ s = p.size + p.gap
    size := p.size + 1
    unique := by
      rintro a b c d (hab | ⟨rfl, rfl⟩) (hcd | ⟨rfl, rfl⟩)
      · exact p.unique hab hcd
      · exact hfresh hab
      · exact eq_comm.trans ((hfresh hcd).trans eq_comm)
      · exact iff_of_true rfl rfl
    beyond := by
      rintro r s (hr | ⟨rfl, rfl⟩) hbeyond
      · exact p.beyond hr (by omega)
      · rfl }
  have hpq : p ≤ q := by
    refine ⟨Nat.le_succ _, rfl, rfl, fun r s => or_congr_right ?_, rfl, rfl⟩
    constructor
    · rintro ⟨rfl, rfl⟩
      exact ⟨rfl, Nat.le_refl _, Nat.lt_succ_self _⟩
    · rintro ⟨rfl, hr⟩
      have : r = p.size := Nat.le_antisymm (Nat.le_of_lt_succ hr.2) hr.1
      exact ⟨this, this ▸ rfl⟩
  refine ⟨q, hpq, .inr ⟨hp.left, hp.right⟩, ?_, ?_, ?_, ?_⟩
  · exact (Array.size_push ..).trans (congrArg (· + 1) hp.left)
  · refine (Array.size_push ..).trans ((congrArg (· + 1) hp.right).trans ?_)
    exact Nat.add_right_comm _ _ _
  · rintro r s hr
    show Option.Rel _ (h.cells.push c)[r]? (h'.cells.push c')[s]?
    rw [Array.getElem?_push, Array.getElem?_push, hp.left, hp.right]
    obtain hr | ⟨rfl, rfl⟩ := hr
    · by_cases hrs : r = p.size
      · rw [if_pos hrs, if_pos ((hfresh hr).mp hrs)]
        exact .some (hc.mono hpq)
      · rw [if_neg hrs, if_neg fun hs => hrs ((hfresh hr).mpr hs)]
        have hcell := hp.cell hr
        generalize h.cells[r]? = x, h'.cells[s]? = y at hcell ⊢
        cases hcell with
        | none => exact .none
        | some hcell => exact .some (hcell.mono hpq)
    · rw [if_pos rfl, if_pos rfl]
      exact .some (hc.mono hpq)
  · intro r hr hnone
    show p.aside r (h.cells.push c)[r]?
    have hne : r ≠ p.size := fun hr => hnone _ (.inr ⟨hr, rfl⟩)
    have hlt : r < p.size := Nat.lt_of_le_of_ne (Nat.le_of_lt_succ hr) hne
    rw [Array.getElem?_push, if_neg (hp.left.symm ▸ hne)]
    exact hp.aside r hlt fun s hs => hnone s (.inl hs)

theorem write (hp : h.Paired p h') (hr : p.ref r s) {c c' : Cell} (hc : c.Paired p c') :
    (h.write r c).Paired p (h'.write s c') := by
  have hsize (k : Heap) (t : Ref) (d : Cell) : (k.write t d).cells.size = k.cells.size :=
    Array.size_setIfInBounds
  refine ⟨(hsize ..).trans hp.left, (hsize ..).trans hp.right, ?_, fun a ha hnone => ?_⟩
  swap
  · -- What is written to goes together with something.
    show p.aside a (h.cells.setIfInBounds r c)[a]?
    rw [Array.getElem?_setIfInBounds, if_neg fun hra : r = a => hnone s (hra ▸ hr)]
    exact hp.aside a ha hnone
  intro a b hab
  show Option.Rel _ (h.cells.setIfInBounds r c)[a]? (h'.cells.setIfInBounds s c')[b]?
  have hcell := hp.cell hab
  rw [Array.getElem?_setIfInBounds, Array.getElem?_setIfInBounds, hp.left, hp.right]
  by_cases har : r = a
  · subst har
    obtain rfl : s = b := (p.unique hr hab).mp rfl
    rw [if_pos rfl, if_pos rfl]
    by_cases hlt : r < p.size
    · rw [if_pos hlt, if_pos ((lt_iff hr).mp hlt)]
      exact .some hc
    · rw [if_neg hlt, if_neg fun h => hlt ((lt_iff hr).mpr h)]
      exact .none
  · rw [if_neg har, if_neg fun h => har ((p.unique hr hab).mpr h)]
    exact hcell

theorem setItems (hp : h.Paired p h') (hr : p.ref r s) {xs ys : Array Value}
    (hv : p.Values xs.toList ys.toList) : (h.setItems r xs).Paired p (h'.setItems s ys) := by
  have hcell := hp.cell hr
  unfold Heap.setItems
  generalize h.cells[r]? = c, h'.cells[s]? = c' at hcell
  cases hcell with
  | none => exact hp
  | some hc =>
    cases hc with
    | list _ => exact hp.write hr (.list hv)
    | _ => exact hp

end Heap.Paired

end

/-! ## Computations -/

/-- Two computations on heaps that go together end in heaps and results that do. -/
abbrev Pairing.Agrees {α α' : Type} (p : Pairing) (R : Pairing → α → α' → Prop) (m : Eval α)
    (m' : Eval α') : Prop :=
  Agree Heap.Paired (fun q e e' => e = e' ∧ q.fault e) R p m m'

namespace Pairing

variable {p : Pairing} {α α' β β' : Type} {R : Pairing → α → α' → Prop}

theorem agrees_throw {e : Fault} (h : p.fault e) :
    p.Agrees R (throw e : Eval α) (throw e : Eval α') := agree_throw ⟨rfl, h⟩

theorem agrees_fail {f : Failure} (h : f.isOrdinary = true) :
    p.Agrees R (Eval.fail f) (Eval.fail f) := agrees_throw (p.ordinary f h)

theorem agrees_lift {x : Except Failure α} {y : Except Failure α'} (h : p.Alike (R p) x y) :
    p.Agrees R (Eval.lift x) (Eval.lift y) := by
  cases h with
  | ok h => exact agree_pure h
  | error h =>
    obtain ⟨rfl, h⟩ := h
    exact agrees_throw h

theorem agrees_lift_bind {T : α → α' → Prop} {S : Pairing → β → β' → Prop} {x : Except Failure α}
    {y : Except Failure α'} {f : α → Eval β} {g : α' → Eval β'} (h : p.Alike T x y)
    (hf : ∀ a a', T a a' → p.Agrees S (f a) (g a')) :
    p.Agrees S (Eval.lift x >>= f) (Eval.lift y >>= g) := by
  cases h with
  | ok h => exact hf _ _ h
  | error h =>
    obtain ⟨rfl, h⟩ := h
    exact agrees_throw h

theorem agrees_items_bind {S : Pairing → β → β' → Prop} {r s : Ref} (h : p.ref r s)
    {f : List Value → Eval β} {g : List Value → Eval β'}
    (hf : ∀ vs ws, p.Values vs ws → p.Agrees S (f vs) (g ws)) :
    p.Agrees S (Eval.items r >>= f) (Eval.items s >>= g) :=
  agree_get_bind fun _ _ hp => hf _ _ (hp.items h)

theorem agrees_setItems_bind {S : Pairing → β → β' → Prop} {r s : Ref} (h : p.ref r s)
    {vs ws : List Value} (hv : p.Values vs ws) {f : Unit → Eval β} {g : Unit → Eval β'}
    (hf : p.Agrees S (f ()) (g ())) :
    p.Agrees S (Eval.setItems r vs >>= f) (Eval.setItems s ws >>= g) := by
  intro k k' hp
  exact hf _ _ (hp.setItems h hv)

theorem agrees_alloc {c c' : Cell} (h : c.Paired p c') :
    p.Agrees ref (Eval.alloc c) (Eval.alloc c') := by
  intro s t hp
  obtain ⟨q, hpq, hr, hq⟩ := hp.alloc h
  exact ⟨q, hpq, hq, .ok hr⟩

theorem agrees_newList {vs ws : List Value} (h : p.Values vs ws) :
    p.Agrees Value.Paired (Eval.newList vs) (Eval.newList ws) :=
  (agrees_alloc (.list h)).bind fun _ _ _ _ hr => agree_pure (.list hr)

theorem agrees_newDict {es es' : Wording.Entries} (h : p.Entries es es') :
    p.Agrees Value.Paired (Eval.newDict es) (Eval.newDict es') :=
  (agrees_alloc (.dict h)).bind fun _ _ _ _ hr => agree_pure (.dict hr)

end Pairing

end Wording
