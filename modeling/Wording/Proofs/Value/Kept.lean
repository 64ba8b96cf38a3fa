import Wording.Proofs.Value.Composed

/-!
# What computations on values leave as it is

A computation on values changes the heap in two ways: it puts something behind all that is there, and
it gives lists other items. What holds of a heap through both changes holds behind each computation,
whatever that ends in. Only methods of lists give lists other items.

* `Heap.Extends`: one heap, and what has been put behind it
* `Heap.Spares`: all but what lists hold is the same
* `leaves_getItem`, `BinaryOp.leaves_apply`, …: operations on values
* `leaves_invoke`: calls
-/

namespace Wording

/-! ## Heaps that have changed -/

/-- A heap with what another one holds, and perhaps more behind it. -/
def Heap.Extends (h k : Heap) : Prop :=
  h.cells.size ≤ k.cells.size ∧ ∀ r < h.cells.size, k.cells[r]? = h.cells[r]?

def Cell.isList : Cell → Bool
  | .list _ => true
  | _ => false

/-- All that another heap holds is in a heap, but lists may hold other items. -/
def Heap.Spares (h k : Heap) : Prop :=
  ∀ (r : Ref) (c : Cell), h.cells[r]? = some c → c.isList = false → k.cells[r]? = some c

namespace Heap

variable {h k l : Heap}

theorem Extends.refl (h : Heap) : h.Extends h := ⟨Nat.le_refl _, fun _ _ => rfl⟩

theorem Extends.trans (hk : h.Extends k) (hl : k.Extends l) : h.Extends l :=
  ⟨Nat.le_trans hk.1 hl.1, fun r hr => (hl.2 r (Nat.lt_of_lt_of_le hr hk.1)).trans (hk.2 r hr)⟩

theorem Extends.push (hk : h.Extends k) (c : Cell) : h.Extends ⟨k.cells.push c⟩ := by
  obtain ⟨hsize, hcells⟩ := hk
  refine ⟨?_, fun r hr => ?_⟩
  · rw [Array.size_push]
    exact Nat.le_succ_of_le hsize
  · show (k.cells.push c)[r]? = h.cells[r]?
    rw [Array.getElem?_push, if_neg (by omega)]
    exact hcells r hr

theorem Spares.refl (h : Heap) : h.Spares h := fun _ _ hc _ => hc

/-- A predicate that holds of a heap holds of it with a cell put behind it. -/
def Lasting (P : Heap → Prop) : Prop := ∀ h c, P h → P (h.alloc c).2

/-- A predicate that holds of a heap holds of it whatever its lists hold. -/
def Listless (P : Heap → Prop) : Prop := ∀ h r xs, P h → P (h.setItems r xs)

theorem lasting_extends (h : Heap) : Lasting h.Extends := fun _ c hk => hk.push c

theorem lasting_spares (h : Heap) : Lasting h.Spares := by
  intro k c hk r d hr hd
  have hcell := hk r d hr hd
  obtain ⟨hlt, -⟩ := Array.getElem?_eq_some_iff.mp hcell
  show (k.cells.push c)[r]? = some d
  rw [Array.getElem?_push_lt hlt, ← hcell, Array.getElem?_eq_getElem hlt]

theorem listless_spares (h : Heap) : Listless h.Spares := by
  intro k s xs hk r d hr hd
  have hcell := hk r d hr hd
  unfold setItems
  split
  · rename_i ys hs
    show (k.cells.setIfInBounds s _)[r]? = some d
    rw [Array.getElem?_setIfInBounds]
    split
    · rename_i heq
      rw [heq, hcell] at hs
      cases hs
      cases hd
    · exact hcell
  · exact hcell

end Heap

/-! ## Computations -/

/-- Whatever a computation ends in, what held of the heap holds behind it. -/
abbrev Eval.Leaves {α : Type} (P : Heap → Prop) (m : Eval α) : Prop := Keeps P m fun _ => True

section

variable {P : Heap → Prop} {α β : Type} {m : Eval α} {f : α → Eval β}

theorem leaves_pure (a : α) : Eval.Leaves P (pure a) := keeps_return a

theorem leaves_throw (e : Fault) : Eval.Leaves P (throw e : Eval α) := keeps_throw e

theorem leaves_fail (e : Failure) : Eval.Leaves P (Eval.fail e : Eval α) := keeps_throw _

theorem Eval.Leaves.bind (hm : Eval.Leaves P m) (hf : ∀ a, Eval.Leaves P (f a)) :
    Eval.Leaves P (m >>= f) := Keeps.bind hm fun a _ => hf a

/-- What each step leaves as it is, all of them together leave so. -/
theorem Eval.composes_leaves (P : Heap → Prop) : Eval.Composes (Eval.Leaves P) where
  pure := leaves_pure
  fail := leaves_fail
  get := fun _ hk => ⟨hk, fun _ _ => trivial⟩
  bind := Eval.Leaves.bind
  caught hm hf := Keeps.tryCatch hm fun e => by
    obtain h | h := hf e
    · exact h
    · exact h ▸ leaves_throw e

theorem leaves_get_bind {f : Heap → Eval β} (hf : ∀ h, Eval.Leaves P (f h)) :
    Eval.Leaves P (get >>= f) := (Eval.composes_leaves P).get_bind hf

theorem leaves_lift (x : Except Failure α) : Eval.Leaves P (Eval.lift x) :=
  (Eval.composes_leaves P).lift x

/-- What is read off the heap. -/
theorem leaves_lift_get (f : Heap → Except Failure α) :
    Eval.Leaves P (do Eval.lift (f (← get))) := (Eval.composes_leaves P).lift_get f

theorem leaves_elements (v : Value) : Eval.Leaves P (Eval.elements v) :=
  (Eval.composes_leaves P).elements v

/-- Arguments that are taken apart. -/
theorem leaves_bind_bind (p : Parameters) (a : Arguments) {f : List (Option Value) → Eval α}
    (hf : ∀ vs, Eval.Leaves P (f vs)) : Eval.Leaves P (Eval.bind p a >>= f) :=
  (Eval.composes_leaves P).bind_bind p a hf

theorem leaves_setItems (hset : Heap.Listless P) (r : Ref) (xs : List Value) :
    Eval.Leaves P (Eval.setItems r xs) := keeps_modify fun _ hk => hset _ _ _ hk

theorem UnaryOp.leaves_apply (op : UnaryOp) (v : Value) : Eval.Leaves P (op.apply v) :=
  (Eval.composes_leaves P).unary op v

theorem CompareOp.leaves_apply (op : CompareOp) (made : Bool) (v w : Value) :
    Eval.Leaves P (op.apply made v w) := (Eval.composes_leaves P).compare op made v w

variable (hP : Heap.Lasting P)
include hP

theorem leaves_alloc (c : Cell) : Eval.Leaves P (Eval.alloc c) :=
  fun _ hk => ⟨hP _ _ hk, fun _ _ => trivial⟩

theorem leaves_newList (vs : List Value) : Eval.Leaves P (Eval.newList vs) :=
  (Eval.composes_leaves P).newList (leaves_alloc hP) vs

theorem leaves_newDict (es : Entries) : Eval.Leaves P (Eval.newDict es) :=
  (Eval.composes_leaves P).newDict (leaves_alloc hP) es

theorem leaves_getItem (v key : Value) : Eval.Leaves P (getItem v key) :=
  (Eval.composes_leaves P).getItem (leaves_alloc hP) v key

theorem leaves_getItemOrNull (v key : Value) : Eval.Leaves P (getItemOrNull v key) :=
  (Eval.composes_leaves P).getItemOrNull (leaves_alloc hP) v key

theorem BinaryOp.leaves_apply (op : BinaryOp) (v w : Value) : Eval.Leaves P (op.apply v w) :=
  (Eval.composes_leaves P).binary (leaves_alloc hP) op v w

omit hP in
/-- **A call of something else than a method of a list gives no list other items.** -/
theorem leaves_invoke {call : Caller} (hcall : ∀ v a, Eval.Leaves P (call v a))
    (hP : Heap.Lasting P) {f : Value}
    (hset : f.isListMethod = true → Heap.Listless P) (a : Arguments) :
    Eval.Leaves P (invoke call f a) :=
  (Eval.composes_leaves P).invoke (leaves_alloc hP) (fun k v => hcall k ⟨[v], []⟩)
    (fun hf => leaves_setItems (hset hf)) (fun e _ => leaves_throw e) a

end

end Wording
