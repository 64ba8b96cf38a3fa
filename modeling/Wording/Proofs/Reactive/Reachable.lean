import Wording.Proofs.Reactive.Acts
import Wording.Proofs.Reactive.Linked

/-!
# Reachable states

A state is reachable if operations on the graph lead to it, between them or from within the bodies
that they run. Bodies are not limited to what computations have been made with: in whatever state a
body is, any operation may be the next one.

* `sound_of_reachable`: what holds of all reachable states
* `linked_of_reachable`: both directions of the graph agree, and taking a computation off its
  dependencies does not fail
-/

namespace Wording

open Reactive

/-! ## Sound states -/

/-- A state with a linked graph in which everything named or running is there. -/
structure ReactiveState.Sound (s : ReactiveState) : Prop where
  linked : s.graph.Linked
  named : ∀ e ∈ s.dependencies, e.2 < s.graph.dependents.size
  present : ∀ c ∈ s.graph.stack, c < s.graph.computations.size

namespace ReactiveState

variable {s : ReactiveState}

theorem sound_empty : empty.Sound where
  linked := Graph.linked_empty
  named := by simp [empty]
  present := by simp [empty, Graph.empty]

theorem Sound.onGraph (h : s.Sound) {f : Graph ScriptBody → Graph ScriptBody}
    (hl : (f s.graph).Linked) (hk : s.graph.Keeps (f s.graph)) : (s.onGraph f).Sound where
  linked := hl
  named e he := by
    show e.2 < (f s.graph).dependents.size
    rw [hk.dependents_size]
    exact h.named e he
  present c hc := by
    have hmem : c ∈ (f s.graph).stack := hc
    show c < (f s.graph).computations.size
    rw [hk.stack] at hmem
    rw [hk.computations_size]
    exact h.present c hmem

/-- In a sound state what has a name is there. -/
theorem Sound.lt_of_knows (h : s.Sound) {d : Nat} (hd : s.Knows d) :
    d < s.graph.dependents.size := by
  rcases hd with hlt | ⟨name, hname⟩
  · exact hlt
  · obtain ⟨e, he, rfl⟩ := Option.map_eq_some_iff.mp hname
    exact h.named e (List.mem_of_find?_eq_some he)

theorem Sound.depend (h : s.Sound) {d : Nat} {c : Option Nat} (hd : d < s.graph.dependents.size)
    (hc : ∀ i ∈ c, i < s.graph.computations.size) :
    (s.onGraph fun g => (g.depend d c).2).Sound := by
  refine h.onGraph (Graph.linked_depend h.linked hd fun i hi => ?_) (Graph.keeps_depend d c)
  cases c with
  | some c => exact hc i hi
  | none => exact h.present i (List.mem_of_head? hi)

theorem Sound.newDependency (h : s.Sound) (name : String) : (s.newDependency name).Sound where
  linked := Graph.linked_newDependency h.linked
  named e he := by
    show e.2 < (s.graph.dependents.push []).size
    rw [Array.size_push]
    rcases List.mem_cons.mp he with rfl | he
    · exact Nat.lt_succ_self _
    · exact Nat.lt_succ_of_lt (h.named e he)
  present := h.present

theorem Sound.newComputation (h : s.Sound) (body : ScriptBody) :
    (s.onGraph fun g => (g.newComputation body).2).Sound where
  linked := Graph.linked_newComputation h.linked body
  named := h.named
  present c hc := by
    show c < (s.graph.computations.push _).size
    rw [Array.size_push]
    exact Nat.lt_succ_of_lt (h.present c hc)

theorem Sound.enter (h : s.Sound) {c : Nat} (hc : c < s.graph.computations.size) :
    (s.onGraph (·.enter c)).Sound where
  linked := Graph.linked_enter h.linked c
  named := h.named
  present c' hc' := by
    show c' < (s.graph.modify c _).computations.size
    rw [Graph.size_modify]
    rcases List.mem_cons.mp hc' with rfl | hc'
    · exact hc
    · exact h.present c' hc'

theorem Sound.leave (h : s.Sound) : (s.onGraph (·.leave)).Sound := by
  have hl := Graph.linked_leave h.linked
  cases hs : s.graph.stack with
  | nil =>
    rw [ReactiveState.onGraph, Graph.leave_of_nil hs]
    exact h
  | cons c rest =>
    refine ⟨hl, ?_, ?_⟩
    · rw [ReactiveState.onGraph, Graph.leave_of_cons hs]
      exact h.named
    · rw [ReactiveState.onGraph, Graph.leave_of_cons hs]
      intro c' hc'
      show c' < (s.graph.modify c _).computations.size
      rw [Graph.size_modify]
      exact h.present c' (hs ▸ List.mem_cons_of_mem c hc')

end ReactiveState

theorem Graph.lt_of_canRun {β : Type} {g : Graph β} {c : Nat} (h : g.canRun c = true) :
    c < g.computations.size := by
  simp only [Graph.canRun, Bool.and_eq_true, decide_eq_true_eq] at h
  exact h.1.1

/-- **What is sound stays so, whatever acts are performed.** -/
theorem respected_sound : Respected fun s t => s.Sound → t.Sound where
  refl _ := id
  trans h h' := h' ∘ h
  tell _ _ h := ⟨h.linked, h.named, h.present⟩
  newDependency _ name h := h.newDependency name
  newComputation _ body h := h.newComputation body
  depend hd hc h := h.depend (h.lt_of_knows hd) hc
  stop _ c h := h.onGraph (Graph.linked_stop h.linked c) (Graph.keeps_stop c)
  detach {_ c} _ h := h.onGraph (Graph.linked_detach h.linked c) (Graph.keeps_detach c)
  run hc ht h := (ht (h.enter (Graph.lt_of_canRun hc))).leave

/-! ## Reachable states -/

/--
States to which operations on a graph lead, between the operations and in the bodies that they run.
Computations are run in any lawful way, with bodies of all kinds; whatever runs them may fail.
-/
inductive Reachable : ReactiveState → Prop
  | start : Reachable .empty
  /-- An act has been performed, outside of all bodies or in one. -/
  | act {s : ReactiveState} {run : Nat → Reactive Unit} (hrun : ∀ c, Lawful (run c))
    (owner : Option Nat) (a : ReactiveAct) (h : Reachable s) :
    Reachable (outcome (perform run owner a) s).2
  | depend {s : ReactiveState} {d : Nat} {c : Option Nat} (hd : d < s.graph.dependents.size)
    (hc : ∀ i ∈ c, i < s.graph.computations.size) (h : Reachable s) :
    Reachable (s.onGraph fun g => (g.depend d c).2)
  | stop {s : ReactiveState} (c : Nat) (h : Reachable s) : Reachable (s.onGraph (·.stop c))
  | run {s : ReactiveState} {run : Nat → Reactive Unit} (hrun : ∀ c, Lawful (run c)) (c : Nat)
    (h : Reachable s) : Reachable (outcome (run c) s).2
  | invalidate {s : ReactiveState} {run : Nat → Reactive Unit} (hrun : ∀ c, Lawful (run c))
    (c : Nat) (h : Reachable s) : Reachable (outcome (invalidate run c) s).2
  | notify {s : ReactiveState} {run : Nat → Reactive Unit} (hrun : ∀ c, Lawful (run c)) (d : Nat)
    (h : Reachable s) : Reachable (outcome (notify run d) s).2
  | tell {s : ReactiveState} (e : ReactiveEvent) (h : Reachable s) : Reachable (s.tell e)
  /-- A computation that is going to run again has been taken off its dependencies. -/
  | detach {s : ReactiveState} {c : Nat} (hc : s.graph.canRun c = true) (h : Reachable s) :
    Reachable (s.onGraph (·.detach c))
  /-- A run has begun: what follows is in the body of the computation. -/
  | enter {s : ReactiveState} {c : Nat} (hc : s.graph.canRun c = true) (h : Reachable s) :
    Reachable (s.onGraph (·.enter c))
  /-- The innermost body has ended, or has failed. -/
  | leave {s : ReactiveState} (h : Reachable s) : Reachable (s.onGraph (·.leave))

/-- A list of acts has been performed, up to its end or up to the first one that failed. -/
theorem Reachable.acts {s : ReactiveState} (h : Reachable s) {run : Nat → Reactive Unit}
    (hrun : ∀ c, Lawful (run c)) (owner : Option Nat) (acts : List ReactiveAct) :
    Reachable (outcome (performAll run owner acts) s).2 := by
  induction acts generalizing s with
  | nil => exact h
  | cons a acts ih =>
    have hact := h.act hrun owner a
    rw [performAll, outcome_bind]
    cases hout : outcome (perform run owner a) s with
    | mk r t =>
      rw [hout] at hact
      cases r with
      | error e => exact hact
      | ok _ => exact ih hact

theorem sound_of_reachable {s : ReactiveState} (h : Reachable s) : s.Sound := by
  have hsound := respected_sound
  induction h with
  | start => exact ReactiveState.sound_empty
  | act hrun owner a _ ih => exact hsound.perform (fun c s => hrun c _ hsound s) owner _ a ih
  | depend hd hc _ ih => exact ih.depend hd hc
  | stop c _ ih => exact hsound.stop _ c ih
  | run hrun c _ ih => exact hrun c _ hsound _ ih
  | invalidate hrun c _ ih => exact hsound.invalidate (fun c s => hrun c _ hsound s) c _ ih
  | notify hrun d _ ih => exact hsound.notify (fun c s => hrun c _ hsound s) d _ ih
  | tell e _ ih => exact hsound.tell _ e ih
  | detach hc _ ih => exact hsound.detach hc ih
  | enter hc _ ih => exact ih.enter (Graph.lt_of_canRun hc)
  | leave _ ih => exact ih.leave

/-- **In every reachable state the two directions of the graph agree, and there is always something
to take off.** -/
theorem linked_of_reachable {s : ReactiveState} (h : Reachable s) :
    s.graph.Linked ∧ ∀ c, s.graph.detach? c = some (s.graph.detach c) :=
  ⟨(sound_of_reachable h).linked, Graph.detach?_eq_some (sound_of_reachable h).linked⟩

/-- A body that is under way has read a dependency. -/
theorem linked_in_body : ∃ s, Reachable s ∧ s.graph.stack = [0] ∧ s.graph.dependentsOf 0 = [0] ∧
    s.graph.Linked ∧ ∀ c, s.graph.detach? c = some (s.graph.detach c) := by
  have hmade := Reachable.start.acts (lawful_runTo 0) none
    [.dependency "language", .computation "greeting" []]
  have hbody := (hmade.enter (c := 0) (by rfl)).act (lawful_runTo 0) (some 0)
    (.depend "language" none)
  exact ⟨_, hbody, by rfl, by rfl, linked_of_reachable hbody⟩

end Wording
