import Wording.Proofs.Reactive.Notified

/-!
# What has been done to a graph

A graph tells what it has come to, not how it has come to that. A history lists the changes that have
been made to the empty graph, the last one first; every reachable state has one
(`exists_history`). What may be made of a change is read off the graph before it (`Change.Allowed`),
so that what a history tells about one of its changes holds at the time of this change
(`History.of_suffix`).

* `exists_history`: reachable states have histories
* `History.isStopped_iff`: a computation is stopped if it has been stopped
-/

namespace Wording

open Reactive

/-- A change of a graph: an operation on it, or an end of a run. -/
inductive Change where
  | newDependency
  | newComputation (body : ScriptBody)
  /-- A dependency is read, by the active computation unless another one is named. -/
  | depend (d : Nat) (c : Option Nat)
  | stop (c : Nat)
  | detach (c : Nat)
  | enter (c : Nat)
  | leave

namespace Change

def apply : Change → Graph ScriptBody → Graph ScriptBody
  | .newDependency, g => g.newDependency.2
  | .newComputation body, g => (g.newComputation body).2
  | .depend d c, g => (g.depend d c).2
  | .stop c, g => g.stop c
  | .detach c, g => g.detach c
  | .enter c, g => g.enter c
  | .leave, g => g.leave

/-- What is read, reads or is stopped is there, only what can run is taken off its dependencies and
run, and only a run that has begun ends. -/
def Allowed (g : Graph ScriptBody) : Change → Prop
  | .depend d c => d < g.dependents.size ∧ ∀ i ∈ c, i < g.computations.size
  | .stop c => c < g.computations.size
  | .detach c | .enter c => g.canRun c = true
  | .leave => g.stack ≠ []
  | _ => True

end Change

/-! ## Histories -/

/-- Changes that lead from one graph to another, the last one first. -/
inductive Graph.Follows (g : Graph ScriptBody) : List Change → Graph ScriptBody → Prop
  | nil : Follows g [] g
  | cons {past : List Change} {g' : Graph ScriptBody} (h : Follows g past g') {x : Change}
    (hx : x.Allowed g') : Follows g (x :: past) (x.apply g')

/-- All that has been done to a graph, the last change first. -/
abbrev History (past : List Change) (g : Graph ScriptBody) : Prop := Graph.empty.Follows past g

namespace Graph.Follows

variable {g g' g'' : Graph ScriptBody} {past later : List Change}

theorem one {x : Change} (hx : x.Allowed g) : g.Follows [x] (x.apply g) := .cons .nil hx

theorem append (h : g.Follows past g') (h' : g'.Follows later g'') :
    g.Follows (later ++ past) g'' := by
  induction h' with
  | nil => exact h
  | cons _ hx ih => exact .cons ih hx

/-- What has led to a change has led to a graph in which the change was allowed. -/
theorem of_suffix {x : Change} (h : g.Follows past g') (hx : x :: later <:+ past) :
    ∃ g'', g.Follows later g'' ∧ x.Allowed g'' := by
  induction h with
  | nil => cases List.suffix_nil.mp hx
  | @cons past g' h y hy ih =>
    rcases List.suffix_cons_iff.mp hx with heq | hx
    · cases heq
      exact ⟨g', h, hy⟩
    · exact ih hx

end Graph.Follows

/-! ## Reachable states have histories -/

/-- Stopping what is not there changes nothing. -/
theorem Graph.stop_of_size_le {β : Type} {g : Graph β} {c : Nat}
    (hc : g.computations.size ≤ c) : g.stop c = g := by
  have hmodify (f : Computation β → Computation β) : g.modify c f = g := by
    have heq : g.computations.modify c f = g.computations := by
      refine Array.ext_getElem? fun i => ?_
      rw [Array.getElem?_modify]
      by_cases hi : c = i
      · subst hi
        rw [if_pos rfl, Array.getElem?_eq_none hc, Option.map_none]
      · rw [if_neg hi]
    rw [modify, heq]
  have hnone : g.dependenciesOf c = [] := by
    rw [dependenciesOf, Array.getElem?_eq_none hc, Option.map_none, Option.getD_none]
  rw [stop, hmodify, detach, hnone]
  exact hmodify _

/-- **What acts do to a sound state is a list of changes of its graph.** -/
theorem respected_follows : Respected fun s t =>
    s.Sound → t.Sound ∧ ∃ past, s.graph.Follows past t.graph where
  refl s hs := ⟨hs, [], .nil⟩
  trans h h' hs := by
    obtain ⟨ht, past, hpast⟩ := h hs
    obtain ⟨hu, later, hlater⟩ := h' ht
    exact ⟨hu, _, hpast.append hlater⟩
  tell s e hs := ⟨respected_sound.tell s e hs, [], .nil⟩
  newDependency s name hs :=
    ⟨respected_sound.newDependency s name hs, _, .one (x := .newDependency) trivial⟩
  newComputation s body hs :=
    ⟨respected_sound.newComputation s body hs, _, .one (x := .newComputation body) trivial⟩
  depend {s d c} hd hc hs :=
    ⟨respected_sound.depend hd hc hs, _, .one (x := .depend d c) ⟨hs.lt_of_knows hd, hc⟩⟩
  stop s c hs := by
    refine ⟨respected_sound.stop s c hs, ?_⟩
    by_cases hc : c < s.graph.computations.size
    · exact ⟨_, .one (x := .stop c) hc⟩
    · refine ⟨[], ?_⟩
      show s.graph.Follows [] (s.graph.stop c)
      rw [Graph.stop_of_size_le (Nat.le_of_not_lt hc)]
      exact .nil
  detach {s c} hc hs := ⟨respected_sound.detach hc hs, _, .one (x := .detach c) hc⟩
  run {s t c} hc ht hs := by
    have hfirst := Graph.Follows.one (x := .enter c) hc
    obtain ⟨hsound, past, hpast⟩ := ht (hs.enter (Graph.lt_of_canRun hc))
    refine ⟨hsound.leave, ?_⟩
    have hbefore := hfirst.append hpast
    by_cases hstack : t.graph.stack = []
    · refine ⟨past ++ [.enter c], ?_⟩
      show s.graph.Follows _ t.graph.leave
      rwa [Graph.leave_of_nil hstack]
    · exact ⟨_, .cons hbefore (x := .leave) hstack⟩

/-- **Every reachable state has a history.** -/
theorem exists_history {s : ReactiveState} (h : Reachable s) : ∃ past, History past s.graph := by
  have hfollows := respected_follows
  -- An operation adds what it does to the history so far.
  have hgo {s t : ReactiveState} (hs : Reachable s) (ih : ∃ past, History past s.graph)
      (ht : s.Sound → t.Sound ∧ ∃ past, s.graph.Follows past t.graph) :
      ∃ past, History past t.graph := by
    obtain ⟨past, hpast⟩ := ih
    obtain ⟨-, later, hlater⟩ := ht (sound_of_reachable hs)
    exact ⟨_, hpast.append hlater⟩
  induction h with
  | start => exact ⟨[], .nil⟩
  | act hrun owner a hs ih =>
    exact hgo hs ih (hfollows.perform (fun c s => hrun c _ hfollows s) owner _ a)
  | depend hd hc hs ih => exact hgo hs ih (hfollows.depend (.inl hd) hc)
  | stop c hs ih => exact hgo hs ih (hfollows.stop _ c)
  | run hrun c hs ih => exact hgo hs ih (hrun c _ hfollows _)
  | invalidate hrun c hs ih =>
    exact hgo hs ih (hfollows.invalidate (fun c s => hrun c _ hfollows s) c _)
  | notify hrun d hs ih => exact hgo hs ih (hfollows.notify (fun c s => hrun c _ hfollows s) d _)
  | tell e hs ih => exact ih
  | detach hc hs ih => exact hgo hs ih (hfollows.detach hc)
  | @enter s c hc hs ih =>
    obtain ⟨past, hpast⟩ := ih
    exact ⟨_, .cons hpast (x := .enter c) hc⟩
  | @leave s hs ih =>
    obtain ⟨past, hpast⟩ := ih
    by_cases hstack : s.graph.stack = []
    · refine ⟨past, ?_⟩
      show History past s.graph.leave
      rwa [Graph.leave_of_nil hstack]
    · exact ⟨_, .cons hpast (x := .leave) hstack⟩

/-! ## What has been stopped -/

namespace Graph

variable {g : Graph ScriptBody} {c c' : Nat}

theorem isStopped_stop (hc : c < g.computations.size) :
    (g.stop c).isStopped c' = (g.isStopped c' || c == c') := by
  have hdetach : (g.stop c).isStopped c' =
      (g.modify c fun k => { k with stopped := true }).isStopped c' :=
    isStopped_modify (f := fun k => { k with dependencies := [] }) (fun _ => rfl) c c'
  rw [hdetach, isStopped, modify, Array.getElem?_modify, isStopped]
  by_cases hcc : c = c'
  · subst hcc
    simp [hc]
  · simp [hcc]

theorem isStopped_leave (g : Graph ScriptBody) (c : Nat) : g.leave.isStopped c = g.isStopped c := by
  cases hs : g.stack with
  | nil => rw [leave_of_nil hs]
  | cons c' rest =>
    rw [leave_of_cons hs]
    exact isStopped_modify (f := fun k => { k with running := false }) (fun _ => rfl) c' c

theorem isStopped_depend (d : Nat) (i : Option Nat) (c : Nat) :
    (g.depend d i).2.isStopped c = g.isStopped c := by
  unfold depend
  cases i.or g.active? with
  | none => rfl
  | some i =>
    show (g.link d i).isStopped c = _
    unfold link
    split
    · rfl
    · exact isStopped_modify (f := fun k => { k with dependencies := append k.dependencies d })
        (fun _ => rfl) i c

theorem isStopped_newComputation (body : ScriptBody) (c : Nat) :
    (g.newComputation body).2.isStopped c = g.isStopped c := by
  simp only [newComputation, isStopped, Array.getElem?_push]
  by_cases hc : c = g.computations.size
  · simp [hc]
  · rw [if_neg hc]

end Graph

theorem Change.isStopped_apply {x : Change} {g : Graph ScriptBody} (hx : x.Allowed g) (c : Nat) :
    (x.apply g).isStopped c = true ↔ x = .stop c ∨ g.isStopped c = true := by
  -- Other changes leave the mark as it is.
  have hother (hne : x ≠ .stop c) (heq : (x.apply g).isStopped c = g.isStopped c) :
      (x.apply g).isStopped c = true ↔ x = .stop c ∨ g.isStopped c = true := by
    simp [hne, heq]
  cases x with
  | stop c' =>
    rw [apply, Graph.isStopped_stop hx, Bool.or_eq_true, beq_iff_eq, Change.stop.injEq, or_comm]
  | newDependency => exact hother (by simp) rfl
  | newComputation body => exact hother (by simp) (Graph.isStopped_newComputation body c)
  | depend d i => exact hother (by simp) (Graph.isStopped_depend d i c)
  | detach c' =>
    exact hother (by simp) (Graph.isStopped_modify
      (f := fun k => { k with dependencies := [] }) (fun _ => rfl) c' c)
  | enter c' =>
    exact hother (by simp) (Graph.isStopped_modify
      (f := fun k => { k with runs := k.runs + 1, running := true }) (fun _ => rfl) c' c)
  | leave => exact hother (by simp) (Graph.isStopped_leave g c)

/-- **A computation is stopped if it has been stopped, and stays so.** -/
theorem History.isStopped_iff {past : List Change} {g : Graph ScriptBody} (h : History past g)
    (c : Nat) : g.isStopped c = true ↔ .stop c ∈ past := by
  induction h with
  | nil => simp [Graph.empty, Graph.isStopped]
  | cons _ hx ih => rw [Change.isStopped_apply hx, ih, List.mem_cons, eq_comm]

end Wording
