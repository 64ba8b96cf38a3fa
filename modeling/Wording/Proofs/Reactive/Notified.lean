import Wording.Proofs.Reactive.Reachable

/-!
# No notification is lost

A change of a dependency takes its turns over the computations that depended on it when it began.
Runs in between may stop some of these, or run them, and end. What they cannot do is to leave one
running that was not running before (`Steady`), so that a turn is passed over for no other reason
than that the computation is stopped.

* `respected_steady`: acts leave what runs as it is
* `notified`: what becomes of each computation that depended on what has changed
-/

namespace Wording

open Reactive

namespace Graph

variable {β : Type} {g g' g'' : Graph β} {c : Nat}

/-! ## Steady graphs -/

/-- The same computations run as before, and nothing that has been done is undone. -/
structure Steady (g g' : Graph β) : Prop where
  size : g.computations.size ≤ g'.computations.size
  stack : g'.stack = g.stack
  isRunning : ∀ c < g.computations.size, g'.isRunning c = g.isRunning c
  runsOf_le : ∀ c, g.runsOf c ≤ g'.runsOf c

theorem Steady.refl (g : Graph β) : g.Steady g :=
  ⟨Nat.le_refl _, rfl, fun _ _ => rfl, fun _ => Nat.le_refl _⟩

theorem Steady.trans (h : g.Steady g') (h' : g'.Steady g'') : g.Steady g'' where
  size := Nat.le_trans h.size h'.size
  stack := h'.stack.trans h.stack
  isRunning c hc := (h'.isRunning c (Nat.lt_of_lt_of_le hc h.size)).trans (h.isRunning c hc)
  runsOf_le c := Nat.le_trans (h.runsOf_le c) (h'.runsOf_le c)

theorem isRunning_eq (g : Graph β) (c : Nat) :
    g.isRunning c = (g.computations[c]?.map (·.running)).getD false := by
  unfold isRunning
  cases g.computations[c]? <;> rfl

theorem isStopped_eq (g : Graph β) (c : Nat) :
    g.isStopped c = (g.computations[c]?.map (·.stopped)).getD false := by
  unfold isStopped
  cases g.computations[c]? <;> rfl

/-- Changes that leave runs alone. -/
theorem Steady.of_eq (hs : g'.stack = g.stack)
    (hsize : g'.computations.size = g.computations.size)
    (hrunning : ∀ c, g'.isRunning c = g.isRunning c) (hruns : ∀ c, g'.runsOf c = g.runsOf c) :
    g.Steady g' where
  size := Nat.le_of_eq hsize.symm
  stack := hs
  isRunning c _ := hrunning c
  runsOf_le c := Nat.le_of_eq (hruns c).symm

theorem isRunning_modify {f : Computation β → Computation β} (hf : ∀ k, (f k).running = k.running)
    (c c' : Nat) : (g.modify c f).isRunning c' = g.isRunning c' := by
  rw [isRunning_eq, isRunning_eq, map_modify hf]

theorem isStopped_modify {f : Computation β → Computation β} (hf : ∀ k, (f k).stopped = k.stopped)
    (c c' : Nat) : (g.modify c f).isStopped c' = g.isStopped c' := by
  rw [isStopped_eq, isStopped_eq, map_modify hf]

theorem runsOf_modify {f : Computation β → Computation β} (hf : ∀ k, (f k).runs = k.runs)
    (c c' : Nat) : (g.modify c f).runsOf c' = g.runsOf c' := by
  unfold runsOf
  rw [map_modify hf]

theorem steady_modify {f : Computation β → Computation β} (c : Nat)
    (hrunning : ∀ k, (f k).running = k.running) (hruns : ∀ k, (f k).runs = k.runs) :
    g.Steady (g.modify c f) :=
  .of_eq rfl (size_modify c f) (isRunning_modify hrunning c) (runsOf_modify hruns c)

theorem steady_newDependency (g : Graph β) : g.Steady g.newDependency.2 :=
  .of_eq rfl rfl (fun _ => rfl) fun _ => rfl

theorem steady_newComputation (g : Graph β) (body : β) : g.Steady (g.newComputation body).2 where
  size := by simp [newComputation]
  stack := rfl
  isRunning c hc := by
    simp only [isRunning, newComputation, Array.getElem?_push, Nat.ne_of_lt hc, if_false]
  runsOf_le c := by
    simp only [runsOf, newComputation, Array.getElem?_push]
    by_cases hc : c = g.computations.size
    · simp [hc]
    · exact Nat.le_of_eq (by rw [if_neg hc])

theorem steady_link (d c : Nat) : g.Steady (g.link d c) := by
  unfold link
  split
  · exact .refl g
  · have hm : g.Steady { g with dependents := g.dependents.modify d (· ++ [c]) } :=
      .of_eq rfl rfl (fun _ => rfl) fun _ => rfl
    exact hm.trans (steady_modify c (fun _ => rfl) fun _ => rfl)

theorem steady_depend (d : Nat) (c : Option Nat) : g.Steady (g.depend d c).2 := by
  unfold depend
  cases c.or g.active? with
  | none => exact .refl g
  | some c => exact steady_link d c

theorem steady_detach (c : Nat) : g.Steady (g.detach c) := by
  have hm : g.Steady { g with dependents :=
      (g.dependenciesOf c).foldl (fun ds d => ds.modify d (·.erase c)) g.dependents } :=
    .of_eq rfl rfl (fun _ => rfl) fun _ => rfl
  exact hm.trans (steady_modify c (fun _ => rfl) fun _ => rfl)

theorem steady_stop (c : Nat) : g.Steady (g.stop c) := by
  have hm : g.Steady (g.modify c fun k => { k with stopped := true }) :=
    steady_modify c (fun _ => rfl) fun _ => rfl
  exact hm.trans (steady_detach c)

/-! ## The two ends of a run -/

theorem not_running_of_canRun (h : g.canRun c = true) : g.isRunning c = false := by
  simp only [canRun, Bool.and_eq_true, Bool.not_eq_true'] at h
  exact h.2

/-- A computation that can run still can when it has been taken off its dependencies. -/
theorem canRun_detach (h : g.canRun c = true) : (g.detach c).canRun c = true := by
  have hsteady : g.Steady (g.detach c) := steady_detach c
  have hstopped : (g.detach c).isStopped c = g.isStopped c :=
    isStopped_modify (f := fun k => { k with dependencies := [] }) (fun _ => rfl) c c
  have hsize : (g.detach c).computations.size = g.computations.size :=
    (keeps_detach c).computations_size
  unfold canRun at h ⊢
  rwa [hstopped, hsize, hsteady.isRunning c (lt_of_canRun h)]

theorem isRunning_enter_of_ne {c' : Nat} (hc : c ≠ c') :
    (g.enter c).isRunning c' = g.isRunning c' := by
  unfold enter modify isRunning
  dsimp only
  rw [Array.getElem?_modify, if_neg hc]

theorem runsOf_enter (c c' : Nat) (hc : c < g.computations.size) :
    (g.enter c).runsOf c' = g.runsOf c' + if c = c' then 1 else 0 := by
  unfold enter modify runsOf
  dsimp only
  rw [Array.getElem?_modify]
  by_cases he : c = c'
  · subst he
    simp [hc]
  · rw [if_neg he, if_neg he, Nat.add_zero]

theorem runsOf_leave (g : Graph β) (c : Nat) : g.leave.runsOf c = g.runsOf c := by
  cases hs : g.stack with
  | nil => rw [leave_of_nil hs]
  | cons c' rest =>
    have hm : (g.modify c' fun k => { k with running := false }).runsOf c = g.runsOf c :=
      runsOf_modify (f := fun k => { k with running := false }) (fun _ => rfl) c' c
    rw [leave_of_cons hs]
    exact hm

theorem size_leave (g : Graph β) : g.leave.computations.size = g.computations.size := by
  cases hs : g.stack with
  | nil => rw [leave_of_nil hs]
  | cons c rest =>
    rw [leave_of_cons hs]
    exact size_modify c _

theorem isRunning_leave {rest : List Nat} (hs : g.stack = c :: rest) (c' : Nat) :
    g.leave.isRunning c' = if c = c' then false else g.isRunning c' := by
  rw [leave_of_cons hs]
  unfold modify isRunning
  dsimp only
  rw [Array.getElem?_modify]
  by_cases he : c = c'
  · rw [if_pos he, if_pos he]
    cases g.computations[c']? <;> rfl
  · rw [if_neg he, if_neg he]

/-- **A run leaves what runs as it was before the run began.** -/
theorem steady_run (hc : g.canRun c = true) (h : (g.enter c).Steady g') : g.Steady g'.leave where
  size := by
    have hsize : g.computations.size ≤ g'.computations.size := by simpa [enter] using h.size
    rwa [size_leave]
  stack := by
    have hs : g'.stack = c :: g.stack := h.stack
    rw [leave_of_cons hs]
  isRunning c' hc' := by
    -- What has begun within the run has ended, so that the run that ends is the one of `c`.
    have hs : g'.stack = c :: g.stack := h.stack
    rw [isRunning_leave hs]
    by_cases he : c = c'
    · rw [if_pos he, ← he, not_running_of_canRun hc]
    · rw [if_neg he, h.isRunning c' (by simpa [enter] using hc'), isRunning_enter_of_ne he]
  runsOf_le c' := by
    have hle := h.runsOf_le c'
    rw [runsOf_enter c c' (lt_of_canRun hc)] at hle
    rw [runsOf_leave]
    omega

/-- A run counts. -/
theorem runsOf_lt_of_run (hc : g.canRun c = true) (h : (g.enter c).Steady g') :
    g.runsOf c < g'.leave.runsOf c := by
  have hle := h.runsOf_le c
  rw [runsOf_enter c c (lt_of_canRun hc), if_pos rfl] at hle
  rw [runsOf_leave]
  omega

end Graph

/-! ## Acts -/

/-- **Whatever acts are performed, the same computations run behind them as before.** -/
theorem respected_steady : Respected fun s t => s.graph.Steady t.graph where
  refl s := .refl s.graph
  trans h h' := h.trans h'
  tell s _ := .refl s.graph
  newDependency s _ := Graph.steady_newDependency s.graph
  newComputation s body := Graph.steady_newComputation s.graph body
  depend {_ d c} _ _ := Graph.steady_depend d c
  stop _ c := Graph.steady_stop c
  detach {_ c} _ := Graph.steady_detach c
  run hc h := Graph.steady_run hc h

variable {body : Nat → Reactive Unit} {s t : ReactiveState} {c d : Nat}

/-- A computation that can run and is run to its end has begun a run. -/
theorem runsOf_lt_of_runWith (hbody : Lawful (body c)) (hc : s.graph.canRun c = true)
    (h : outcome (runWith body c) s = (.ok (), t)) : s.graph.runsOf c < t.graph.runsOf c := by
  have hsteady := hbody _ respected_steady (s.onGraph (·.enter c))
  rw [outcome_runWith hc] at h
  cases hout : outcome (body c) (s.onGraph (·.enter c)) with
  | mk r u =>
    rw [hout] at h hsteady
    cases h
    exact Graph.runsOf_lt_of_run hc hsteady

/-- A turn of a computation that can run begins a run of it. -/
theorem runsOf_lt_of_invalidate (hbody : Lawful (body c)) (hc : s.graph.canRun c = true)
    (h : outcome (invalidate (runWith body) c) s = (.ok (), t)) :
    s.graph.runsOf c < t.graph.runsOf c := by
  rw [invalidate, outcome_get_bind, if_pos hc, Reactive.onGraph, outcome_modify_bind] at h
  let u := s.onGraph (·.detach c)
  have hsteady : s.graph.Steady u.graph := Graph.steady_detach c
  have hcan : u.graph.canRun c = true := Graph.canRun_detach hc
  have hlt : u.graph.runsOf c < t.graph.runsOf c := runsOf_lt_of_runWith hbody hcan h
  exact Nat.lt_of_le_of_lt (hsteady.runsOf_le c) hlt

/-! ## Turns -/

/-- Turns are taken one after the other. -/
theorem exists_of_invalidateAll_append {run : Nat → Reactive Unit} {before after : List Nat}
    (h : outcome (invalidateAll run (before ++ after)) s = (.ok (), t)) :
    ∃ u, outcome (invalidateAll run before) s = (.ok (), u) ∧
      outcome (invalidateAll run after) u = (.ok (), t) := by
  induction before generalizing s with
  | nil => exact ⟨s, rfl, h⟩
  | cons c before ih =>
    rw [List.cons_append, invalidateAll] at h
    obtain ⟨_, v, hturn, h⟩ := exists_of_outcome_bind_eq_ok h
    obtain ⟨u, hbefore, hafter⟩ := ih h
    have hcons : outcome (invalidateAll run (c :: before)) s = (.ok (), u) := by
      rw [invalidateAll, outcome_bind_of_ok hturn, hbefore]
    exact ⟨u, hcons, hafter⟩

/-- **No notification is lost.** When a change of a dependency has been told to its end, each
computation that depended on it when the change began has begun a run, or was running then, or was
stopped before its turn; whatever the bodies are that run in the meantime. -/
theorem notified (hbody : ∀ c, Lawful (body c)) (hs : Reachable s)
    (hc : c ∈ s.graph.dependentsOf d)
    (h : outcome (notify (runWith body) d) s = (.ok (), t)) :
    s.graph.runsOf c < t.graph.runsOf c ∨ s.graph.isRunning c = true ∨
      ∃ before after u, s.graph.dependentsOf d = before ++ c :: after ∧
        outcome (invalidateAll (runWith body) before) s = (.ok (), u) ∧
        u.graph.isStopped c = true := by
  have hrun := fun c s => lawful_runWith hbody c _ respected_steady s
  have hlt : c < s.graph.computations.size := (sound_of_reachable hs).linked.lt_size hc
  obtain ⟨before, after, hsplit⟩ := List.append_of_mem hc
  rw [notify, outcome_get_bind, hsplit] at h
  obtain ⟨u, hu, h⟩ := exists_of_invalidateAll_append h
  rw [invalidateAll] at h
  obtain ⟨_, v, hv, h⟩ := exists_of_outcome_bind_eq_ok h
  have hbefore : s.graph.Steady u.graph := by
    simpa [hu] using respected_steady.invalidateAll hrun before s
  have hafter : v.graph.Steady t.graph := by
    simpa [h] using respected_steady.invalidateAll hrun after v
  by_cases hcan : u.graph.canRun c = true
  · left
    calc s.graph.runsOf c
        ≤ u.graph.runsOf c := hbefore.runsOf_le c
      _ < v.graph.runsOf c := runsOf_lt_of_invalidate (hbody c) hcan hv
      _ ≤ t.graph.runsOf c := hafter.runsOf_le c
  · right
    by_cases hstopped : u.graph.isStopped c = true
    · exact .inr ⟨before, after, u, hsplit, hu, hstopped⟩
    · -- What is passed over without being stopped has been running all along.
      left
      rw [← hbefore.isRunning c hlt]
      have hltu : c < u.graph.computations.size := Nat.lt_of_lt_of_le hlt hbefore.size
      simpa [Graph.canRun, hltu, hstopped] using hcan

/-- Two computations depend on a language; when it changes, the first stops the second. -/
def twoReaders : ReactiveState :=
  (outcome (performAll (runTo 1) none
    [.dependency "language",
      .autorun "first" [.depend "language" none, .onRun 2 [.stop (some "second")]],
      .autorun "second" [.depend "language" none]]) .empty).2

theorem notified_twoReaders : twoReaders.graph.dependentsOf 0 = [0, 1] ∧
    ∃ t, outcome (notify (runWith (script (runTo 0))) 0) twoReaders = (.ok (), t) ∧
      (twoReaders.graph.runsOf 1 < t.graph.runsOf 1 ∨ twoReaders.graph.isRunning 1 = true ∨
        ∃ before after u, twoReaders.graph.dependentsOf 0 = before ++ 1 :: after ∧
          outcome (invalidateAll (runWith (script (runTo 0))) before) twoReaders = (.ok (), u) ∧
          u.graph.isStopped 1 = true) := by
  have hreach : Reachable twoReaders := Reachable.start.acts (lawful_runTo 1) none _
  have hreaders : twoReaders.graph.dependentsOf 0 = [0, 1] := by rfl
  obtain ⟨_, t, hout⟩ := exists_of_isOk (m := notify (runWith (script (runTo 0))) 0)
    (s := twoReaders) (by decide +kernel)
  exact ⟨hreaders, t, hout, notified (lawful_script (lawful_runTo 0)) hreach (by rw [hreaders]; simp) hout⟩

end Wording
