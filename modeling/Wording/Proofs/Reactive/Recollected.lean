import Wording.Proofs.Reactive.Readers

/-!
# What a run puts down

A computation that takes its turn is taken off its dependencies and runs. While it runs it is
neither taken off them again nor run within itself, whatever the runs within its own do; so what it
depends on behind its run is what it has read in this run, each dependency where it was read first,
and nothing that only earlier runs have read.

* `respected_within`: what acts do leaves running what runs
* `History.dependenciesOf_within`: what a running computation has come to depend on
* `dependencies_recollected`: what a computation depends on behind its turn
-/

namespace Wording

open Reactive

/-! ## What happens within a run -/

/-- Changes that lead from one graph to another, the last one first, while all that ran in the first
one runs on. -/
inductive Graph.Within (g : Graph ScriptBody) : List Change → Graph ScriptBody → Prop
  | nil : Within g [] g
  | cons {during : List Change} {g' : Graph ScriptBody} (h : Within g during g') {x : Change}
    (hx : x.Allowed g')
    (hrunning : ∀ c, g.isRunning c = true → (x.apply g').isRunning c = true) :
    Within g (x :: during) (x.apply g')

/-- The dependencies that a computation reads in the course of changes behind a history, as the
active computation or by its name; the first reading first. -/
def readings (c : Nat) (past : List Change) : List Change → List Nat
  | [] => []
  | .depend d i :: during =>
    if i.or (register (during ++ past)).active = some c then readings c past during ++ [d]
    else readings c past during
  | _ :: during => readings c past during

namespace Graph

variable {g g' g'' : Graph ScriptBody} {during later : List Change} {c : Nat}

theorem Within.follows (h : g.Within during g') : g.Follows during g' := by
  induction h with
  | nil => exact .nil
  | cons _ hx _ ih => exact .cons ih hx

theorem Within.isRunning (h : g.Within during g') (hc : g.isRunning c = true) :
    g'.isRunning c = true := by
  cases h with
  | nil => exact hc
  | cons _ _ hrunning => exact hrunning c hc

theorem Within.append (h : g.Within during g') (h' : g'.Within later g'') :
    g.Within (later ++ during) g'' := by
  induction h' with
  | nil => exact h
  | cons _ hx hrunning ih => exact .cons ih hx fun c hc => hrunning c (h.isRunning hc)

/-- What runs is still running behind what leaves runs as they are. -/
theorem Steady.isRunning_of_isRunning {β : Type} {g g' : Graph β} (h : g.Steady g') {c : Nat}
    (hc : g.isRunning c = true) : g'.isRunning c = true := by
  rcases Nat.lt_or_ge c g.computations.size with hlt | hge
  · rw [h.isRunning c hlt, hc]
  · rw [isRunning_of_size_le hge] at hc
    cases hc

theorem Within.one {x : Change} (hx : x.Allowed g) (h : g.Steady (x.apply g)) :
    g.Within [x] (x.apply g) := .cons .nil hx fun _ => h.isRunning_of_isRunning

/-- **A run that begins and ends leaves running what runs around it.** -/
theorem Within.run (hc : g.canRun c = true) (h : (g.enter c).Within during g')
    (hsteady : (g.enter c).Steady g') : g.Within (.leave :: (during ++ [.enter c])) g'.leave := by
  have hstack : g'.stack = c :: g.stack := hsteady.stack
  -- Around the run another computation runs.
  have hne {c' : Nat} (hc' : g.isRunning c' = true) : c ≠ c' := by
    rintro rfl
    rw [not_running_of_canRun hc] at hc'
    cases hc'
  have henter : g.Within [.enter c] (g.enter c) := .cons .nil (x := .enter c) hc fun c' hc' =>
    (isRunning_enter_of_ne (hne hc')).trans hc'
  have hbefore := henter.append h
  refine .cons hbefore (x := .leave) (by simp [Change.Allowed, hstack]) fun c' hc' => ?_
  rw [Change.apply, isRunning_leave hstack, if_neg (hne hc')]
  exact hbefore.isRunning hc'

end Graph

/-- **What acts do in a sound state is a list of changes of its graph, while all that runs runs
on.** -/
theorem respected_within : Respected fun s t =>
    s.Sound → t.Sound ∧ s.graph.Steady t.graph ∧ ∃ during, s.graph.Within during t.graph where
  refl s hs := ⟨hs, .refl s.graph, [], .nil⟩
  trans h h' hs := by
    obtain ⟨ht, hsteady, during, hduring⟩ := h hs
    obtain ⟨hu, hsteady', later, hlater⟩ := h' ht
    exact ⟨hu, hsteady.trans hsteady', _, hduring.append hlater⟩
  tell s e hs := ⟨respected_sound.tell s e hs, .refl s.graph, [], .nil⟩
  newDependency s name hs :=
    have hsteady := respected_steady.newDependency s name
    ⟨respected_sound.newDependency s name hs, hsteady, _,
      .one (x := .newDependency) trivial hsteady⟩
  newComputation s body hs :=
    have hsteady := respected_steady.newComputation s body
    ⟨respected_sound.newComputation s body hs, hsteady, _,
      .one (x := .newComputation body) trivial hsteady⟩
  depend {s d c} hd hc hs :=
    have hsteady := respected_steady.depend hd hc
    ⟨respected_sound.depend hd hc hs, hsteady, _,
      .one (x := .depend d c) ⟨hs.lt_of_knows hd, hc⟩ hsteady⟩
  stop s c hs := by
    have hsteady := respected_steady.stop s c
    refine ⟨respected_sound.stop s c hs, hsteady, ?_⟩
    by_cases hc : c < s.graph.computations.size
    · exact ⟨_, .one (x := .stop c) hc hsteady⟩
    · refine ⟨[], ?_⟩
      show s.graph.Within [] (s.graph.stop c)
      rw [Graph.stop_of_size_le (Nat.le_of_not_lt hc)]
      exact .nil
  detach {s c} hc hs :=
    have hsteady := respected_steady.detach hc
    ⟨respected_sound.detach hc hs, hsteady, _, .one (x := .detach c) hc hsteady⟩
  run {s t c} hc ht hs := by
    obtain ⟨hsound, hsteady, during, hduring⟩ := ht (hs.enter (Graph.lt_of_canRun hc))
    exact ⟨hsound.leave, Graph.steady_run hc hsteady, _, .run hc hduring hsteady⟩

/-! ## What changes do to a running computation -/

namespace Graph

variable {β : Type} {g : Graph β}

theorem dependenciesOf_modify_of_eq {f : Computation β → Computation β}
    (hf : ∀ k, (f k).dependencies = k.dependencies) (c c' : Nat) :
    (g.modify c f).dependenciesOf c' = g.dependenciesOf c' := by
  rw [dependenciesOf, map_modify hf, dependenciesOf]

theorem dependenciesOf_newComputation (body : β) (c : Nat) :
    (g.newComputation body).2.dependenciesOf c = g.dependenciesOf c := by
  simp only [newComputation, dependenciesOf, Array.getElem?_push]
  by_cases hc : c = g.computations.size
  · simp [hc]
  · rw [if_neg hc]

theorem dependenciesOf_enter (c c' : Nat) : (g.enter c).dependenciesOf c' = g.dependenciesOf c' :=
  dependenciesOf_modify_of_eq (f := fun k => { k with runs := k.runs + 1, running := true })
    (fun _ => rfl) c c'

theorem dependenciesOf_leave (g : Graph β) (c : Nat) :
    g.leave.dependenciesOf c = g.dependenciesOf c := by
  cases hs : g.stack with
  | nil => rw [leave_of_nil hs]
  | cons c' rest =>
    rw [leave_of_cons hs]
    exact dependenciesOf_modify_of_eq (f := fun k => { k with running := false }) (fun _ => rfl)
      c' c

theorem dependenciesOf_stop {c c' : Nat} (hc : c ≠ c') :
    (g.stop c).dependenciesOf c' = g.dependenciesOf c' := by
  rw [stop, dependenciesOf_detach, if_neg hc]
  exact dependenciesOf_modify_of_eq (f := fun k => { k with stopped := true }) (fun _ => rfl) c c'

end Graph

namespace History

variable {past during : List Change} {g g' : Graph ScriptBody} {c : Nat}

/-- **What is read is put at the end**, unless it has been read before. -/
theorem dependenciesOf_depend (h : History past g) {d : Nat} {i : Option Nat}
    (hx : (Change.depend d i).Allowed g) (c : Nat) :
    (g.depend d i).2.dependenciesOf c =
      if i.or (register past).active = some c then Graph.append (g.dependenciesOf c) d
      else g.dependenciesOf c := by
  rw [← active?_eq h, Graph.depend]
  cases hi : i.or g.active? with
  | none => rw [if_neg (Option.some_ne_none c).symm]
  | some c' =>
    have hc' : c' < g.computations.size := lt_size_of_depend h hx c' hi
    rw [Graph.dependenciesOf_link (linked h) hc']
    by_cases hcc : c' = c
    · subst hcc
      rw [if_pos rfl, if_pos rfl]
    · rw [if_neg hcc, if_neg fun he => hcc (Option.some.inj he)]

/-- Changes other than readings leave the dependencies of a computation that runs as they are,
unless they stop it. -/
theorem dependenciesOf_apply (hrunning : g.isRunning c = true) {x : Change} (hx : x.Allowed g)
    (hdepend : ∀ d i, x ≠ .depend d i) (hstop : x ≠ .stop c) :
    (x.apply g).dependenciesOf c = g.dependenciesOf c := by
  cases x with
  | newDependency => rfl
  | newComputation body => exact Graph.dependenciesOf_newComputation body c
  | depend d i => exact absurd rfl (hdepend d i)
  | stop c' => exact Graph.dependenciesOf_stop fun he => hstop (he ▸ rfl)
  | detach c' =>
    -- What is taken off its dependencies can run, so it does not run yet.
    have hne : c' ≠ c := by
      rintro rfl
      rw [Graph.not_running_of_canRun hx] at hrunning
      cases hrunning
    rw [Change.apply, Graph.dependenciesOf_detach, if_neg hne]
  | enter c' => exact Graph.dependenciesOf_enter c' c
  | leave => exact Graph.dependenciesOf_leave g c

theorem eraseDups_concat (ds : List Nat) (d : Nat) :
    (ds ++ [d]).eraseDups = Graph.append ds.eraseDups d := by
  rw [List.eraseDups_append]
  by_cases hd : d ∈ ds
  · rw [Graph.append_of_mem (List.mem_eraseDups.mpr hd)]
    simp [List.removeAll, hd]
  · rw [Graph.append_of_not_mem fun h => hd (List.mem_eraseDups.mp h)]
    have hone : [d].removeAll ds = [d] := by simp [List.removeAll, hd]
    rw [hone]
    rfl

/-- **While a computation runs it comes to depend on what it reads**, each dependency where it is
read first. -/
theorem dependenciesOf_within (hg : History past g) (hrunning : g.isRunning c = true)
    (hnone : g.dependenciesOf c = []) (h : g.Within during g') (hstop : .stop c ∉ during) :
    g'.dependenciesOf c = (readings c past during).eraseDups := by
  induction h with
  | nil => simpa [readings] using hnone
  | @cons during g' h x hx _ ih =>
    rw [List.mem_cons, not_or] at hstop
    have hbefore := ih hstop.2
    have hother (hdepend : ∀ d i, x ≠ .depend d i) :
        (x.apply g').dependenciesOf c = (readings c past during).eraseDups :=
      (dependenciesOf_apply (h.isRunning hrunning) hx hdepend (Ne.symm hstop.1)).trans hbefore
    cases x with
    | depend d i =>
      have hhistory : History (during ++ past) g' := hg.append h.follows
      rw [Change.apply, dependenciesOf_depend hhistory hx, readings, hbefore]
      split
      · rw [eraseDups_concat]
      · rfl
    | newDependency | newComputation | stop | detach | enter | leave =>
      refine hother fun d i h => ?_
      cases h

end History

/-! ## A turn -/

/-- A turn of a computation that can run: it is taken off its dependencies, and its body is
performed between the two ends of a run. -/
theorem outcome_invalidate {body : Nat → Reactive Unit} {s : ReactiveState} {c : Nat}
    (hc : s.graph.canRun c = true) :
    outcome (invalidate (runWith body) c) s =
      match outcome (body c) ((s.onGraph (·.detach c)).onGraph (·.enter c)) with
      | (r, u) => (r, u.onGraph (·.leave)) := by
  rw [invalidate, outcome_get_bind, if_pos hc, Reactive.onGraph, outcome_modify_bind]
  exact outcome_runWith (s := s.onGraph (·.detach c)) (Graph.canRun_detach hc)

/-- **What a computation depends on behind its turn.** From every reachable state a computation that
is neither stopped nor running takes its turn, whatever the bodies are, and whether its own ends or
fails. If it has not been stopped, it then depends on what it has read in this run, as the active
computation or by its name, each dependency once and where it was read first; and it is put down
once by each of them, and by no other dependency. That holds whatever has led to the state and by
whatever changes the run has come to its end. -/
theorem dependencies_recollected {body : Nat → Reactive Unit} (hbody : ∀ c, Lawful (body c))
    {s t : ReactiveState} {c : Nat} {r : Except ReactiveError Unit} (hs : Reachable s)
    (hc : s.graph.canRun c = true) (h : outcome (invalidate (runWith body) c) s = (r, t))
    (hstopped : t.graph.isStopped c = false) :
    ∃ u, outcome (body c) ((s.onGraph (·.detach c)).onGraph (·.enter c)) = (r, u) ∧
      t = u.onGraph (·.leave) ∧
      (∃ past, History past s.graph) ∧
      (∃ during, ((s.graph.detach c).enter c).Within during u.graph) ∧
      (∀ past during, History past s.graph →
        ((s.graph.detach c).enter c).Within during u.graph →
        t.graph.dependenciesOf c =
          (readings c (.enter c :: .detach c :: past) during).eraseDups) ∧
      ∀ d, (t.graph.dependentsOf d).count c = if d ∈ t.graph.dependenciesOf c then 1 else 0 := by
  have hcan : (s.graph.detach c).canRun c = true := Graph.canRun_detach hc
  have hbegun : Reachable ((s.onGraph (·.detach c)).onGraph (·.enter c)) :=
    (hs.detach hc).enter hcan
  obtain ⟨-, -, hduring⟩ := hbody c _ respected_within _ (sound_of_reachable hbegun)
  rw [outcome_invalidate hc] at h
  cases hout : outcome (body c) ((s.onGraph (·.detach c)).onGraph (·.enter c)) with
  | mk r' u =>
    rw [hout] at h hduring
    cases h
    refine ⟨u, rfl, rfl, exists_history hs, hduring, fun past during hpast hwithin => ?_,
      fun d => ?_⟩
    · have hhistory : History (.enter c :: .detach c :: past) ((s.graph.detach c).enter c) :=
        .cons (.cons hpast (x := .detach c) hc) (x := .enter c) hcan
      have hrunning : ((s.graph.detach c).enter c).isRunning c = true :=
        Graph.isRunning_enter (Graph.lt_of_canRun hcan)
      have hnone : ((s.graph.detach c).enter c).dependenciesOf c = [] := by
        rw [Graph.dependenciesOf_enter, Graph.dependenciesOf_detach, if_pos rfl]
      have hstop : .stop c ∉ during := by
        intro hmem
        have hmark := (History.isStopped_iff (hhistory.append hwithin.follows) c).mpr
          (List.mem_append_left _ hmem)
        have hleave : u.graph.leave.isStopped c = false := hstopped
        rw [Graph.isStopped_leave, hmark] at hleave
        cases hleave
      show u.graph.leave.dependenciesOf c = _
      rw [Graph.dependenciesOf_leave]
      exact hhistory.dependenciesOf_within hrunning hnone hwithin hstop
    · have hend := Reachable.run hbody c hbegun
      rw [hout] at hend
      have hlinked : u.graph.leave.Linked := (linked_of_reachable hend.leave).1
      show (u.graph.leave.dependentsOf d).count c =
        if d ∈ u.graph.leave.dependenciesOf c then 1 else 0
      rw [(hlinked.dependents_nodup d).count]
      simp only [hlinked.mem_iff]

/-- A computation reads the language in its first run; in its second run it reads the theme, runs
another computation that reads the language, reads the theme again, and fails. -/
def fickleReader : ReactiveState :=
  (outcome (performAll (runTo 1) none
    [.dependency "language", .dependency "theme", .computation "other" [.depend "language" none],
      .autorun "greeting" [.onRun 1 [.depend "language" none],
        .onRun 2 [.depend "theme" none, .run (some "other"), .depend "theme" (some "greeting"),
          .fail .value]]]) .empty).2

/-- The second run leaves it depending on the theme alone. -/
theorem dependencies_recollected_fickleReader : fickleReader.graph.dependenciesOf 1 = [0] ∧
    ∃ r t, outcome (invalidate (runWith (script (runTo 1))) 1) fickleReader = (r, t) ∧
      r.isOk = false ∧ t.graph.isStopped 1 = false ∧ t.graph.dependenciesOf 1 = [1] ∧
      ∃ past during, History past fickleReader.graph ∧
        (readings 1 (.enter 1 :: .detach 1 :: past) during).eraseDups = [1] := by
  have hreach : Reachable fickleReader := Reachable.start.acts (lawful_runTo 1) none _
  let turn := outcome (invalidate (runWith (script (runTo 1))) 1) fickleReader
  have hstopped : turn.2.graph.isStopped 1 = false := by decide +kernel
  have hread : turn.2.graph.dependenciesOf 1 = [1] := by decide +kernel
  obtain ⟨u, -, -, ⟨past, hpast⟩, ⟨during, hduring⟩, hexact, -⟩ := dependencies_recollected
    (lawful_script (lawful_runTo 1)) hreach (by decide +kernel) (r := turn.1) (t := turn.2) rfl
    hstopped
  exact ⟨by decide +kernel, turn.1, turn.2, rfl, by decide +kernel, hstopped, hread, past, during,
    hpast, (hexact past during hpast hduring).symm.trans hread⟩

end Wording
