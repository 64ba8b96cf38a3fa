import Wording.Proofs.Reactive.Notified

/-!
# Turns

A computation that takes its turn is taken off its dependencies and runs, and while it runs it reads
one dependency or none. Behind its turn the same computations run as before, and it stands at the end
of those that depend on what it has read.

* `dependentsOf_ran`, `dependentsOf_detach_ran`: who depends on what behind a run, behind a turn
* `runsOf_ran`, `entryOf_ran`: what a run leaves as it is
-/

namespace Wording.Graph

variable {β : Type} {g g' : Graph β} {c : Nat}

/-! ## What computations do -/

/-- What a computation does, and whether it is stopped. -/
def entryOf (g : Graph β) (c : Nat) : Option (β × Bool) :=
  g.computations[c]?.map fun k => (k.body, k.stopped)

theorem lt_of_entryOf {e : β × Bool} (h : g.entryOf c = some e) : c < g.computations.size := by
  obtain ⟨k, hk, -⟩ := Option.map_eq_some_iff.mp h
  exact (Array.getElem?_eq_some_iff.mp hk).1

theorem entryOf_modify {f : Computation β → Computation β} (hbody : ∀ k, (f k).body = k.body)
    (hstopped : ∀ k, (f k).stopped = k.stopped) (c c' : Nat) :
    (g.modify c f).entryOf c' = g.entryOf c' :=
  map_modify (fun k => Prod.ext (hbody k) (hstopped k)) c c'

theorem entryOf_enter (c c' : Nat) : (g.enter c).entryOf c' = g.entryOf c' :=
  entryOf_modify (f := fun k => { k with runs := k.runs + 1, running := true }) (fun _ => rfl)
    (fun _ => rfl) c c'

theorem entryOf_link (d c c' : Nat) : (g.link d c).entryOf c' = g.entryOf c' := by
  unfold link
  split
  · rfl
  · exact entryOf_modify (g := { g with dependents := g.dependents.modify d (· ++ [c]) })
      (f := fun k => { k with dependencies := append k.dependencies d }) (fun _ => rfl)
      (fun _ => rfl) c c'

theorem entryOf_leave (g : Graph β) (c : Nat) : g.leave.entryOf c = g.entryOf c := by
  cases hs : g.stack with
  | nil => rw [leave_of_nil hs]
  | cons c' rest =>
    rw [leave_of_cons hs]
    exact entryOf_modify (f := fun k => { k with running := false }) (fun _ => rfl)
      (fun _ => rfl) c' c

theorem entryOf_detach (c c' : Nat) : (g.detach c).entryOf c' = g.entryOf c' :=
  entryOf_modify (g := { g with dependents :=
      (g.dependenciesOf c).foldl (fun ds d => ds.modify d (·.erase c)) g.dependents })
    (f := fun k => { k with dependencies := [] }) (fun _ => rfl) (fun _ => rfl) c c'

theorem entryOf_stop (c c' : Nat) : (g.stop c).entryOf c' =
    if c = c' then (g.entryOf c').map fun e => (e.1, true) else g.entryOf c' := by
  rw [stop, entryOf_detach]
  unfold entryOf modify
  rw [Array.getElem?_modify]
  split
  · rw [Option.map_map, Option.map_map]
    rfl
  · rfl

theorem entryOf_newComputation (body : β) (c : Nat) : (g.newComputation body).2.entryOf c =
    if c = g.computations.size then some (body, false) else g.entryOf c := by
  unfold entryOf newComputation
  rw [Array.getElem?_push]
  split
  · rfl
  · rfl

/-- A computation that is neither stopped nor running can run. -/
theorem canRun_of_entryOf {b : β} (h : g.entryOf c = some (b, false))
    (hrunning : g.isRunning c = false) : g.canRun c = true := by
  have hlt := lt_of_entryOf h
  obtain ⟨k, hk, he⟩ := Option.map_eq_some_iff.mp h
  have hstopped : g.isStopped c = false := by
    rw [isStopped, hk]
    exact congrArg Prod.snd he
  rw [canRun, hstopped, hrunning, decide_eq_true hlt]
  rfl

/-- Where nothing ran, nothing runs behind what leaves runs as they are. -/
theorem Steady.idle (h : g.Steady g') (hsize : g'.computations.size = g.computations.size)
    (hidle : ∀ c, g.isRunning c = false) (c : Nat) : g'.isRunning c = false := by
  rcases Nat.lt_or_ge c g.computations.size with hlt | hge
  · exact (h.isRunning c hlt).trans (hidle c)
  · have hnone : g'.computations[c]? = none := Array.getElem?_eq_none (hsize ▸ hge)
    rw [Graph.isRunning, hnone]
    rfl

/-! ## A run -/

/-- A computation reads a dependency, if there is one to read. -/
def reading (g : Graph β) (c : Nat) : Option Nat → Graph β
  | none => g
  | some d => g.link d c

/-- A computation runs, and reads a dependency or none. -/
def ran (g : Graph β) (c : Nat) (d : Option Nat) : Graph β := ((g.enter c).reading c d).leave

theorem steady_reading (c : Nat) (d : Option Nat) : g.Steady (g.reading c d) := by
  cases d with
  | none => exact .refl g
  | some d => exact steady_link d c

theorem keeps_reading (c : Nat) (d : Option Nat) : g.Keeps (g.reading c d) := by
  cases d with
  | none => exact ⟨rfl, rfl, rfl⟩
  | some d => exact keeps_link d c

theorem steady_ran (hc : g.canRun c = true) (d : Option Nat) : g.Steady (g.ran c d) :=
  steady_run hc (steady_reading c d)

theorem size_ran (c : Nat) (d : Option Nat) :
    (g.ran c d).computations.size = g.computations.size := by
  rw [ran, size_leave, (keeps_reading c d).computations_size]
  exact size_modify c _

theorem dependents_leave (g : Graph β) : g.leave.dependents = g.dependents := by
  cases hs : g.stack with
  | nil => rw [leave_of_nil hs]
  | cons c rest => rw [leave_of_cons hs, modify]

theorem dependents_size_ran (c : Nat) (d : Option Nat) :
    (g.ran c d).dependents.size = g.dependents.size := by
  rw [ran, dependents_leave, (keeps_reading c d).dependents_size]
  rfl

theorem entryOf_ran (c : Nat) (d : Option Nat) (c' : Nat) :
    (g.ran c d).entryOf c' = g.entryOf c' := by
  rw [ran, entryOf_leave]
  cases d with
  | none => exact entryOf_enter c c'
  | some d => exact (entryOf_link d c c').trans (entryOf_enter c c')

/-- **A run counts once.** -/
theorem runsOf_ran (hc : c < g.computations.size) (d : Option Nat) (c' : Nat) :
    (g.ran c d).runsOf c' = g.runsOf c' + if c = c' then 1 else 0 := by
  rw [ran, runsOf_leave, ← runsOf_enter c c' hc]
  cases d with
  | none => rfl
  | some d =>
    show ((g.enter c).link d c).runsOf c' = _
    unfold link
    split
    · rfl
    · exact runsOf_modify (g := { g.enter c with
          dependents := (g.enter c).dependents.modify d (· ++ [c]) })
        (f := fun k => { k with dependencies := append k.dependencies d }) (fun _ => rfl) c c'

theorem linked_ran (h : g.Linked) (hc : c < g.computations.size) {d : Option Nat}
    (hd : ∀ e ∈ d, e < g.dependents.size) : (g.ran c d).Linked := by
  refine linked_leave ?_
  cases d with
  | none => exact linked_enter h c
  | some d =>
    refine linked_link (linked_enter h c) (hd d rfl) ?_
    exact (size_modify (g := g) c _).symm ▸ hc

/-- **Behind its run a computation is the last one to depend on what it has read.** -/
theorem dependentsOf_ran {d : Option Nat} (hd : ∀ e ∈ d, e < g.dependents.size) {e : Nat}
    (hc : c ∉ g.dependentsOf e) :
    (g.ran c d).dependentsOf e =
      if d = some e then g.dependentsOf e ++ [c] else g.dependentsOf e := by
  unfold ran
  rw [dependentsOf, dependents_leave]
  cases d with
  | none =>
    rw [if_neg (Option.some_ne_none e).symm]
    rfl
  | some d =>
    have hlink := dependentsOf_link (g := g.enter c) (c := c) (hd d rfl) e
    show ((g.enter c).link d c).dependentsOf e = _
    rw [hlink]
    by_cases hde : d = e
    · rw [if_pos hde, if_pos (congrArg some hde), ← hde]
      exact append_of_not_mem (hde ▸ hc)
    · rw [if_neg hde, if_neg fun h => hde (Option.some.inj h)]
      rfl

/-! ## A turn -/

theorem runsOf_detach (c c' : Nat) : (g.detach c).runsOf c' = g.runsOf c' :=
  runsOf_modify (g := { g with dependents :=
      (g.dependenciesOf c).foldl (fun ds d => ds.modify d (·.erase c)) g.dependents })
    (f := fun k => { k with dependencies := [] }) (fun _ => rfl) c c'

theorem not_mem_detach (h : g.Linked) (c e : Nat) : c ∉ (g.detach c).dependentsOf e := by
  rw [dependentsOf_detach h]
  exact fun hmem => ((h.dependents_nodup e).mem_erase_iff.mp hmem).1 rfl

/-- **Behind its turn a computation depends on what it has read, and on nothing else.** -/
theorem dependentsOf_detach_ran (h : g.Linked) {d : Option Nat}
    (hd : ∀ e ∈ d, e < g.dependents.size) (e : Nat) :
    ((g.detach c).ran c d).dependentsOf e =
      if d = some e then (g.dependentsOf e).erase c ++ [c] else (g.dependentsOf e).erase c := by
  have hsize := (keeps_detach (g := g) c).dependents_size
  rw [dependentsOf_ran (fun e he => hsize.symm ▸ hd e he) (not_mem_detach h c e),
    dependentsOf_detach h]

end Wording.Graph
