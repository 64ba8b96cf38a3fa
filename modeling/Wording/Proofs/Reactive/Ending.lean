import Mathlib.Data.List.Perm.Subperm
import Wording.Proofs.Reactive.Runs
import Wording.Proofs.Reactive.Turns

/-!
# Notifications end

Bodies may ask for changes of each other's dependencies in a circle. That a change comes to its end
all the same is due to the runs: a computation does not run within its own run, so that runs within
each other are of different computations, and where no computation is made there are only so many of
them. What would be done in place of runs that are nested deeper (`runOver`) does not matter then.

* `coincide_perform`: acts for which runs that coincide are as good as each other
* `coincide_runOver`: runs, with whatever stands in for those that are nested too deep
* `notifications_end`: changes, runs and turns in reachable states
-/

namespace Wording

open Reactive

/-! ## Acts that make no computation -/

mutual

/-- Whether no computation is made, whatever part of an act is performed. -/
def ReactiveAct.makesNone : ReactiveAct → Bool
  | .autorun _ _ | .computation _ _ => false
  | .onRun _ acts | .attempt acts => makeNone acts
  | _ => true

def makeNone : List ReactiveAct → Bool
  | [] => true
  | a :: acts => a.makesNone && makeNone acts

end

namespace Graph

/-- The bodies of all computations make none. -/
def Closed (g : Graph ScriptBody) : Prop := ∀ k ∈ g.computations, makeNone k.body.acts = true

variable {g g' : Graph ScriptBody} {c total room : Nat}

theorem closed_iff : g.Closed ↔ ∀ c e, g.entryOf c = some e → makeNone e.1.acts = true := by
  constructor
  · intro h c e he
    obtain ⟨k, hk, rfl⟩ := Option.map_eq_some_iff.mp he
    exact h k (Array.mem_of_getElem? hk)
  · intro h k hk
    obtain ⟨c, hc⟩ := Array.getElem?_of_mem hk
    exact h c (k.body, k.stopped) (by rw [entryOf, hc]; rfl)

theorem Closed.of_entryOf (h : g.Closed) (he : ∀ c, g'.entryOf c = g.entryOf c) : g'.Closed :=
  closed_iff.mpr fun c e hc => closed_iff.mp h c e (he c ▸ hc)

/-! ## Room for runs -/

/-- **No more computations run than there are.** -/
theorem Disciplined.length_stack_le {β : Type} {g : Graph β} (h : g.Disciplined) :
    g.stack.length ≤ g.computations.size := by
  have hsub : g.stack ⊆ List.range g.computations.size := by
    intro c hc
    rw [List.mem_range]
    rcases Nat.lt_or_ge c g.computations.size with hlt | hge
    · exact hlt
    · have hrunning := (h.isRunning_iff c).mpr hc
      rw [isRunning_of_size_le hge] at hrunning
      cases hrunning
  have hle := (List.subperm_of_subset h.nodup hsub).length_le
  rwa [List.length_range] at hle

/-- A graph with `total` computations that make none, of which at most `room` do not run yet. -/
structure Confined (total room : Nat) (g : Graph ScriptBody) : Prop where
  disciplined : g.Disciplined
  closed : g.Closed
  size_eq : g.computations.size = total
  total_le : total ≤ g.stack.length + room

theorem Confined.of_keeps (h : g.Confined total room) (hs : g.Steady g') (hk : g.Keeps g')
    (hc : g'.Closed) : g'.Confined total room :=
  ⟨h.disciplined.of_keeps hs hk, hc, hk.computations_size.trans h.size_eq, hk.stack ▸ h.total_le⟩

theorem Confined.newDependency (h : g.Confined total room) :
    g.newDependency.2.Confined total room :=
  ⟨h.disciplined.of_steady (steady_newDependency g) fun _ => isRunning_of_size_le, h.closed,
    h.size_eq, h.total_le⟩

theorem Confined.depend (h : g.Confined total room) (d : Nat) (i : Option Nat) :
    (g.depend d i).2.Confined total room := by
  refine h.of_keeps (steady_depend d i) (keeps_depend d i) ?_
  unfold Graph.depend
  cases i.or g.active? with
  | none => exact h.closed
  | some c => exact h.closed.of_entryOf (entryOf_link d c)

theorem Confined.detach (h : g.Confined total room) (c : Nat) : (g.detach c).Confined total room :=
  h.of_keeps (steady_detach c) (keeps_detach c) (h.closed.of_entryOf (entryOf_detach c))

theorem Confined.stop (h : g.Confined total room) (c : Nat) : (g.stop c).Confined total room := by
  refine h.of_keeps (steady_stop c) (keeps_stop c) (closed_iff.mpr fun c' e he => ?_)
  rw [entryOf_stop] at he
  split at he
  · obtain ⟨e', he', rfl⟩ := Option.map_eq_some_iff.mp he
    exact closed_iff.mp h.closed c' e' he'
  · exact closed_iff.mp h.closed c' e he

/-- **A run that begins takes up room**, and there is some. -/
theorem Confined.enter (h : g.Confined total room) (hc : g.canRun c = true) :
    ∃ less, room = less + 1 ∧ (g.enter c).Confined total less := by
  have hdisciplined := h.disciplined.enter hc
  have hsize : (g.enter c).computations.size = total := (size_modify c _).trans h.size_eq
  have hstack : (g.enter c).stack.length = g.stack.length + 1 := rfl
  have hfull := hdisciplined.length_stack_le
  have hle := h.total_le
  exact ⟨room - 1, by omega, hdisciplined, h.closed.of_entryOf (entryOf_enter c), hsize, by omega⟩

/-- A run that ends gives its room back. -/
theorem Confined.leave (h : g.Confined total room) : g.leave.Confined total (room + 1) := by
  refine ⟨h.disciplined.leave, h.closed.of_entryOf (entryOf_leave g),
    (size_leave g).trans h.size_eq, ?_⟩
  have hle := h.total_le
  have hlength : g.stack.length ≤ g.leave.stack.length + 1 := by
    cases hs : g.stack with
    | nil => exact Nat.zero_le _
    | cons c rest =>
      rw [leave_of_cons hs]
      exact Nat.le_refl _
  omega

end Graph

/-! ## Acts -/

/-- A state with `total` computations of which at most `room` do not run yet. -/
abbrev Roomy (total room : Nat) (s : ReactiveState) : Prop := s.graph.Confined total room

section

variable {total room : Nat} {run run' : Nat → Reactive Unit}

theorem keeps_tell (e : ReactiveEvent) : Keeps (Roomy total room) (tell e) fun _ => True :=
  keeps_modify fun _ h => h

theorem keeps_dependency (name : String) :
    Keeps (Roomy total room) (dependency name) fun _ => True := by
  intro s hs
  rw [outcome_dependency]
  cases s.dependency? name <;> exact ⟨hs, fun _ _ => trivial⟩

theorem keeps_computation (owner : Option Nat) (name : Option String) :
    Keeps (Roomy total room) (computation owner name) fun _ => True := by
  intro s hs
  rw [outcome_computation_state]
  exact ⟨hs, fun _ _ => trivial⟩

theorem coincide_invalidate (hrun : ∀ c, Coincide (Roomy total room) (run c) (run' c)) (c : Nat) :
    Coincide (Roomy total room) (invalidate run c) (invalidate run' c) := by
  refine coincide_get_bind fun s => ?_
  split
  · exact (keeps_modify fun _ h => h.detach c).coincide.bind fun _ => hrun c
  · exact coincide_pure _

theorem coincide_invalidateAll (hrun : ∀ c, Coincide (Roomy total room) (run c) (run' c))
    (cs : List Nat) :
    Coincide (Roomy total room) (invalidateAll run cs) (invalidateAll run' cs) := by
  induction cs with
  | nil => exact coincide_pure _
  | cons c cs ih => exact (coincide_invalidate hrun c).bind fun _ => ih

theorem coincide_notify (hrun : ∀ c, Coincide (Roomy total room) (run c) (run' c)) (d : Nat) :
    Coincide (Roomy total room) (notify run d) (notify run' d) :=
  coincide_get_bind fun _ => coincide_invalidateAll hrun _

mutual

/-- **Runs that coincide are as good as each other for every act that makes no computation.** -/
theorem coincide_perform (hrun : ∀ c, Coincide (Roomy total room) (run c) (run' c))
    (owner : Option Nat) : ∀ a : ReactiveAct, a.makesNone = true →
      Coincide (Roomy total room) (perform run owner a) (perform run' owner a)
  | .dependency name, _ => (keeps_modify fun _ h => h.newDependency).coincide
  | .autorun name body, ha => by cases ha
  | .computation name body, ha => by cases ha
  | .depend name reader, _ => by
    rw [perform, perform]
    have hlink (d : Nat) (i : Option Nat) : Keeps (Roomy total room) (do
        let (linked, g) := (← get).graph.depend d i
        onGraph fun _ => g
        tell (.depend name linked)) fun _ => True :=
      keeps_get.bind fun s hs =>
        Keeps.bind (keeps_modify fun _ _ => hs.depend d i) fun _ _ => keeps_tell _
    refine ((keeps_dependency name).bind fun d _ => ?_).coincide (Q := fun _ => True)
    cases reader with
    | none => exact (keeps_return none).bind fun i _ => hlink d i
    | some reader =>
      dsimp only
      rw [map_eq_pure_bind, bind_assoc]
      exact (keeps_computation owner (some reader)).bind fun c _ =>
        (keeps_return (some c)).bind fun i _ => hlink d i
  | .changed name, _ => by
    rw [perform, perform]
    exact (keeps_dependency name).coincide.bind fun d => (keeps_tell _).coincide.bind fun _ =>
      (coincide_notify hrun d).bind fun _ => (keeps_tell _).coincide
  | .stop name, _ => by
    rw [perform, perform]
    exact (keeps_computation owner name).coincide.bind fun c =>
      (keeps_modify fun _ h => h.stop c).coincide
  | .run name, _ => by
    rw [perform, perform]
    exact (keeps_computation owner name).coincide.bind hrun
  | .invalidate name, _ => by
    rw [perform, perform]
    exact (keeps_computation owner name).coincide.bind (coincide_invalidate hrun)
  | .say text, _ => (keeps_tell _).coincide
  | .onRun count acts, ha => by
    rw [perform, perform]
    refine coincide_get_bind fun s => ?_
    dsimp only
    split
    · exact coincide_performAll hrun owner acts ha
    · exact coincide_pure _
  | .attempt acts, ha => by
    rw [perform, perform]
    exact (coincide_performAll hrun owner acts ha).tryCatch fun e => (keeps_tell _).coincide
  | .fail f, _ => coincide_throw _

theorem coincide_performAll (hrun : ∀ c, Coincide (Roomy total room) (run c) (run' c))
    (owner : Option Nat) : ∀ acts : List ReactiveAct, makeNone acts = true →
      Coincide (Roomy total room) (performAll run owner acts) (performAll run' owner acts)
  | [], _ => coincide_pure _
  | a :: acts, ha => by
    rw [makeNone, Bool.and_eq_true] at ha
    rw [performAll, performAll]
    exact (coincide_perform hrun owner a ha.1).bind fun _ =>
      coincide_performAll hrun owner acts ha.2

end

/-- The acts of a body that is there make no computation. -/
theorem coincide_script (hrun : ∀ c, Coincide (Roomy total room) (run c) (run' c)) (c : Nat) :
    Coincide (Roomy total room) (script run c) (script run' c) := by
  intro s hs
  have hacts : makeNone ((s.graph.computations[c]?.map (·.body.acts)).getD []) = true := by
    cases hc : s.graph.computations[c]? with
    | none => rfl
    | some k => exact hs.closed k (Array.mem_of_getElem? hc)
  rw [script, script, outcome_get_bind, outcome_get_bind]
  exact (keeps_tell _).coincide.bind (fun _ => coincide_performAll hrun (some c) _ hacts) s hs

end

/-! ## Runs -/

/-- Runs within each other at most `depth` deep; runs that are nested deeper are done by `beyond`. -/
def Reactive.runOver (beyond : Nat → Reactive Unit) : Nat → Nat → Reactive Unit
  | 0 => beyond
  | depth + 1 => runWith (script (runOver beyond depth))

theorem runTo_eq_runOver (depth : Nat) :
    runTo depth = runOver (fun _ => throw .exhausted) depth := by
  induction depth with
  | zero => rfl
  | succ depth ih => rw [runTo, runOver, ih]

/-- Runs whose bodies coincide where there is less room coincide. -/
theorem coincide_runWith {total room : Nat} {body body' : Nat → Reactive Unit}
    (h : ∀ less, room = less + 1 → ∀ c, Coincide (Roomy total less) (body c) (body' c)) (c : Nat) :
    Coincide (Roomy total room) (runWith body c) (runWith body' c) := by
  intro s hs
  by_cases hc : s.graph.canRun c = true
  · obtain ⟨less, hroom, hentered⟩ := hs.enter hc
    obtain ⟨heq, hend⟩ := h less hroom c (s.onGraph (·.enter c)) hentered
    rw [outcome_runWith hc, outcome_runWith hc, ← heq]
    exact ⟨rfl, hroom ▸ hend.leave⟩
  · rw [outcome_runWith_of_not hc, outcome_runWith_of_not hc]
    exact ⟨rfl, hs⟩

/-- **As many runs within each other as there is room for are enough**: it does not matter what
would be done beyond them. -/
theorem coincide_runOver (beyond beyond' : Nat → Reactive Unit) {total room depth depth' : Nat}
    (hdepth : room < depth) (hdepth' : room < depth') (c : Nat) :
    Coincide (Roomy total room) (runOver beyond depth c) (runOver beyond' depth' c) := by
  induction room generalizing depth depth' c with
  | zero =>
    obtain ⟨depth, rfl⟩ := Nat.exists_eq_succ_of_ne_zero (Nat.ne_of_gt hdepth)
    obtain ⟨depth', rfl⟩ := Nat.exists_eq_succ_of_ne_zero (Nat.ne_of_gt hdepth')
    -- All computations run, so that no run begins.
    exact coincide_runWith (fun less h => absurd h (Nat.succ_ne_zero less).symm) c
  | succ room ih =>
    obtain ⟨depth, rfl⟩ := Nat.exists_eq_succ_of_ne_zero (Nat.ne_zero_of_lt hdepth)
    obtain ⟨depth', rfl⟩ := Nat.exists_eq_succ_of_ne_zero (Nat.ne_zero_of_lt hdepth')
    refine coincide_runWith (fun less h => ?_) c
    cases h
    exact coincide_script fun c =>
      ih (Nat.lt_of_succ_lt_succ hdepth) (Nat.lt_of_succ_lt_succ hdepth') c

/-! ## The bound is not met -/

/-- A computation that neither fails for want of room for runs nor tells that it has caught such a
failure. -/
def Unexhausted {α : Type} (m : Reactive α) : Prop := ∀ s,
  (outcome m s).1 ≠ .error .exhausted ∧
    (.caught .exhausted ∈ (outcome m s).2.trace → .caught .exhausted ∈ s.trace)

section

variable {α β : Type} {run : Nat → Reactive Unit}

theorem unexhausted_pure (a : α) : Unexhausted (pure a) := fun _ => ⟨nofun, id⟩

theorem unexhausted_throw {e : ReactiveError} (he : e ≠ .exhausted) :
    Unexhausted (throw e : Reactive α) :=
  fun _ => ⟨fun h => he (Except.error.inj h), id⟩

theorem unexhausted_modify {f : ReactiveState → ReactiveState} (hf : ∀ s, (f s).trace = s.trace) :
    Unexhausted (modify f) := by
  intro s
  rw [outcome_modify]
  exact ⟨nofun, fun h => hf s ▸ h⟩

theorem unexhausted_tell {e : ReactiveEvent} (he : e ≠ .caught .exhausted) :
    Unexhausted (tell e) :=
  fun _ => ⟨nofun, fun h => (List.mem_cons.mp h).resolve_left (Ne.symm he)⟩

theorem Unexhausted.bind {m : Reactive α} {f : α → Reactive β} (hm : Unexhausted m)
    (hf : ∀ a, Unexhausted (f a)) : Unexhausted (m >>= f) := by
  intro s
  obtain ⟨hne, htrace⟩ := hm s
  rw [outcome_bind]
  cases hout : outcome m s with
  | mk r t =>
    rw [hout] at hne htrace
    cases r with
    | error e => exact ⟨fun h => hne (Except.error.inj h ▸ rfl), htrace⟩
    | ok a => exact ⟨(hf a t).1, htrace ∘ (hf a t).2⟩

theorem unexhausted_get_bind {f : ReactiveState → Reactive β} (hf : ∀ s, Unexhausted (f s)) :
    Unexhausted (get >>= f) := by
  intro s
  rw [outcome_get_bind]
  exact hf s s

/-- What is caught is another failure. -/
theorem Unexhausted.attempt {m : Reactive Unit} (hm : Unexhausted m) :
    Unexhausted (tryCatch m fun e => tell (.caught e)) := by
  intro s
  obtain ⟨hne, htrace⟩ := hm s
  rw [outcome_tryCatch]
  cases hout : outcome m s with
  | mk r t =>
    rw [hout] at hne htrace
    cases r with
    | ok a => exact ⟨nofun, htrace⟩
    | error e =>
      have he : ReactiveEvent.caught e ≠ .caught .exhausted := fun h =>
        hne (ReactiveEvent.caught.inj h ▸ rfl)
      exact ⟨nofun, htrace ∘ (unexhausted_tell he t).2⟩

theorem unexhausted_dependency (name : String) : Unexhausted (dependency name) := by
  refine unexhausted_get_bind fun s => ?_
  split
  · exact unexhausted_pure _
  · exact unexhausted_throw nofun

theorem unexhausted_computation (owner : Option Nat) (name : Option String) :
    Unexhausted (computation owner name) := by
  cases name with
  | some name =>
    refine unexhausted_get_bind fun s => ?_
    split
    · exact unexhausted_pure _
    · exact unexhausted_throw nofun
  | none =>
    cases owner with
    | some c => exact unexhausted_pure c
    | none => exact unexhausted_throw nofun

theorem unexhausted_newComputation (name : String) (body : List ReactiveAct) :
    Unexhausted (newComputation name body) :=
  fun _ => ⟨nofun, id⟩

theorem unexhausted_invalidate (hrun : ∀ c, Unexhausted (run c)) (c : Nat) :
    Unexhausted (invalidate run c) := by
  refine unexhausted_get_bind fun s => ?_
  split
  · exact Unexhausted.bind (unexhausted_modify fun _ => rfl) fun _ => hrun c
  · exact unexhausted_pure _

theorem unexhausted_notify (hrun : ∀ c, Unexhausted (run c)) (d : Nat) :
    Unexhausted (notify run d) := by
  refine unexhausted_get_bind fun s => ?_
  induction s.graph.dependentsOf d with
  | nil => exact unexhausted_pure _
  | cons c cs ih => exact (unexhausted_invalidate hrun c).bind fun _ => ih

mutual

theorem unexhausted_perform (hrun : ∀ c, Unexhausted (run c)) (owner : Option Nat) :
    ∀ a, Unexhausted (perform run owner a)
  | .dependency name => unexhausted_modify fun _ => rfl
  | .autorun name body => by
    rw [perform]
    exact Unexhausted.bind (unexhausted_newComputation _ _) hrun
  | .computation name body => by
    rw [perform]
    exact Unexhausted.bind (unexhausted_newComputation _ _) fun _ => unexhausted_pure _
  | .depend name reader => by
    rw [perform]
    have hlink (d : Nat) (i : Option Nat) : Unexhausted (do
        let (linked, g) := (← get).graph.depend d i
        onGraph fun _ => g
        tell (.depend name linked)) :=
      unexhausted_get_bind fun s =>
        Unexhausted.bind (unexhausted_modify fun _ => rfl) fun _ => unexhausted_tell nofun
    refine (unexhausted_dependency name).bind fun d => ?_
    cases reader with
    | none => exact (unexhausted_pure none).bind fun i => hlink d i
    | some reader =>
      dsimp only
      rw [map_eq_pure_bind, bind_assoc]
      exact (unexhausted_computation owner (some reader)).bind fun c =>
        (unexhausted_pure (some c)).bind fun i => hlink d i
  | .changed name => by
    rw [perform]
    refine (unexhausted_dependency name).bind fun d => ?_
    exact (unexhausted_tell (e := .changing name) nofun).bind fun _ =>
      (unexhausted_notify hrun d).bind fun _ => unexhausted_tell (e := .changed name) nofun
  | .stop name => by
    rw [perform]
    exact (unexhausted_computation owner name).bind fun c => unexhausted_modify fun _ => rfl
  | .run name => by
    rw [perform]
    exact (unexhausted_computation owner name).bind hrun
  | .invalidate name => by
    rw [perform]
    exact (unexhausted_computation owner name).bind (unexhausted_invalidate hrun)
  | .say text => unexhausted_tell nofun
  | .onRun count acts => by
    rw [perform]
    refine unexhausted_get_bind fun s => ?_
    dsimp only
    split
    · exact unexhausted_performAll hrun owner acts
    · exact unexhausted_pure _
  | .attempt acts => by
    rw [perform]
    exact (unexhausted_performAll hrun owner acts).attempt
  | .fail f => unexhausted_throw nofun

theorem unexhausted_performAll (hrun : ∀ c, Unexhausted (run c)) (owner : Option Nat) :
    ∀ acts, Unexhausted (performAll run owner acts)
  | [] => unexhausted_pure _
  | a :: acts => by
    rw [performAll]
    exact (unexhausted_perform hrun owner a).bind fun _ => unexhausted_performAll hrun owner acts

end

theorem unexhausted_runWith {body : Nat → Reactive Unit} (hbody : ∀ c, Unexhausted (body c))
    (c : Nat) : Unexhausted (runWith body c) := by
  intro s
  by_cases hc : s.graph.canRun c = true
  · rw [outcome_runWith hc]
    exact hbody c (s.onGraph (·.enter c))
  · rw [outcome_runWith_of_not hc]
    exact ⟨nofun, id⟩

/-- Where nothing is done beyond the bound, nothing is told of it. -/
theorem unexhausted_runOver (depth c : Nat) :
    Unexhausted (runOver (fun _ => pure ()) depth c) := by
  induction depth generalizing c with
  | zero => exact unexhausted_pure _
  | succ depth ih =>
    refine unexhausted_runWith (fun c => unexhausted_get_bind fun s => ?_) c
    have htell : Unexhausted (tell (.run (s.computationName c) (s.graph.runsOf c))) :=
      unexhausted_tell nofun
    exact htell.bind fun _ => unexhausted_performAll ih (some c) _

end

/-! ## Changes, runs and turns -/

/-- What sets off runs. -/
inductive Notification where
  | changed (d : Nat)
  | run (c : Nat)
  | invalidate (c : Nat)

namespace Notification

def perform (run : Nat → Reactive Unit) : Notification → Reactive Unit
  | .changed d => notify run d
  | .run c => run c
  | .invalidate c => Reactive.invalidate run c

theorem coincide {total room : Nat} {run run' : Nat → Reactive Unit}
    (hrun : ∀ c, Coincide (Roomy total room) (run c) (run' c)) :
    ∀ n : Notification, Coincide (Roomy total room) (n.perform run) (n.perform run')
  | .changed d => coincide_notify hrun d
  | .run c => hrun c
  | .invalidate c => coincide_invalidate hrun c

theorem unexhausted {run : Nat → Reactive Unit} (hrun : ∀ c, Unexhausted (run c)) :
    ∀ n : Notification, Unexhausted (n.perform run)
  | .changed d => unexhausted_notify hrun d
  | .run c => hrun c
  | .invalidate c => unexhausted_invalidate hrun c

end Notification

/-- **Notifications end.** No more computations are ever under way than there are. From a reachable
state in which no body makes a computation, a change of a dependency, a run or a turn of a
computation comes to its end with as many further runs within each other as there are computations
that do not run yet: what would be done in place of runs that are nested deeper does not matter,
nothing fails for want of room for runs or tells that such a failure has been caught, and no
computation is made. -/
theorem notifications_end {s : ReactiveState} (hs : Reachable s) (hclosed : s.graph.Closed)
    (n : Notification) {depth : Nat}
    (hdepth : s.graph.computations.size < s.graph.stack.length + depth) :
    (∀ u, Reachable u → u.graph.stack.length ≤ u.graph.computations.size) ∧
      (∀ beyond depth', s.graph.computations.size < s.graph.stack.length + depth' →
        outcome (n.perform (runOver beyond depth')) s = outcome (n.perform (runTo depth)) s) ∧
      (outcome (n.perform (runTo depth)) s).1 ≠ .error .exhausted ∧
      (.caught .exhausted ∈ (outcome (n.perform (runTo depth)) s).2.trace →
        .caught .exhausted ∈ s.trace) ∧
      (outcome (n.perform (runTo depth)) s).2.graph.computations.size =
        s.graph.computations.size := by
  obtain ⟨past, hpast⟩ := exists_history hs
  let room := s.graph.computations.size - s.graph.stack.length
  have hstack : s.graph.stack.length ≤ s.graph.computations.size :=
    hpast.disciplined.length_stack_le
  have hconfined : Roomy s.graph.computations.size room s :=
    ⟨hpast.disciplined, hclosed, rfl, by omega⟩
  have hsame (beyond beyond' : Nat → Reactive Unit) {depth' : Nat}
      (hdepth' : s.graph.computations.size < s.graph.stack.length + depth') :
      Coincide (Roomy s.graph.computations.size room) (n.perform (runOver beyond depth'))
        (n.perform (runOver beyond' depth)) :=
    n.coincide (coincide_runOver beyond beyond' (by omega) (by omega))
  have hquiet := n.unexhausted (unexhausted_runOver depth) s
  rw [runTo_eq_runOver, ← (hsame (fun _ => pure ()) _ hdepth s hconfined).1]
  refine ⟨fun u hu => ?_, fun beyond depth' hdepth' => (hsame beyond _ hdepth' s hconfined).1,
    hquiet.1, hquiet.2, (hsame _ (fun _ => pure ()) hdepth s hconfined).2.size_eq⟩
  obtain ⟨past, hpast⟩ := exists_history hu
  exact hpast.disciplined.length_stack_le

/-- Two computations ask for changes of what the other one reads. -/
def mutualReaders : ReactiveState :=
  (outcome (performAll (runTo 3) none
    [.dependency "ping", .dependency "pong",
      .autorun "first" [.depend "ping" none, .changed "pong"],
      .autorun "second" [.depend "pong" none, .changed "ping"]]) .empty).2

/-- One change makes each of them run once, within each other. -/
theorem notifications_end_mutualReaders :
    mutualReaders.graph.Closed ∧ mutualReaders.graph.computations.size = 2 ∧
      ∀ beyond, (outcome ((Notification.changed 0).perform (runOver beyond 3))
        mutualReaders).2.graph.computations.toList.map (·.runs) = [3, 2] := by
  have hreach : Reachable mutualReaders := Reachable.start.acts (lawful_runTo 3) none _
  have hclosed : mutualReaders.graph.Closed := by
    unfold Graph.Closed
    decide +kernel
  have hdepth : mutualReaders.graph.computations.size < mutualReaders.graph.stack.length + 3 := by
    decide +kernel
  obtain ⟨-, hsame, -⟩ := notifications_end hreach hclosed (.changed 0) hdepth
  refine ⟨hclosed, by decide +kernel, fun beyond => ?_⟩
  rw [hsame beyond 3 hdepth]
  decide +kernel

end Wording
