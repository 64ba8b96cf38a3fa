import Wording.Proofs.Reactive.History

/-!
# The runs under way

Which runs are under way one reads off a history: those that have begun and have not ended, where it
is always the last one to have begun that ends (`underway`). What the variable that holds the active
computation has been set to is read off it as well (`register`): a run that begins sets it and keeps
what it held, and its end puts that back. The marks of the computations and the stack of the graph
say the same.

* `register_eq`: the variable holds the innermost run under way
* `History.disciplined`: marked as running are those on the stack, each one once
* `runs_disciplined`: runs in reachable states, and behind all that can be done there
-/

namespace Wording

open Reactive

/-! ## What a history tells about runs -/

/-- The runs that have begun and have not ended, the last one first. -/
def underway : List Change → List Nat
  | [] => []
  | .enter c :: past => c :: underway past
  | .leave :: past => (underway past).tail
  | _ :: past => underway past

/-- The variable that holds the active computation, and what it held before each of the runs under
way, the innermost one first. -/
structure Register where
  active : Option Nat
  saved : List (Option Nat)

def Register.change : Register → Change → Register
  | k, .enter c => ⟨some c, k.active :: k.saved⟩
  | ⟨_, a :: saved⟩, .leave => ⟨a, saved⟩
  | k, _ => k

def register : List Change → Register
  | [] => ⟨none, []⟩
  | x :: past => (register past).change x

/-- For each of the runs, the one around it. -/
def around : List Nat → List (Option Nat)
  | [] => []
  | _ :: cs => cs.head? :: around cs

/-- **The variable holds the innermost run under way**, and for each run the one around it has been
kept. -/
theorem register_eq (past : List Change) :
    register past = ⟨(underway past).head?, around (underway past)⟩ := by
  induction past with
  | nil => rfl
  | cons x past ih =>
    rw [register, ih]
    cases x with
    | leave =>
      rw [underway]
      cases underway past with
      | nil => rfl
      | cons c cs => rfl
    | _ => rfl

namespace Graph

/-! ## Marks and the stack -/

/-- The computations that are marked as running are those on the stack, and none of them is there
twice. -/
structure Disciplined {β : Type} (g : Graph β) : Prop where
  nodup : g.stack.Nodup
  isRunning_iff : ∀ c, g.isRunning c = true ↔ c ∈ g.stack

section

variable {β : Type} {g g' : Graph β} {c : Nat}

theorem isRunning_of_size_le (hc : g.computations.size ≤ c) : g.isRunning c = false := by
  rw [isRunning, Array.getElem?_eq_none hc]
  rfl

/-- What leaves runs as they are, and begins none in what is new. -/
theorem Disciplined.of_steady (h : g.Disciplined) (hs : g.Steady g')
    (hnew : ∀ c, g.computations.size ≤ c → g'.isRunning c = false) : g'.Disciplined where
  nodup := hs.stack ▸ h.nodup
  isRunning_iff c := by
    rw [hs.stack, ← h.isRunning_iff]
    rcases Nat.lt_or_ge c g.computations.size with hlt | hge
    · rw [hs.isRunning c hlt]
    · rw [hnew c hge, isRunning_of_size_le hge]

theorem Disciplined.of_keeps (h : g.Disciplined) (hs : g.Steady g') (hk : g.Keeps g') :
    g'.Disciplined :=
  h.of_steady hs fun _ hc => isRunning_of_size_le (hk.computations_size ▸ hc)

theorem Disciplined.newComputation (h : g.Disciplined) (body : β) :
    (g.newComputation body).2.Disciplined := by
  refine h.of_steady (steady_newComputation g body) fun c hc => ?_
  simp only [Graph.newComputation, isRunning, Array.getElem?_push]
  by_cases hsize : c = g.computations.size
  · simp [hsize]
  · rw [if_neg hsize, Array.getElem?_eq_none hc]
    rfl

theorem isRunning_enter (hc : c < g.computations.size) : (g.enter c).isRunning c = true := by
  unfold enter modify isRunning
  dsimp only
  rw [Array.getElem?_modify, if_pos rfl, Array.getElem?_eq_getElem hc]
  rfl

theorem Disciplined.enter (h : g.Disciplined) (hc : g.canRun c = true) :
    (g.enter c).Disciplined where
  nodup := by
    have hout : c ∉ g.stack := by
      rw [← h.isRunning_iff, not_running_of_canRun hc]
      simp
    exact List.nodup_cons.mpr ⟨hout, h.nodup⟩
  isRunning_iff c' := by
    show (g.enter c).isRunning c' = true ↔ c' ∈ c :: g.stack
    rw [List.mem_cons, ← h.isRunning_iff]
    by_cases hcc : c = c'
    · subst hcc
      simp [isRunning_enter (lt_of_canRun hc)]
    · rw [isRunning_enter_of_ne hcc, or_iff_right (Ne.symm hcc)]

theorem Disciplined.leave (h : g.Disciplined) : g.leave.Disciplined := by
  cases hs : g.stack with
  | nil => rwa [leave_of_nil hs]
  | cons c rest =>
    have hstack : g.leave.stack = rest := by rw [leave_of_cons hs]
    obtain ⟨hout, hrest⟩ := List.nodup_cons.mp (hs ▸ h.nodup)
    refine ⟨hstack ▸ hrest, fun c' => ?_⟩
    rw [hstack, isRunning_leave hs]
    by_cases hcc : c = c'
    · -- The run that ends is not under way a second time.
      subst hcc
      simp [hout]
    · rw [if_neg hcc, h.isRunning_iff, hs, List.mem_cons, or_iff_right (Ne.symm hcc)]

end

variable {past : List Change} {g : Graph ScriptBody}

theorem disciplined_apply {x : Change} (hx : x.Allowed g) (h : g.Disciplined) :
    (x.apply g).Disciplined := by
  cases x with
  | newDependency => exact h.of_steady (steady_newDependency g) fun _ => isRunning_of_size_le
  | newComputation body => exact h.newComputation body
  | depend d c => exact h.of_keeps (steady_depend d c) (keeps_depend d c)
  | stop c => exact h.of_keeps (steady_stop c) (keeps_stop c)
  | detach c => exact h.of_keeps (steady_detach c) (keeps_detach c)
  | enter c => exact h.enter hx
  | leave => exact h.leave

end Graph

namespace History

variable {past : List Change} {g : Graph ScriptBody}

/-- **Marked as running are those on the stack, each one once.** -/
theorem disciplined (h : History past g) : g.Disciplined := by
  induction h with
  | nil => exact ⟨List.nodup_nil, fun c => by simp [Graph.empty, Graph.isRunning]⟩
  | cons _ hx ih => exact Graph.disciplined_apply hx ih

/-- **On the stack are the runs under way.** -/
theorem stack_eq (h : History past g) : g.stack = underway past := by
  induction h with
  | nil => rfl
  | @cons past g _ x _ ih =>
    cases x with
    | newDependency => exact ih
    | newComputation body => exact ih
    | depend d c => exact (Graph.keeps_depend d c).stack.trans ih
    | stop c => exact (Graph.keeps_stop c).stack.trans ih
    | detach c => exact ih
    | enter c => exact congrArg (c :: ·) ih
    | leave =>
      rw [underway, ← ih, Change.apply]
      cases hs : g.stack with
      | nil => rw [Graph.leave_of_nil hs, hs, List.tail_nil]
      | cons c rest => rw [Graph.leave_of_cons hs, List.tail_cons]

/-- A run has not begun in a computation that had been stopped. -/
theorem stop_not_mem_of_enter (h : History past g) {c : Nat} {earlier : List Change}
    (he : .enter c :: earlier <:+ past) : .stop c ∉ earlier := by
  obtain ⟨g', hg', hcan⟩ := h.of_suffix he
  rw [← History.isStopped_iff hg']
  intro hstopped
  simp [Change.Allowed, Graph.canRun, hstopped] at hcan

end History

/-! ## Runs in reachable states -/

/-- A stopped computation is passed over, whatever its body is. -/
theorem outcome_runWith_of_isStopped {s : ReactiveState} {c : Nat}
    (hc : s.graph.isStopped c = true) (body : Nat → Reactive Unit) :
    outcome (runWith body c) s = (.ok (), s) := by
  refine outcome_runWith_of_not ?_
  simp [Graph.canRun, hc]

/-- **Runs in reachable states.** Whatever has led to a state, the computations marked as running are
the runs under way, none of them is under way twice, the active computation is the innermost one,
which is what the variable for it holds, and no run has begun in a computation that had been stopped;
a stopped one is passed over. Whatever is done there, whether it fails or not, leaves the active
computation and the marks of all computations as they are. -/
theorem runs_disciplined {s : ReactiveState} (h : Reachable s) :
    (∃ past, History past s.graph) ∧
    (∀ past, History past s.graph →
      (∀ c, s.graph.isRunning c = true ↔ c ∈ underway past) ∧
      (underway past).Nodup ∧
      s.graph.active? = (underway past).head? ∧
      (register past).active = (underway past).head? ∧
      ∀ c earlier, .enter c :: earlier <:+ past → .stop c ∉ earlier) ∧
    (∀ c, s.graph.isStopped c = true →
      ∀ body, outcome (runWith body c) s = (.ok (), s)) ∧
    ∀ m, Lawful m →
      (outcome m s).2.graph.active? = s.graph.active? ∧
      ∀ c, (outcome m s).2.graph.isRunning c = s.graph.isRunning c := by
  obtain ⟨past, hpast⟩ := exists_history h
  refine ⟨⟨past, hpast⟩, fun past hpast => ⟨?_, ?_, ?_, ?_, fun _ _ => hpast.stop_not_mem_of_enter⟩,
    fun _ hc => outcome_runWith_of_isStopped hc, fun m hm => ?_⟩
  · intro c
    rw [hpast.disciplined.isRunning_iff, hpast.stack_eq]
  · exact hpast.stack_eq ▸ hpast.disciplined.nodup
  · rw [Graph.active?, hpast.stack_eq]
  · rw [register_eq]
  · have hsteady : s.graph.Steady (outcome m s).2.graph := hm _ respected_steady s
    have hreach : Reachable (outcome m s).2 := .run (fun _ => hm) 0 h
    obtain ⟨later, hlater⟩ := exists_history hreach
    refine ⟨by rw [Graph.active?, hsteady.stack, Graph.active?], fun c => ?_⟩
    rw [Bool.eq_iff_iff, hlater.disciplined.isRunning_iff, hpast.disciplined.isRunning_iff]
    show c ∈ (outcome m s).2.graph.stack ↔ c ∈ s.graph.stack
    rw [hsteady.stack]

theorem lawful_act (depth : Nat) (a : ReactiveAct) : Lawful (act depth a) :=
  fun _ hR s => hR.perform (hR.runTo depth) none s a

/-- One computation runs within another one; whatever act is performed there, they still do. -/
theorem runs_disciplined_nested : ∃ s, Reachable s ∧ s.graph.isRunning 0 = true ∧
    (∃ past, History past s.graph ∧ underway past = [1, 0] ∧ (register past).active = some 1) ∧
    ∀ depth a, (outcome (act depth a) s).2.graph.active? = some 1 ∧
      (outcome (act depth a) s).2.graph.isRunning 0 = true := by
  have hmade := Reachable.start.acts (lawful_runTo 0) none
    [.computation "outer" [], .computation "inner" []]
  have hnested := (hmade.enter (c := 0) (by rfl)).enter (c := 1) (by rfl)
  obtain ⟨⟨past, hpast⟩, hruns, -, hafter⟩ := runs_disciplined hnested
  obtain ⟨hrunning, -, -, hactive, -⟩ := hruns past hpast
  have hunderway : underway past = [1, 0] := hpast.stack_eq.symm
  have houter := (hrunning 0).mpr (by simp [hunderway])
  refine ⟨_, hnested, houter, ⟨past, hpast, hunderway, ?_⟩, fun depth a => ?_⟩
  · rw [hactive, hunderway]
    rfl
  · obtain ⟨hsame, hmarks⟩ := hafter _ (lawful_act depth a)
    exact ⟨hsame, (hmarks 0).trans houter⟩

end Wording
