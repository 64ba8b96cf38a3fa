import Wording.Proofs.Outcome
import Wording.Reactive.Script

/-!
# What acts can do

Whatever an act is, and whatever computations it makes run within each other, it puts a few kinds of
changes one after the other; a run puts others in between its two ends. A relation between states
that holds around each of these changes and is carried along (`Respected`) holds around every act,
whether the act fails or not. All that is said about runs here and elsewhere is said by such a
relation.

* `Respected.perform`: around an act, when it holds around the runs that the act may begin
* `Respected.runTo`: around runs within runs, at any depth
* `Lawful`: what does no more than acts can do, scripted or not
-/

namespace Wording

open Reactive

/-! ## Changes -/

namespace ReactiveState

def tell (s : ReactiveState) (e : ReactiveEvent) : ReactiveState :=
  { s with trace := e :: s.trace }

def newDependency (s : ReactiveState) (name : String) : ReactiveState :=
  { s with
    graph := s.graph.newDependency.2
    dependencies := (name, s.graph.newDependency.1) :: s.dependencies }

def onGraph (s : ReactiveState) (f : Graph ScriptBody → Graph ScriptBody) : ReactiveState :=
  { s with graph := f s.graph }

/-- A dependency of the graph, or one that has been given a name. -/
def Knows (s : ReactiveState) (d : Nat) : Prop :=
  d < s.graph.dependents.size ∨ ∃ name, s.dependency? name = some d

end ReactiveState

/-- A relation between the state before and the state behind that holds around all changes that acts
are made of, and around a run if it holds in between the ends of the run. -/
structure Respected (R : ReactiveState → ReactiveState → Prop) : Prop where
  refl : ∀ s, R s s
  trans : ∀ {s t u}, R s t → R t u → R s u
  tell : ∀ s e, R s (s.tell e)
  newDependency : ∀ s name, R s (s.newDependency name)
  newComputation : ∀ s body, R s (s.onGraph fun g => (g.newComputation body).2)
  /-- A dependency is read, by a computation of the graph or the active one. -/
  depend : ∀ {s d c}, s.Knows d → (∀ i ∈ c, i < s.graph.computations.size) →
    R s (s.onGraph fun g => (g.depend d c).2)
  stop : ∀ s c, R s (s.onGraph (·.stop c))
  detach : ∀ {s c}, s.graph.canRun c = true → R s (s.onGraph (·.detach c))
  run : ∀ {s t c}, s.graph.canRun c = true → R (s.onGraph (·.enter c)) t →
    R s (t.onGraph (·.leave))

/-! ## Names -/

theorem outcome_dependency (name : String) (s : ReactiveState) :
    outcome (dependency name) s =
      match s.dependency? name with
      | some d => (.ok d, s)
      | none => (.error (.unknown (some name)), s) := by
  rw [dependency, outcome_get_bind]
  cases s.dependency? name <;> rfl

theorem ReactiveState.lt_of_computation? {s : ReactiveState} {name : String} {c : Nat}
    (h : s.computation? name = some c) : c < s.graph.computations.size := by
  obtain ⟨hc, -⟩ := List.idxOf?_eq_some_iff.mp h
  simpa [ReactiveState.computationNames] using hc

theorem outcome_computation_some (owner : Option Nat) (name : String) (s : ReactiveState) :
    outcome (computation owner (some name)) s =
      match s.computation? name with
      | some c => (.ok c, s)
      | none => (.error (.unknown (some name)), s) := by
  rw [computation, outcome_get_bind]
  cases s.computation? name <;> rfl

/-- Looking up a computation leaves the state as it is. -/
theorem outcome_computation_state (owner : Option Nat) (name : Option String) (s : ReactiveState) :
    (outcome (computation owner name) s).2 = s := by
  cases name with
  | some name =>
    rw [outcome_computation_some]
    cases s.computation? name <;> rfl
  | none => cases owner <;> rfl

/-! ## One after the other -/

namespace Respected

variable {R : ReactiveState → ReactiveState → Prop} {α β : Type}

theorem bind (h : Respected R) {m : Reactive α} {f : α → Reactive β} {s : ReactiveState}
    (hm : R s (outcome m s).2)
    (hf : ∀ a, (outcome m s).1 = .ok a → R (outcome m s).2 (outcome (f a) (outcome m s).2).2) :
    R s (outcome (m >>= f) s).2 := by
  rw [outcome_bind]
  cases hout : outcome m s with
  | mk r t =>
    rw [hout] at hm hf
    cases r with
    | error e => exact hm
    | ok a => exact h.trans hm (hf a rfl)

/-- What is caught is carried on. -/
theorem tryCatch (h : Respected R) {m : Reactive α} {f : ReactiveError → Reactive α}
    {s : ReactiveState} (hm : R s (outcome m s).2) (hf : ∀ e t, R t (outcome (f e) t).2) :
    R s (outcome (tryCatch m f) s).2 := by
  rw [outcome_tryCatch]
  cases hout : outcome m s with
  | mk r t =>
    rw [hout] at hm
    cases r with
    | ok a => exact hm
    | error e => exact h.trans hm (hf e t)

/-! ## Invalidating -/

variable {run : Nat → Reactive Unit}

theorem invalidate (h : Respected R) (hrun : ∀ c s, R s (outcome (run c) s).2) (c : Nat)
    (s : ReactiveState) : R s (outcome (invalidate run c) s).2 := by
  rw [Reactive.invalidate, outcome_get_bind]
  by_cases hc : s.graph.canRun c = true
  · rw [if_pos hc]
    exact h.bind (h.detach hc) fun _ _ => hrun c _
  · rw [if_neg hc]
    exact h.refl s

theorem invalidateAll (h : Respected R) (hrun : ∀ c s, R s (outcome (run c) s).2) (cs : List Nat)
    (s : ReactiveState) : R s (outcome (invalidateAll run cs) s).2 := by
  induction cs generalizing s with
  | nil => exact h.refl s
  | cons c cs ih => exact h.bind (h.invalidate hrun c s) fun _ _ => ih _

theorem notify (h : Respected R) (hrun : ∀ c s, R s (outcome (run c) s).2) (d : Nat)
    (s : ReactiveState) : R s (outcome (notify run d) s).2 := by
  rw [Reactive.notify, outcome_get_bind]
  exact h.invalidateAll hrun _ s

/-! ## Performing -/

theorem dependency (h : Respected R) (name : String) (s : ReactiveState) :
    R s (outcome (dependency name) s).2 := by
  rw [outcome_dependency]
  cases s.dependency? name <;> exact h.refl s

theorem computation (h : Respected R) (owner : Option Nat) (name : Option String)
    (s : ReactiveState) : R s (outcome (computation owner name) s).2 := by
  rw [outcome_computation_state]
  exact h.refl s

/-- Reading a dependency: what is named is in the graph. -/
theorem performDepend (h : Respected R) (owner : Option Nat) (name : String)
    (reader : Option String) (s : ReactiveState) :
    R s (outcome (Reactive.perform run owner (.depend name reader)) s).2 := by
  rw [Reactive.perform, outcome_bind, outcome_dependency]
  cases hd : s.dependency? name with
  | none => exact h.refl s
  | some d =>
    cases reader with
    | none => exact h.trans (h.depend (c := none) (.inr ⟨name, hd⟩) (by simp)) (h.tell _ _)
    | some reader =>
      dsimp only
      rw [outcome_bind, outcome_map, outcome_computation_some]
      cases hc : s.computation? reader with
      | none => exact h.refl s
      | some c =>
        have hlt : ∀ i ∈ some c, i < s.graph.computations.size := by
          intro i hi
          cases hi
          exact ReactiveState.lt_of_computation? hc
        exact h.trans (h.depend (.inr ⟨name, hd⟩) hlt) (h.tell _ _)

mutual

/-- **A respected relation holds around every act.** -/
theorem perform (h : Respected R) (hrun : ∀ c s, R s (outcome (run c) s).2) (owner : Option Nat)
    (s : ReactiveState) : ∀ a, R s (outcome (perform run owner a) s).2
  | .dependency name => h.newDependency s name
  | .autorun name body => by
    rw [Reactive.perform]
    exact h.bind (h.newComputation s _) fun c _ => hrun c _
  | .computation name body => by
    rw [Reactive.perform]
    exact h.bind (h.newComputation s _) fun _ _ => h.refl _
  | .depend name reader => performDepend h owner name reader s
  | .changed name => by
    rw [Reactive.perform]
    exact h.bind (h.dependency name s) fun d _ => h.bind (h.tell _ _) fun _ _ =>
      h.bind (h.notify hrun d _) fun _ _ => h.tell _ _
  | .stop name => by
    rw [Reactive.perform]
    exact h.bind (h.computation owner name s) fun c _ => h.stop _ c
  | .run name => by
    rw [Reactive.perform]
    exact h.bind (h.computation owner name s) fun c _ => hrun c _
  | .invalidate name => by
    rw [Reactive.perform]
    exact h.bind (h.computation owner name s) fun c _ => h.invalidate hrun c _
  | .say text => h.tell s (.said text)
  | .onRun count acts => by
    rw [Reactive.perform, outcome_get_bind]
    dsimp only
    split
    · exact performAll h hrun owner s acts
    · exact h.refl s
  | .attempt acts => by
    rw [Reactive.perform]
    exact h.tryCatch (performAll h hrun owner s acts) fun e t => h.tell t (.caught e)
  | .fail f => h.refl s

theorem performAll (h : Respected R) (hrun : ∀ c s, R s (outcome (run c) s).2) (owner : Option Nat)
    (s : ReactiveState) : ∀ acts, R s (outcome (performAll run owner acts) s).2
  | [] => h.refl s
  | a :: acts => by
    rw [Reactive.performAll]
    exact h.bind (perform h hrun owner s a) fun _ _ => performAll h hrun owner _ acts

end

theorem script (h : Respected R) (hrun : ∀ c s, R s (outcome (run c) s).2) (c : Nat)
    (s : ReactiveState) : R s (outcome (script run c) s).2 := by
  rw [Reactive.script, outcome_get_bind]
  exact h.bind (h.tell _ _) fun _ _ => h.performAll hrun (some c) _ _

end Respected

/-! ## Running -/

/-- A run that cannot begin does nothing. -/
theorem outcome_runWith_of_not {body : Nat → Reactive Unit} {c : Nat} {s : ReactiveState}
    (hc : ¬ s.graph.canRun c = true) : outcome (runWith body c) s = (.ok (), s) := by
  rw [runWith, outcome_get_bind, if_neg hc, outcome_pure]

/-- A run: the body is performed between the two ends of the run. -/
theorem outcome_runWith {body : Nat → Reactive Unit} {c : Nat} {s : ReactiveState}
    (hc : s.graph.canRun c = true) :
    outcome (runWith body c) s =
      match outcome (body c) (s.onGraph (·.enter c)) with
      | (r, t) => (r, t.onGraph (·.leave)) := by
  rw [runWith, outcome_get_bind, if_pos hc, Reactive.onGraph, outcome_modify_bind,
    outcome_tryFinally]
  rfl

namespace Respected

variable {R : ReactiveState → ReactiveState → Prop}

theorem runWith (h : Respected R) {body : Nat → Reactive Unit}
    (hbody : ∀ c s, R s (outcome (body c) s).2) (c : Nat) (s : ReactiveState) :
    R s (outcome (runWith body c) s).2 := by
  by_cases hc : s.graph.canRun c = true
  · rw [outcome_runWith hc]
    exact h.run hc (hbody c _)
  · rw [outcome_runWith_of_not hc]
    exact h.refl s

/-- **A respected relation holds around runs within runs, at any depth.** -/
theorem runTo (h : Respected R) (depth c : Nat) (s : ReactiveState) :
    R s (outcome (runTo depth c) s).2 := by
  induction depth generalizing c s with
  | zero =>
    -- The run is refused before it does anything.
    exact h.refl s
  | succ depth ih => exact h.runWith (h.script ih) c s

end Respected

/-! ## Bodies of all kinds -/

/-- A computation that does nothing but what acts can do, in whatever way it comes to do it. -/
def Lawful (m : Reactive Unit) : Prop := ∀ R, Respected R → ∀ s, R s (outcome m s).2

/-- Runs of lawful bodies are lawful. -/
theorem lawful_runWith {body : Nat → Reactive Unit} (h : ∀ c, Lawful (body c)) (c : Nat) :
    Lawful (runWith body c) :=
  fun R hR s => hR.runWith (fun c s => h c R hR s) c s

/-- What a script does is lawful. -/
theorem lawful_script {run : Nat → Reactive Unit} (h : ∀ c, Lawful (run c)) (c : Nat) :
    Lawful (script run c) :=
  fun R hR s => hR.script (fun c s => h c R hR s) c s

theorem lawful_runTo (depth c : Nat) : Lawful (runTo depth c) :=
  fun _ hR s => hR.runTo depth c s

end Wording
