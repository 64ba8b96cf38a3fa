import Wording.Proofs.Reactive.Runs

/-!
# Who reads a dependency

A dependency has put down a computation if the computation has read it and has not been taken off its
dependencies since then (`ReadSince`). A stopped computation is taken off all of them, and is neither
run nor taken off again; but what remains of its body, or whoever names it, can still make it read a
dependency, and then it stays put down (`stopped_reader`).

* `History.mem_dependentsOf_iff`: who is put down
* `stopped_reader_iff`: which stopped computations are
-/

namespace Wording

open Reactive

/-- A computation has read a dependency, as the active computation or by its name, and has not been
taken off its dependencies since then. -/
def ReadSince (d c : Nat) : List Change → Prop
  | [] => False
  | .depend d' i :: past => d' = d ∧ i.or (register past).active = some c ∨ ReadSince d c past
  | .stop c' :: past | .detach c' :: past => c' ≠ c ∧ ReadSince d c past
  | _ :: past => ReadSince d c past

/-- The computation's last reading of the dependency, and no change behind it that takes the
computation off its dependencies. -/
theorem readSince_iff {d c : Nat} {past : List Change} :
    ReadSince d c past ↔ ∃ later i earlier, past = later ++ .depend d i :: earlier ∧
      i.or (register earlier).active = some c ∧ .stop c ∉ later ∧ .detach c ∉ later := by
  induction past with
  | nil => simp [ReadSince]
  | cons x past ih =>
    -- A change that is no such reading stands behind the reading.
    have hlater (hx : x ≠ .stop c) (hx' : x ≠ .detach c) (h : ReadSince d c past) :
        ∃ later i earlier, x :: past = later ++ .depend d i :: earlier ∧
          i.or (register earlier).active = some c ∧ .stop c ∉ later ∧ .detach c ∉ later := by
      obtain ⟨later, i, earlier, rfl, hi, hstop, hdetach⟩ := ih.mp h
      exact ⟨x :: later, i, earlier, rfl, hi, by simp [Ne.symm hx, hstop],
        by simp [Ne.symm hx', hdetach]⟩
    constructor
    · intro h
      cases x with
      | depend d' i =>
        rcases h with ⟨rfl, hi⟩ | h
        · exact ⟨[], i, past, rfl, hi, List.not_mem_nil, List.not_mem_nil⟩
        · exact hlater (by simp) (by simp) h
      | stop c' => exact hlater (by simpa using h.1) (by simp) h.2
      | detach c' => exact hlater (by simp) (by simpa using h.1) h.2
      | newDependency | newComputation | enter | leave => exact hlater (by simp) (by simp) h
    · rintro ⟨later, i, earlier, hpast, hi, hstop, hdetach⟩
      cases later with
      | nil =>
        cases hpast
        exact .inl ⟨rfl, hi⟩
      | cons y later =>
        cases hpast
        rw [List.mem_cons, not_or] at hstop hdetach
        have hbefore := ih.mpr ⟨later, i, earlier, rfl, hi, hstop.2, hdetach.2⟩
        cases x with
        | depend d' i' => exact .inr hbefore
        | stop c' => exact ⟨fun he => hstop.1 (he ▸ rfl), hbefore⟩
        | detach c' => exact ⟨fun he => hdetach.1 (he ▸ rfl), hbefore⟩
        | newDependency | newComputation | enter | leave => exact hbefore

/-! ## Who is put down -/

namespace History

variable {past : List Change} {g : Graph ScriptBody}

/-- What is running is there. -/
theorem lt_size_of_active (h : History past g) {c : Nat} (hc : g.active? = some c) :
    c < g.computations.size := by
  have hrunning := (h.disciplined.isRunning_iff c).mpr (List.mem_of_head? hc)
  rcases Nat.lt_or_ge c g.computations.size with hlt | hge
  · exact hlt
  · rw [Graph.isRunning_of_size_le hge] at hrunning
    cases hrunning

theorem active?_eq (h : History past g) : g.active? = (register past).active := by
  rw [Graph.active?, h.stack_eq, register_eq]

/-- What reads a dependency is there. -/
theorem lt_size_of_depend (h : History past g) {d : Nat} {i : Option Nat}
    (hx : (Change.depend d i).Allowed g) : ∀ c ∈ i.or g.active?, c < g.computations.size := by
  intro c hc
  cases i with
  | some i => exact hx.2 c hc
  | none => exact h.lt_size_of_active hc

theorem linked (h : History past g) : g.Linked := by
  induction h with
  | nil => exact Graph.linked_empty
  | @cons past g h x hx ih =>
    cases x with
    | newDependency => exact Graph.linked_newDependency ih
    | newComputation body => exact Graph.linked_newComputation ih body
    | depend d i => exact Graph.linked_depend ih hx.1 (lt_size_of_depend h hx)
    | stop c => exact Graph.linked_stop ih c
    | detach c => exact Graph.linked_detach ih c
    | enter c => exact Graph.linked_enter ih c
    | leave => exact Graph.linked_leave ih

/-- **A dependency has put down those that have read it** and have not been taken off their
dependencies since then. -/
theorem mem_dependentsOf_iff (h : History past g) (d c : Nat) :
    c ∈ g.dependentsOf d ↔ ReadSince d c past := by
  induction h with
  | nil => simp [Graph.empty, Graph.dependentsOf, ReadSince]
  | @cons past g h x hx ih =>
    -- Taking another computation off its dependencies changes nothing for this one.
    have hoff (c' : Nat) : c ∈ (g.detach c').dependentsOf d ↔ c' ≠ c ∧ ReadSince d c past := by
      rw [Graph.dependentsOf_detach (linked h),
        ((linked h).dependents_nodup d).mem_erase_iff, ih, ne_comm]
    cases x with
    | newDependency =>
      have heq : (Change.newDependency.apply g).dependentsOf d = g.dependentsOf d := by
        simp only [Change.apply, Graph.newDependency, Graph.dependentsOf, Array.getElem?_push]
        by_cases hd : d = g.dependents.size
        · simp [hd]
        · rw [if_neg hd]
      rw [heq]
      exact ih
    | newComputation body => exact ih
    | depend d' i =>
      rw [Change.apply, Graph.depend, ReadSince, ← active?_eq h]
      cases hi : i.or g.active? with
      | none => simpa using ih
      | some c' =>
        rw [Graph.dependentsOf_link hx.1, Option.some_inj]
        by_cases hd : d' = d
        · subst hd
          rw [if_pos rfl, Graph.mem_append_iff, ih, or_comm, eq_comm, and_iff_right rfl]
        · rw [if_neg hd, ih, or_iff_right fun hread => hd hread.1]
    | stop c' =>
      have heq : (g.stop c').dependentsOf d = (g.detach c').dependentsOf d := by
        have hm : (g.modify c' fun k => { k with stopped := true }).Linked :=
          Graph.linked_modify (linked h) fun _ => rfl
        rw [Graph.stop, Graph.dependentsOf_detach hm, Graph.dependentsOf_detach (linked h)]
        rfl
      rw [Change.apply, heq]
      exact hoff c'
    | detach c' => exact hoff c'
    | enter c' => exact ih
    | leave =>
      have heq : g.leave.dependentsOf d = g.dependentsOf d := by
        cases hs : g.stack with
        | nil => rw [Graph.leave_of_nil hs]
        | cons c' rest =>
          rw [Graph.leave_of_cons hs]
          rfl
      rw [Change.apply, heq]
      exact ih

/-- What has been stopped is not taken off its dependencies by a run to come. -/
theorem detach_not_mem (h : History past g) {c : Nat} {later earlier : List Change}
    (hpast : past = later ++ earlier) (hstop : .stop c ∈ earlier) : .detach c ∉ later := by
  intro hdetach
  obtain ⟨latest, between, rfl⟩ := List.append_of_mem hdetach
  have hsuffix : Change.detach c :: (between ++ earlier) <:+ past := by
    rw [hpast, List.append_assoc]
    exact List.suffix_append latest _
  obtain ⟨g', hg', hcan⟩ := h.of_suffix hsuffix
  have hstopped := (isStopped_iff hg' c).mpr (List.mem_append_right _ hstop)
  simp [Change.Allowed, Graph.canRun, hstopped] at hcan

end History

/-! ## Stopped computations -/

/-- **Which stopped computations are put down.** Whatever has led to a state, a stopped computation
depends on a dependency exactly if it has read the dependency after it had been stopped, as the active
computation or by its name, and has not been stopped again since then. If no stopped computation has
done so, none is put down anywhere, and where there are dependents one of them is not stopped. -/
theorem stopped_reader_iff {s : ReactiveState} (h : Reachable s) :
    (∃ past, History past s.graph) ∧ ∀ past, History past s.graph →
      (∀ c, s.graph.isStopped c = true → ∀ d, c ∈ s.graph.dependentsOf d ↔
        ∃ later i earlier, past = later ++ .depend d i :: earlier ∧
          i.or (register earlier).active = some c ∧ .stop c ∈ earlier ∧ .stop c ∉ later) ∧
      ((∀ d i earlier, .depend d i :: earlier <:+ past →
          ∀ c ∈ i.or (register earlier).active, .stop c ∉ earlier) →
        ∀ d, (∀ c ∈ s.graph.dependentsOf d, s.graph.isStopped c = false) ∧
          (s.graph.dependentsOf d ≠ [] →
            ∃ c ∈ s.graph.dependentsOf d, s.graph.isStopped c = false)) := by
  refine ⟨exists_history h, fun past hpast => ?_⟩
  have hiff (c : Nat) (hc : s.graph.isStopped c = true) (d : Nat) : c ∈ s.graph.dependentsOf d ↔
      ∃ later i earlier, past = later ++ .depend d i :: earlier ∧
        i.or (register earlier).active = some c ∧ .stop c ∈ earlier ∧ .stop c ∉ later := by
    rw [hpast.mem_dependentsOf_iff, readSince_iff]
    constructor
    · rintro ⟨later, i, earlier, heq, hi, hstop, -⟩
      have hmem := (hpast.isStopped_iff c).mp hc
      rw [heq, List.mem_append, or_iff_right hstop, List.mem_cons] at hmem
      exact ⟨later, i, earlier, heq, hi, hmem.resolve_left (by simp), hstop⟩
    · rintro ⟨later, i, earlier, heq, hi, hmem, hstop⟩
      exact ⟨later, i, earlier, heq, hi, hstop,
        hpast.detach_not_mem heq (List.mem_cons_of_mem _ hmem)⟩
  refine ⟨hiff, fun hnone d => ?_⟩
  have hgoing : ∀ c ∈ s.graph.dependentsOf d, s.graph.isStopped c = false := by
    intro c hc
    cases hstopped : s.graph.isStopped c with
    | false => rfl
    | true =>
      obtain ⟨later, i, earlier, heq, hi, hstop, -⟩ := (hiff c hstopped d).mp hc
      exact absurd hstop (hnone d i earlier ⟨later, heq.symm⟩ c hi)
  refine ⟨hgoing, fun hne => ?_⟩
  obtain ⟨c, hc⟩ := List.exists_mem_of_ne_nil _ hne
  exact ⟨c, hc, hgoing c hc⟩

/-- A computation stops itself and then reads a dependency. -/
def lateReader : ReactiveState :=
  (outcome (performAll (runTo 1) none
    [.dependency "language", .autorun "greeting" [.stop none, .depend "language" none]]) .empty).2

theorem reachable_lateReader : Reachable lateReader := Reachable.start.acts (lawful_runTo 1) none _

/-- **It stays put down**, the only one there, though it is stopped and its run is over. -/
theorem stopped_reader : Reachable lateReader ∧ lateReader.graph.isStopped 0 = true ∧
    lateReader.graph.isRunning 0 = false ∧ lateReader.graph.dependentsOf 0 = [0] :=
  ⟨reachable_lateReader, by rfl, by rfl, by rfl⟩

theorem stopped_reader_iff_lateReader : lateReader.graph.isStopped 0 = true ∧
    ∃ past later i earlier, History past lateReader.graph ∧
      past = later ++ .depend 0 i :: earlier ∧
      i.or (register earlier).active = some 0 ∧ .stop 0 ∈ earlier ∧ .stop 0 ∉ later := by
  have hstopped : lateReader.graph.isStopped 0 = true := by rfl
  obtain ⟨⟨past, hpast⟩, hreaders⟩ := stopped_reader_iff reachable_lateReader
  obtain ⟨later, i, earlier, hlate⟩ :=
    ((hreaders past hpast).1 0 hstopped 0).mp (List.mem_singleton.mpr rfl)
  exact ⟨hstopped, past, later, i, earlier, hpast, hlate⟩

end Wording
