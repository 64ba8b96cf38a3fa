import Wording.Reactive.Graph

/-!
# Both directions of a reactive graph

A graph is `Linked` if what its dependencies put down of computations is what the computations put
down of dependencies, nothing twice. Each operation keeps graphs linked. Taking a computation off
its dependencies then finds it wherever it looks (`detach?_eq_some`).

* `linked_link` / `linked_depend`: a dependency is read
* `linked_detach` / `linked_stop`: a computation is taken off its dependencies
* `detach?_eq_some`: there is always something to take off
-/

namespace Wording.Graph

variable {β : Type} {g : Graph β}

/-- Both directions of the relation say the same, and say nothing twice. -/
structure Linked (g : Graph β) : Prop where
  mem_iff : ∀ c d, c ∈ g.dependentsOf d ↔ d ∈ g.dependenciesOf c
  dependents_nodup : ∀ d, (g.dependentsOf d).Nodup
  dependencies_nodup : ∀ c, (g.dependenciesOf c).Nodup

/-! ## What is in the graph -/

theorem lt_of_mem_dependenciesOf {c d : Nat} (h : d ∈ g.dependenciesOf c) :
    c < g.computations.size := by
  by_cases hc : c < g.computations.size
  · exact hc
  · have hnone : g.computations[c]? = none := by simpa using hc
    rw [dependenciesOf, hnone] at h
    cases h

/-- Whatever depends on a dependency is a computation of the graph. -/
theorem Linked.lt_size (h : g.Linked) {c d : Nat} (hc : c ∈ g.dependentsOf d) :
    c < g.computations.size := lt_of_mem_dependenciesOf ((h.mem_iff c d).mp hc)

/-! ## Operations that leave the relation as it is -/

/-- Graphs with the same relation are linked together. -/
theorem Linked.congr {γ : Type} {g' : Graph γ} (h : g.Linked)
    (hd : ∀ d, g'.dependentsOf d = g.dependentsOf d)
    (hc : ∀ c, g'.dependenciesOf c = g.dependenciesOf c) : g'.Linked where
  mem_iff c d := by rw [hd, hc]; exact h.mem_iff c d
  dependents_nodup d := by rw [hd]; exact h.dependents_nodup d
  dependencies_nodup c := by rw [hc]; exact h.dependencies_nodup c

theorem linked_empty : (empty : Graph β).Linked where
  mem_iff c d := by simp [empty, dependentsOf, dependenciesOf]
  dependents_nodup d := by simp [empty, dependentsOf]
  dependencies_nodup c := by simp [empty, dependenciesOf]

theorem dependenciesOf_modify (c : Nat) (f : Computation β → Computation β) (c' : Nat) :
    (g.modify c f).dependenciesOf c' =
      if c = c' then (g.computations[c']?.map fun k => (f k).dependencies).getD []
      else g.dependenciesOf c' := by
  unfold dependenciesOf modify
  rw [Array.getElem?_modify]
  by_cases hc : c = c'
  · rw [if_pos hc, if_pos hc, Option.map_map]
    rfl
  · rw [if_neg hc, if_neg hc]

/-- What a change leaves as it is for the computation that is changed is left for all. -/
theorem map_modify {γ : Type} {π : Computation β → γ} {f : Computation β → Computation β}
    (hf : ∀ k, π (f k) = π k) (c c' : Nat) :
    (g.modify c f).computations[c']?.map π = g.computations[c']?.map π := by
  unfold modify
  rw [Array.getElem?_modify]
  by_cases hc : c = c'
  · rw [if_pos hc, Option.map_map]
    exact congrArg (g.computations[c']?.map ·) (funext hf)
  · rw [if_neg hc]

theorem linked_modify {c : Nat} {f : Computation β → Computation β} (h : g.Linked)
    (hf : ∀ k, (f k).dependencies = k.dependencies) : (g.modify c f).Linked :=
  h.congr (fun _ => rfl) fun c' => by rw [dependenciesOf, map_modify hf, dependenciesOf]

theorem linked_newDependency (h : g.Linked) : g.newDependency.2.Linked := by
  refine h.congr (fun d => ?_) fun _ => rfl
  simp only [newDependency, dependentsOf, Array.getElem?_push]
  by_cases hd : d = g.dependents.size
  · simp [hd]
  · rw [if_neg hd]

theorem linked_newComputation (h : g.Linked) (body : β) : (g.newComputation body).2.Linked := by
  refine h.congr (fun _ => rfl) fun c => ?_
  simp only [newComputation, dependenciesOf, Array.getElem?_push]
  by_cases hc : c = g.computations.size
  · simp [hc]
  · rw [if_neg hc]

theorem linked_enter (h : g.Linked) (c : Nat) : (g.enter c).Linked := by
  have hm : (g.modify c fun k => { k with runs := k.runs + 1, running := true }).Linked :=
    linked_modify h fun _ => rfl
  exact hm.congr (fun _ => rfl) fun _ => rfl

theorem leave_of_nil (h : g.stack = []) : g.leave = g := by
  unfold leave
  rw [h]

theorem leave_of_cons {c : Nat} {rest : List Nat} (h : g.stack = c :: rest) :
    g.leave = { g.modify c fun k => { k with running := false } with stack := rest } := by
  unfold leave
  rw [h]

theorem linked_leave (h : g.Linked) : g.leave.Linked := by
  cases hs : g.stack with
  | nil => rwa [leave_of_nil hs]
  | cons c rest =>
    rw [leave_of_cons hs]
    have hm : (g.modify c fun k => { k with running := false }).Linked :=
      linked_modify h fun _ => rfl
    exact hm.congr (fun _ => rfl) fun _ => rfl

/-! ## Reading a dependency -/

theorem append_of_mem {xs : List Nat} {x : Nat} (h : x ∈ xs) : append xs x = xs :=
  if_pos (List.contains_iff_mem.mpr h)

theorem append_of_not_mem {xs : List Nat} {x : Nat} (h : x ∉ xs) : append xs x = xs ++ [x] :=
  if_neg fun hc => h (List.contains_iff_mem.mp hc)

theorem mem_append_iff (xs : List Nat) (x y : Nat) : y ∈ append xs x ↔ y ∈ xs ∨ y = x := by
  by_cases hx : x ∈ xs
  · rw [append_of_mem hx]
    refine ⟨.inl, ?_⟩
    rintro (hy | rfl)
    · exact hy
    · exact hx
  · rw [append_of_not_mem hx, List.mem_append, List.mem_singleton]

theorem nodup_append {xs : List Nat} (h : xs.Nodup) (x : Nat) : (append xs x).Nodup := by
  by_cases hx : x ∈ xs
  · rwa [append_of_mem hx]
  · rw [append_of_not_mem hx]
    exact List.nodup_append.mpr ⟨h, by simp, fun y hy z hz he =>
      hx (List.mem_singleton.mp hz ▸ he ▸ hy)⟩

theorem dependentsOf_link {d c : Nat} (hd : d < g.dependents.size) (d' : Nat) :
    (g.link d c).dependentsOf d' =
      if d = d' then append (g.dependentsOf d) c else g.dependentsOf d' := by
  unfold link append
  by_cases hc : (g.dependentsOf d).contains c = true
  · rw [if_pos hc, if_pos hc]
    split
    · next he => rw [he]
    · rfl
  · rw [if_neg hc, if_neg hc]
    show (g.dependents.modify d (· ++ [c]))[d']?.getD [] = _
    rw [Array.getElem?_modify]
    by_cases he : d = d'
    · subst he
      simp [dependentsOf, hd]
    · rw [if_neg he, if_neg he, dependentsOf]

theorem dependenciesOf_link (h : g.Linked) {d c : Nat} (hc : c < g.computations.size) (c' : Nat) :
    (g.link d c).dependenciesOf c' =
      if c = c' then append (g.dependenciesOf c) d else g.dependenciesOf c' := by
  unfold link
  by_cases hmem : c ∈ g.dependentsOf d
  · have hd : append (g.dependenciesOf c) d = g.dependenciesOf c := by
      simp [append, (h.mem_iff c d).mp hmem]
    rw [if_pos (by simpa using hmem), hd]
    split
    · next he => rw [he]
    · rfl
  · rw [if_neg (by simpa using hmem), dependenciesOf_modify]
    by_cases he : c = c'
    · subst he
      simp [dependenciesOf, hc]
    · rw [if_neg he, if_neg he]
      rfl

/-- **Reading a dependency of the graph in a computation of the graph keeps it linked.** -/
theorem linked_link (h : g.Linked) {d c : Nat} (hd : d < g.dependents.size)
    (hc : c < g.computations.size) : (g.link d c).Linked where
  mem_iff c' d' := by
    rw [dependentsOf_link hd, dependenciesOf_link h hc]
    by_cases hd' : d = d' <;> by_cases hc' : c = c'
    · subst hd' hc'
      simp [mem_append_iff]
    · subst hd'
      simp [mem_append_iff, hc', h.mem_iff, Ne.symm hc']
    · subst hc'
      simp [mem_append_iff, hd', h.mem_iff, Ne.symm hd']
    · rw [if_neg hd', if_neg hc']
      exact h.mem_iff c' d'
  dependents_nodup d' := by
    rw [dependentsOf_link hd]
    split
    · exact nodup_append (h.dependents_nodup d) c
    · exact h.dependents_nodup d'
  dependencies_nodup c' := by
    rw [dependenciesOf_link h hc]
    split
    · exact nodup_append (h.dependencies_nodup c) d
    · exact h.dependencies_nodup c'

theorem linked_depend (h : g.Linked) {d : Nat} {c : Option Nat} (hd : d < g.dependents.size)
    (hc : ∀ i ∈ c.or g.active?, i < g.computations.size) : (g.depend d c).2.Linked := by
  unfold depend
  cases hor : c.or g.active? with
  | none => exact h
  | some i => exact linked_link h hd (hc i hor)

/-! ## Taking a computation off its dependencies -/

theorem getElem?_foldl_erase (c : Nat) {ds : List Nat} (hn : ds.Nodup) (xs : Array (List Nat))
    (d : Nat) :
    (ds.foldl (fun xs d => xs.modify d (·.erase c)) xs)[d]? =
      if d ∈ ds then xs[d]?.map (·.erase c) else xs[d]? := by
  induction ds generalizing xs with
  | nil => simp
  | cons d' ds ih =>
    obtain ⟨hd', hn⟩ := List.nodup_cons.mp hn
    rw [List.foldl_cons, ih hn, Array.getElem?_modify]
    by_cases he : d' = d
    · subst he
      simp [hd']
    · simp [he, Ne.symm he]

theorem dependentsOf_detach (h : g.Linked) (c d : Nat) :
    (g.detach c).dependentsOf d = (g.dependentsOf d).erase c := by
  unfold detach
  show ((g.dependenciesOf c).foldl (fun xs d => xs.modify d (·.erase c)) g.dependents)[d]?.getD []
    = _
  rw [getElem?_foldl_erase c (h.dependencies_nodup c)]
  by_cases hd : d ∈ g.dependenciesOf c
  · rw [if_pos hd, dependentsOf]
    cases g.dependents[d]? <;> rfl
  · -- A dependency that the computation has not put down has not put down the computation.
    have hc : c ∉ g.dependentsOf d := fun hc => hd ((h.mem_iff c d).mp hc)
    rw [if_neg hd, List.erase_of_not_mem hc, dependentsOf]

theorem dependenciesOf_detach (c c' : Nat) :
    (g.detach c).dependenciesOf c' = if c = c' then [] else g.dependenciesOf c' := by
  unfold detach
  rw [dependenciesOf_modify]
  split
  · dsimp only
    cases g.computations[c']? <;> rfl
  · rfl

/-- **Taking a computation off its dependencies keeps a graph linked.** -/
theorem linked_detach (h : g.Linked) (c : Nat) : (g.detach c).Linked where
  mem_iff c' d := by
    rw [dependentsOf_detach h, dependenciesOf_detach, (h.dependents_nodup d).mem_erase_iff,
      h.mem_iff]
    by_cases hc : c = c'
    · subst hc
      simp
    · simp [hc, Ne.symm hc]
  dependents_nodup d := by
    rw [dependentsOf_detach h]
    exact (h.dependents_nodup d).erase c
  dependencies_nodup c' := by
    rw [dependenciesOf_detach]
    split
    · exact List.nodup_nil
    · exact h.dependencies_nodup c'

theorem linked_stop (h : g.Linked) (c : Nat) : (g.stop c).Linked := by
  have hm : (g.modify c fun k => { k with stopped := true }).Linked := linked_modify h fun _ => rfl
  exact linked_detach hm c

/-! ## What is taken off is there -/

/-- Takes a computation off a dependency, which has to have it. -/
def remove? (c : Nat) (xs : Array (List Nat)) (d : Nat) : Option (Array (List Nat)) :=
  if c ∈ xs[d]?.getD [] then some (xs.modify d (·.erase c)) else none

/-- Takes a computation off all its dependencies, which have to have it. -/
def detach? (g : Graph β) (c : Nat) : Option (Graph β) :=
  ((g.dependenciesOf c).foldlM (remove? c) g.dependents).map fun xs =>
    { g with dependents := xs }.modify c fun k => { k with dependencies := [] }

theorem foldlM_remove? {c : Nat} {ds : List Nat} (hn : ds.Nodup) {xs : Array (List Nat)}
    (h : ∀ d ∈ ds, c ∈ xs[d]?.getD []) :
    ds.foldlM (remove? c) xs = some (ds.foldl (fun xs d => xs.modify d (·.erase c)) xs) := by
  induction ds generalizing xs with
  | nil => rfl
  | cons d ds ih =>
    obtain ⟨hd, hn⟩ := List.nodup_cons.mp hn
    -- No dependency comes twice, so each one still has the computation when it is its turn.
    have hrest : ∀ d' ∈ ds, c ∈ (xs.modify d (·.erase c))[d']?.getD [] := by
      intro d' hd'
      have hne : d ≠ d' := fun he => hd (he ▸ hd')
      rw [Array.getElem?_modify, if_neg hne]
      exact h d' (by simp [hd'])
    rw [List.foldlM_cons, remove?, if_pos (h d (by simp))]
    exact ih hn hrest

/-- **In a linked graph there is always something to take off.** -/
theorem detach?_eq_some (h : g.Linked) (c : Nat) : g.detach? c = some (g.detach c) := by
  have hmem : ∀ d ∈ g.dependenciesOf c, c ∈ g.dependents[d]?.getD [] :=
    fun d hd => (h.mem_iff c d).mpr hd
  unfold detach? detach
  rw [foldlM_remove? (h.dependencies_nodup c) hmem]
  rfl

/-! ## What stays in the graph -/

@[simp] theorem size_modify (c : Nat) (f : Computation β → Computation β) :
    (g.modify c f).computations.size = g.computations.size := by simp [modify]

/-- An operation keeps the dependencies and the computations, and what runs. -/
structure Keeps (g g' : Graph β) : Prop where
  dependents_size : g'.dependents.size = g.dependents.size
  computations_size : g'.computations.size = g.computations.size
  stack : g'.stack = g.stack

theorem keeps_link (d c : Nat) : g.Keeps (g.link d c) := by
  unfold link
  split
  · exact ⟨rfl, rfl, rfl⟩
  · exact ⟨by simp [modify], by simp, rfl⟩

theorem keeps_depend (d : Nat) (c : Option Nat) : g.Keeps (g.depend d c).2 := by
  unfold depend
  cases c.or g.active? with
  | none => exact ⟨rfl, rfl, rfl⟩
  | some c => exact keeps_link d c

theorem size_foldl_erase (c : Nat) (ds : List Nat) (xs : Array (List Nat)) :
    (ds.foldl (fun xs d => xs.modify d (·.erase c)) xs).size = xs.size := by
  induction ds generalizing xs with
  | nil => rfl
  | cons d ds ih => rw [List.foldl_cons, ih, Array.size_modify]

theorem keeps_detach (c : Nat) : g.Keeps (g.detach c) :=
  ⟨size_foldl_erase c _ _, size_modify c _, rfl⟩

theorem keeps_stop (c : Nat) : g.Keeps (g.stop c) := by
  have h : (g.modify c fun k => { k with stopped := true }).Keeps (g.stop c) := keeps_detach c
  exact ⟨h.dependents_size, h.computations_size.trans (size_modify c _), h.stack⟩

end Wording.Graph
