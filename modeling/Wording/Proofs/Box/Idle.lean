import Wording.Proofs.Box.Clone
import Wording.Proofs.Box.Wired

/-!
# Between two steps

A watch that begins a run in a step ends it in the same step, whatever comes of it. So none runs
between two steps: who asks a box then leaves the reactive graph as it is.

* `Session.running_runWatch`, `Session.running_setLanguage`: watches that run within each other
* `idle_of_played`: no watch runs between two steps
-/

namespace Wording

/-- A sound world in which the watches of a list run, the innermost one first. -/
structure World.Running (cs : List Nat) (w : World) : Prop where
  sound : w.Sound
  stack : w.graph.stack = cs

variable {cs ds : List Nat}

theorem World.Running.setGraph {w : World} (h : w.Running cs) {g : Graph Watch}
    (hg : g.stack = ds) : World.Running ds { w with graph := g } :=
  ⟨invariant_sound.graph h.sound g, hg⟩

theorem World.upheld_running (cs : List Nat) : Upheld (Running cs) fun _ b => b.Sound where
  compiled := fun h => h.sound.compiled
  shared := fun h => h.sound.shared
  box := fun h hb => invariant_sound.box h.sound hb
  sound := id
  tracker := fun h _ _ => ⟨h.combined, h.clean⟩
  heap := fun h k => ⟨invariant_sound.heap h.sound k, h.stack⟩
  caches := fun h _ hcs => ⟨invariant_sound.caches h.sound hcs, h.stack⟩
  log := fun h l => ⟨invariant_sound.log h.sound l, h.stack⟩
  setBox := fun h id _ hb => ⟨invariant_sound.setBox h.sound id hb, h.stack⟩

theorem World.running_depend (cs : List Nat) (w : World) (h : w.Running cs) (d : Nat) :
    Running cs { w with graph := (w.graph.depend d none).2 } :=
  h.setGraph ((Graph.keeps_depend d none).stack.trans h.stack)

namespace Session

/-! ## Watches -/

/-- **A run ends, whatever the box says.** -/
theorem running_runWatch (c : Nat) : Keeps (World.Running cs) (runWatch c) fun _ => True := by
  refine keeps_get.bind fun w _ => ?_
  cases w.graph.computations[c]? with
  | none => exact keeps_return _
  | some k =>
    dsimp only
    split
    · intro w hw
      have hentered : World.Running (c :: cs) { w with graph := w.graph.enter c } :=
        hw.setGraph (congrArg (c :: ·) hw.stack)
      have htold : Keeps (World.Running (c :: cs)) (do
          let v ← message k.body.box k.body.request
          modify fun w => { w with events := (k.body.name, v) :: w.events }) fun _ => True :=
        (keeps_message (World.upheld_running _) (World.running_depend _) _ _).bind fun _ _ =>
          keeps_modify fun _ h => ⟨World.invariant_sound.events h.sound _, h.stack⟩
      have hran := (htold _ hentered).1
      refine ⟨?_, fun _ _ => trivial⟩
      rw [outcome_modify_bind, outcome_tryFinally]
      cases hout : outcome (do
          let v ← message k.body.box k.body.request
          modify fun w => { w with events := (k.body.name, v) :: w.events } : Session PUnit)
          { w with graph := w.graph.enter c } with
      | mk r z =>
        rw [hout] at hran
        have hleft : z.graph.leave.stack = cs := by rw [Graph.leave, hran.stack]
        exact hran.setGraph hleft
    · exact keeps_return _

theorem running_rerunAll (watches : List Nat) :
    Keeps (World.Running cs) (rerunAll watches) fun _ => True := by
  induction watches with
  | nil => exact keeps_return _
  | cons c watches ih =>
    refine keeps_get.bind fun w _ => ?_
    dsimp only
    split
    · refine Keeps.bind (Q := fun _ => True) (keeps_modify fun w h => ?_) fun _ _ =>
        (running_runWatch c).bind fun _ _ => ih
      exact h.setGraph ((Graph.keeps_detach c).stack.trans h.stack)
    · exact ih

theorem running_newWatch (watch : Watch) :
    Keeps (World.Running cs) (newWatch watch) fun _ => True :=
  keeps_get.bind fun w hw =>
    (keeps_set (hw.setGraph (g := (w.graph.newComputation watch).2) hw.stack)).bind fun _ _ =>
      (running_runWatch _).bind fun _ _ => keeps_return _

theorem running_stopWatch (c : Nat) : Keeps (World.Running cs) (stopWatch c) fun _ => True :=
  keeps_modify fun _ h => h.setGraph ((Graph.keeps_stop c).stack.trans h.stack)

/-- **Another language leaves those running that ran before.** -/
theorem running_setLanguage (id : Nat) (language : Value) :
    Keeps (World.Running cs) (setLanguage id language) fun _ => True := by
  have hP := World.upheld_running cs
  refine (keeps_box hP id).bind fun b hb => ?_
  refine (keeps_setBox hP (hb.change language b.tracker)).bind fun _ _ => ?_
  split
  · exact keeps_return _
  · exact keeps_setBox hP (hb.change language _)
  · exact keeps_get.bind fun _ _ => (keeps_note hP _).bind fun _ _ => running_rerunAll _

/-! ## Boxes that are made -/

theorem running_makeBox (o : BoxOptions) :
    Keeps (World.Running cs) (makeBox o) Box.Sound := keeps_makeBox (fun _ h => h.setGraph h.stack) o

theorem running_addBox {b : Box} (hb : b.Sound) :
    Keeps (World.Running cs) (addBox b) fun _ => True :=
  keeps_get.bind fun _ h => (keeps_set ⟨World.invariant_sound.pushBox h.sound hb, h.stack⟩).bind
    fun _ _ => keeps_return _

theorem running_newBox (o : BoxOptions) : Keeps (World.Running cs) (newBox o) fun _ => True :=
  (running_makeBox o).bind fun _ hb => running_addBox hb

theorem running_cloneBox (id : Nat) : Keeps (World.Running cs) (cloneBox id) fun _ => True :=
  (keeps_box (World.upheld_running cs) id).bind fun b hb => (running_makeBox _).bind fun _ _ =>
    running_addBox ⟨hb.combined, Catalog.clean_copy b.messages⟩

end Session

/-! ## Steps -/

theorem Play.running_placed {name : String} {made : Session Nat}
    (hmade : Keeps (World.Running cs) made fun _ => True) :
    Keeps (fun room : Room => room.world.Running cs) (placed name made) fun _ => True :=
  (keeps_session (Room.invariant_world _) hmade).bind fun id _ =>
    Keeps.bind (Q := fun _ => True) (keeps_modify fun _ h => h) fun _ _ =>
      keeps_shownBox (Room.invariant_world _) (World.upheld_running cs) id

/-- **Behind a step the same watches run as before it.** -/
theorem Room.running_after {room : Room} (h : room.world.Running cs) (s : Step) :
    (room.after s).world.Running cs := by
  have hP := World.upheld_running cs
  have hR := Room.invariant_world (World.Running cs)
  have hcleared : room.cleared.world.Running cs :=
    ⟨World.invariant_sound.noted h.sound [] [], h.stack⟩
  have hdefaults (c : DefaultsChange) : c.Respects (World.Running cs) := fun _ _ _ hw hw' hr =>
    ⟨c.respects_sound _ _ _ hw.sound hw'.sound hr, hw'.stack⟩
  have hcalm (hs : s.isCalm = true)
      (hrespects : s.Respects (World.Running cs) (fun _ b => b.Sound)
        (fun room => room.world.Running cs) room.cleared) : (room.after s).world.Running cs :=
    Play.upheld_perform hP (World.running_depend cs) hR room.cleared hcleared hs hrespects
  have hkept (hs : Keeps (fun room : Room => room.world.Running cs) (Play.perform s)
      fun _ => True) : (room.after s).world.Running cs := (hs room.cleared hcleared).1
  cases s with
  | newBox name o cache =>
    refine hkept ?_
    have hplaced (cache : Option Nat) :
        Keeps (fun room : Room => room.world.Running cs)
          (Play.placed name (Session.newBox { o with cache := cache })) fun _ => True :=
      Play.running_placed (Session.running_newBox _)
    cases cache with
    | none =>
      rw [Play.perform]
      exact (keeps_return none).bind fun cache _ => hplaced cache
    | some c =>
      rw [Play.perform]
      exact (Play.keeps_find _ c).bind fun cache _ => hplaced cache
  | cloneBox name copy =>
    refine hkept ?_
    rw [Play.perform_cloneBox]
    exact (Play.keeps_find _ name).bind fun id _ => Play.running_placed (Session.running_cloneBox id)
  | setLanguage name language =>
    refine hkept ?_
    rw [Play.perform]
    exact (Play.keeps_find _ name).bind fun id _ =>
      (Play.keeps_session hR (Session.running_setLanguage id language)).bind fun _ _ =>
        Play.keeps_shown _
  | watch name box r =>
    refine hkept ?_
    rw [Play.perform]
    exact (Play.keeps_find _ box).bind fun id _ =>
      (Play.keeps_session hR (Session.running_newWatch _)).bind fun _ _ =>
        (Play.keeps_names hR).bind fun _ _ => keeps_get.bind fun _ _ => Play.keeps_shown _
  | stop name =>
    refine hkept ?_
    rw [Play.perform]
    exact (Play.keeps_find _ name).bind fun c _ =>
      (Play.keeps_session hR (Session.running_stopWatch c)).bind fun _ _ =>
        keeps_get.bind fun _ _ => Play.keeps_shown _
  | applyDefaults c snapshot => exact hcalm rfl ⟨hdefaults c, fun _ _ _ _ h => h⟩
  | applyEnvironment start environ => exact hcalm rfl fun _ c _ _ => hdefaults c
  | resetDefaults =>
    exact hcalm rfl fun _ h => ⟨⟨h.sound.compiled, h.sound.boxes, trivial⟩, h.stack⟩
  | addMessages name messages => exact hcalm rfl fun _ _ _ _ hb hm => ⟨hb.combined, hm⟩
  | _ => exact hcalm rfl trivial

/-- **No watch runs between two steps.** -/
theorem idle_of_played {room : Room} (h : Played room) : room.world.graph.stack = [] := by
  suffices hrunning : room.world.Running [] from hrunning.stack
  induction h with
  | start b => exact ⟨World.sound_start b, rfl⟩
  | attempt s _ ih => exact Room.running_after ih s
  | change heap _ ih => exact ⟨World.invariant_sound.heap ih.sound heap, ih.stack⟩

end Wording
