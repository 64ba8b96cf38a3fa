import Wording.Proofs.Box.Later

/-!
# Sessions in which watches ask for the same throughout

In a session of any steps, with any number of boxes and watches, nothing that the watches are made to
ask with is changed. Then the reactive graph is wired behind every step: exactly those watches depend
on a box that are not stopped and ask it in its language.

* `Room.Steady`: rooms in such sessions
* `World.Tuned`: what each operation keeps
* `steady_world`: what holds of the worlds of these rooms
-/

namespace Wording

variable {T T' : Ref → Prop} {h : Heap}

/-! ## What the watches ask with -/

theorem Value.In.mono (hT : ∀ r, T r → T' r) {v : Value} (hv : v.In T) : v.In T' :=
  (hv.paired 0).within fun r s (hr : r = s ∧ T r) => hT r hr.2

theorem Issue.All.imp {P Q : Value → Prop} (hPQ : ∀ v, P v → Q v) {i : Issue} (hi : i.All P) :
    i.All Q := by
  cases hi with
  | value hv => exact .value (hPQ _ hv)
  | descriptor hname htype hmessage hextra =>
    exact .descriptor (hPQ _ hname) (hPQ _ htype) (hPQ _ hmessage) (hPQ _ hextra)

theorem Request.All.imp {P Q : Value → Prop} (hPQ : ∀ v, P v → Q v) {r : Request} (hr : r.All P) :
    r.All Q := ⟨hr.issue.imp hPQ, hPQ _ hr.context, hPQ _ hr.language⟩

/-- The graph of a world is wired on the heap `h`, and its watches ask with what lies in `T`. -/
structure World.Tuned (T : Ref → Prop) (h : Heap) (w : World) : Prop where
  wired : w.Wired h none
  asked : ∀ c e, w.graph.entryOf c = some e → e.1.request.All (Value.In T)

/-- The graph of a world is wired, and its watches ask with what lies in `T` and leads nowhere else. -/
structure World.Steady (T : Ref → Prop) (w : World) : Prop where
  tuned : w.Tuned T w.heap
  used : w.heap.Uses T
  closed : w.heap.SameAt T w.heap

namespace World.Steady

variable {w z : World}

/-- What has been wired on the heap of a steady world is so on each heap that is the same in `T`. -/
theorem of_tuned (hw : w.Steady T) (hz : z.Tuned T w.heap)
    (hspared : ∀ r : Nat, T r → z.heap.cells[r]? = w.heap.cells[r]?) : z.Steady T := by
  have hsame : w.heap.SameAt T z.heap := hw.closed.of_spared (fun _ _ => rfl) hspared
  refine ⟨⟨⟨hz.wired.sound, hz.wired.graph.setHeap fun c e he => ?_⟩, hz.asked⟩,
    hsame.uses hw.used, hw.closed.of_spared hspared hspared⟩
  exact Request.isOpen_sameAt (hz.asked c e he) hsame hw.used

/-- Values change outside of `T`, and more of them may be asked with from now on. -/
theorem change (hw : w.Steady T) (hT : ∀ r, T r → T' r) {k : Heap}
    (hkept : ∀ r : Nat, T r → k.cells[r]? = w.heap.cells[r]?) (hclosed : k.SameAt T' k)
    (hused : k.Uses T') : World.Steady T' { w with heap := k } := by
  have hsame : w.heap.SameAt T k := hw.closed.of_spared (fun _ _ => rfl) hkept
  refine ⟨⟨⟨World.invariant_sound.heap hw.tuned.wired.sound k,
    hw.tuned.wired.graph.setHeap fun c e he => ?_⟩, fun c e he => ?_⟩, hused, hclosed⟩
  · exact Request.isOpen_sameAt (hw.tuned.asked c e he) hsame hw.used
  · exact (hw.tuned.asked c e he).imp fun v hv => hv.mono hT

end World.Steady

namespace World.Tuned

variable {w z : World}

/-- Where the graph and the trackers are as they were, nothing changes for it. -/
theorem settled (hw : w.Tuned T h) {es : List (String × Value)}
    (hz : z.Settled w.graph w.trackers es) : z.Tuned T h := by
  refine ⟨⟨hz.sound, ?_⟩, fun c e he => hw.asked c e (hz.graph ▸ he)⟩
  rw [hz.graph, hz.trackers]
  exact hw.wired.graph

theorem self (hw : w.Tuned T h) : w.Settled w.graph w.trackers w.events :=
  ⟨hw.wired.sound, rfl, rfl, rfl⟩

end World.Tuned

namespace Session

variable {w : World}

/-! ## Boxes that are made -/

theorem trackers_push (w : World) (b : Box) :
    World.trackers { w with boxes := w.boxes.push b } = w.trackers.push b.tracker.dependency? := by
  rw [World.trackers, World.trackers, Array.map_push]

/-- A box is put behind all others, with a new tracker. -/
theorem tuned_addBox (hw : w.Tuned T h) (kind : TrackerKind) {f : Tracker → Box}
    (hsound : ∀ t, (f t).Sound) (ht : ∀ t, (f t).tracker = t) :
    (outcome (newTracker kind >>= fun t => addBox (f t)) w).2.Tuned T h := by
  have hpush (b : Box) (hb : b.Sound) : World.Sound { w with boxes := w.boxes.push b } :=
    World.invariant_sound.pushBox hw.wired.sound hb
  have hnone {t : Tracker} (hd : t.dependency? = none) :
      World.Tuned T h { w with boxes := w.boxes.push (f t) } := by
    refine ⟨⟨hpush _ (hsound t), ?_⟩, hw.asked⟩
    rw [trackers_push, ht, hd]
    exact hw.wired.graph.pushNone
  cases kind with
  | none => exact hnone rfl
  | recording => exact hnone rfl
  | dependency =>
    refine ⟨⟨World.invariant_sound.graph (hpush _ (hsound (.dependency w.graph.newDependency.1))) _,
      ?_⟩, hw.asked⟩
    show w.graph.newDependency.2.Wired h (World.trackers { w with
      boxes := w.boxes.push (f (.dependency w.graph.newDependency.1)) }) none
    rw [trackers_push, ht]
    exact hw.wired.graph.pushSome

/-- A box is made of what the world holds, and of a new tracker. -/
theorem exists_outcome_makeBox_eq (o : BoxOptions) (w : World) :
    (∃ e, outcome (makeBox o) w = (.error e, w)) ∨
      ∃ f : Tracker → Box, (∀ t, (f t).Sound) ∧ (∀ t, (f t).tracker = t) ∧
        outcome (makeBox o) w = outcome (f <$> newTracker o.tracker) w := by
  rw [makeBox, outcome_get_bind, outcome_bind_of_ok (outcome_initialLanguage o.language w)]
  dsimp only
  split
  · next m hm =>
    rw [pure_bind, newStore, bind_assoc, outcome_bind, outcome_reading_eq]
    cases Catalog.ofSource w.heap o.messages with
    | error e => exact .inl ⟨_, rfl⟩
    | ok c =>
      refine .inr ⟨fun t => ⟨w.defaults.languageFor w.heap o.language, m, Catalog.merge [] c, t,
        o.cache⟩, fun t => ⟨Markers.combined_of_ofOffers hm, Catalog.clean_copy c⟩, fun _ => rfl, ?_⟩
      dsimp only [Except.mapError]
      rw [pure_bind, map_eq_pure_bind]
  · next e _ => exact .inl ⟨_, rfl⟩

/-- A box that is made, and whatever it is changed into before it is put behind all others. -/
theorem tuned_makeBox_bind (hw : w.Tuned T h) (o : BoxOptions) {g : Box → Box}
    (hsound : ∀ b, b.Sound → (g b).Sound) (htracker : ∀ b, (g b).tracker = b.tracker) :
    (outcome (makeBox o >>= fun b => addBox (g b)) w).2.Tuned T h := by
  rw [outcome_bind]
  obtain ⟨e, he⟩ | ⟨f, hf, ht, hmake⟩ := exists_outcome_makeBox_eq o w
  · rw [he]
    exact hw
  · have hmade := tuned_addBox hw o.tracker (f := fun t => g (f t)) (fun t => hsound _ (hf t))
      fun t => (htracker _).trans (ht t)
    rw [outcome_bind] at hmade
    rw [hmake, outcome_map]
    cases hout : outcome (newTracker o.tracker) w with
    | mk x w' =>
      rw [hout] at hmade
      cases x <;> exact hmade

/-- **A box that is made has no watches.** -/
theorem tuned_newBox (hw : w.Tuned T h) (o : BoxOptions) : (outcome (newBox o) w).2.Tuned T h :=
  tuned_makeBox_bind hw o (g := id) (fun _ hb => hb) fun _ => rfl

theorem tuned_cloneBox (hw : w.Tuned T h) (id : Nat) : (outcome (cloneBox id) w).2.Tuned T h := by
  rw [cloneBox, outcome_bind, outcome_box_eq]
  cases hb : w.boxes[id]? with
  | none => exact hw
  | some b =>
    have hcombined := (World.invariant_sound.box hw.wired.sound hb).combined
    exact tuned_makeBox_bind hw
      ⟨.absent, .absent, .absent, b.language, .null, b.tracker.kind, b.cache⟩
      (fun _ _ => ⟨hcombined, Catalog.clean_copy b.messages⟩) fun _ => rfl

/-- A box that is made leaves the watches as they are. -/
theorem computations_newBox (o : BoxOptions) (w : World) :
    (outcome (newBox o) w).2.graph.computations = w.graph.computations := by
  rw [newBox, outcome_bind]
  obtain ⟨e, he⟩ | ⟨f, -, -, hf⟩ := exists_outcome_makeBox_eq o w
  · rw [he]
  · rw [hf, outcome_map]
    cases o.tracker <;> rfl

/-! ## Watches -/

/-- A watch that is made runs, whatever comes of it. -/
theorem settled_newWatch (hw : w.Wired h none) {k : Watch} (hbox : k.box < w.boxes.size) :
    ∃ es, (outcome (newWatch k) w).2.Settled ((w.graph.newComputation k).2.ran
      w.graph.computations.size (k.request.reads w.heap w.trackers k.box)) w.trackers es := by
  have hrange : k.box < w.trackers.size := by rwa [World.trackers, Array.size_map]
  have hentry : (w.graph.newComputation k).2.entryOf w.graph.computations.size = some (k, false) := by
    rw [Graph.entryOf_newComputation, if_pos rfl]
  have hafter : (outcome (newWatch k) w).2 = (outcome (runWatch w.graph.computations.size)
      { w with graph := (w.graph.newComputation k).2 }).2 := by
    rw [newWatch, outcome_get_bind]
    show (outcome (runWatch w.graph.computations.size >>= fun _ => pure _)
      { w with graph := (w.graph.newComputation k).2 }).2 = _
    rw [outcome_bind]
    cases outcome (runWatch w.graph.computations.size)
      { w with graph := (w.graph.newComputation k).2 } with
    | mk x w' => cases x <;> rfl
  rw [hafter]
  exact settled_runWatch (w := { w with graph := (w.graph.newComputation k).2 })
    (World.invariant_sound.graph hw.sound _) hentry
    (Graph.canRun_of_entryOf hentry ((hw.graph.newComputation hrange).idle _))

/-- **A watch that is made runs, and depends on its box if it asks it in its language.** -/
theorem tuned_newWatch (hw : w.Tuned T w.heap) {k : Watch} (hbox : k.box < w.boxes.size)
    (hk : k.request.All (Value.In T)) : (outcome (newWatch k) w).2.Tuned T w.heap := by
  have hrange : k.box < w.trackers.size := by rwa [World.trackers, Array.size_map]
  have hentry : (w.graph.newComputation k).2.entryOf w.graph.computations.size = some (k, false) := by
    rw [Graph.entryOf_newComputation, if_pos rfl]
  obtain ⟨es, hran⟩ := settled_newWatch hw.wired hbox
  refine ⟨⟨hran.sound, ?_⟩, fun c e he => ?_⟩
  · rw [hran.graph, hran.trackers]
    exact (hw.wired.graph.newComputation hrange).ran hentry
  · rw [hran.graph, Graph.entryOf_ran, Graph.entryOf_newComputation] at he
    split at he
    · cases he
      exact hk
    · exact hw.asked c e he

theorem tuned_stopWatch (hw : w.Tuned T h) (c : Nat) : (outcome (stopWatch c) w).2.Tuned T h := by
  refine ⟨⟨World.invariant_sound.graph hw.wired.sound _, hw.wired.graph.stop c⟩, fun c' e he => ?_⟩
  have hentry : (w.graph.stop c).entryOf c' = some e := he
  rw [Graph.entryOf_stop] at hentry
  split at hentry
  · obtain ⟨e', he', rfl⟩ := Option.map_eq_some_iff.mp hentry
    exact hw.asked c' e' he'
  · exact hw.asked c' e hentry

/-! ## Another language -/

/-- A box gets another language, and the first watches that have to run again take their turns. -/
def turns (id : Nat) (language : Value) (n : Nat) : Session Unit := do
  rerunAll ((← tell id language).take n)

/-- Only the box changes before the watches run again. -/
theorem exists_outcome_tell (hw : w.Sound) {id : Nat} {b : Box} (hb : w.boxes[id]? = some b)
    (language : Value) :
    ∃ w', outcome (tell id language) w =
        (.ok ((b.tracker.dependency?.map w.graph.dependentsOf).getD []), w') ∧
      w'.Settled w.graph w.trackers w.events ∧ w'.heap = w.heap := by
  have hP := World.upheld_settled w.graph w.trackers w.events
  have hsettled : w.Settled w.graph w.trackers w.events := ⟨hw, rfl, rfl, rfl⟩
  have hbox : b.Sound := World.invariant_sound.box hw hb
  have hset (t : Tracker) (ht : t.dependency? = b.tracker.dependency?) {w' : World}
      (hw' : w'.Settled w.graph w.trackers w.events) :
      World.Settled w.graph w.trackers w.events
        { w' with boxes := w'.boxes.setIfInBounds id { b with language := language, tracker := t } } :=
    hP.setBox hw' id ⟨hbox.change language t, (World.getElem?_trackers hb).trans (congrArg some ht.symm)⟩
  have hfirst := hset b.tracker rfl hsettled
  rw [tell, outcome_bind_of_ok (outcome_box hb), setBox, outcome_modify_bind]
  cases ht : b.tracker with
  | none => exact ⟨_, rfl, ht ▸ hfirst, rfl⟩
  | recording n m => exact ⟨_, rfl, hset (.recording n (m + 1)) (by rw [ht]; rfl) (ht ▸ hfirst), rfl⟩
  | dependency d => exact ⟨_, rfl, hP.log (ht ▸ hfirst) _, rfl⟩

/-- Nothing in `T` is changed by the first watches that run again, however many these are. -/
def SparesTurns (T : Ref → Prop) (id : Nat) (language : Value) (w : World) : Prop :=
  ∀ (n : Nat) (r : Nat), T r →
    (outcome (turns id language n) w).2.heap.cells[r]? = w.heap.cells[r]?

theorem outcome_turns {cs : List Nat} {w' : World} {id : Nat} {language : Value}
    (htold : outcome (tell id language) w = (.ok cs, w')) (n : Nat) :
    outcome (turns id language n) w = outcome (rerunAll (cs.take n)) w' := by
  rw [turns, outcome_bind_of_ok htold]

/-- **What comes of another language**: the box has it before anything runs, and the watches that
depend on the box take their turns. -/
theorem exists_outcome_setLanguage (hw : w.Steady T) {id d : Nat} {b : Box}
    (hb : w.boxes[id]? = some b) (hd : b.tracker = .dependency d) {language : Value}
    (hspared : SparesTurns T id language w) :
    ∃ w' done rest, outcome (tell id language) w = (.ok (w.graph.dependentsOf d), w') ∧
      w'.Settled w.graph w.trackers w.events ∧ w'.heap = w.heap ∧
      w.graph.dependentsOf d = done ++ rest ∧
      w'.TurnedAll w.heap done (outcome (setLanguage id language) w).2 ∧
      (outcome (setLanguage id language) w).2.graph.dependentsOf d = rest ++ done ∧
      w'.TurnsEnd done rest (outcome (setLanguage id language) w).1 := by
  obtain ⟨w', htold, hsettled, hheap⟩ := exists_outcome_tell hw.tuned.wired.sound hb language
  rw [hd] at htold
  have hrange : w'.trackers[id]? = some (some d) := by
    rw [hsettled.trackers, World.getElem?_trackers hb, hd]
    rfl
  have hof : w'.graph.dependentsOf d = w.graph.dependentsOf d ++ [] := by
    rw [hsettled.graph, List.append_nil]
  have hask : w'.AskAlike w.heap (w.graph.dependentsOf d) := by
    intro n c e he
    have hsame : w.heap.SameAt T (outcome (rerunAll ((w.graph.dependentsOf d).take n)) w').2.heap :=
      hw.closed.of_spared (fun _ _ => rfl) fun r hr => outcome_turns htold n ▸ hspared n r hr
    exact (Request.isOpen_sameAt (hw.tuned.asked c e (hsettled.graph ▸ he)) hsame hw.used).symm
  obtain ⟨done, rest, hsplit, hall, hbehind, hend⟩ :=
    exists_turns (hw.tuned.settled hsettled).wired hrange hof hask
  refine ⟨w', done, rest, htold, hsettled, hheap, hsplit, ?_⟩
  rw [setLanguage_eq, outcome_bind_of_ok htold]
  rw [List.append_nil] at hbehind
  exact ⟨hall, hbehind, hend⟩

theorem tuned_setLanguage (hw : w.Steady T) {id : Nat} {language : Value}
    (hspared : SparesTurns T id language w) :
    (outcome (setLanguage id language) w).2.Tuned T w.heap := by
  cases hb : w.boxes[id]? with
  | none =>
    rw [setLanguage, outcome_bind, outcome_box_eq, hb]
    exact hw.tuned
  | some b =>
    cases ht : b.tracker with
    | dependency d =>
      obtain ⟨w', done, rest, -, hsettled, -, -, hall, -, -⟩ :=
        exists_outcome_setLanguage hw hb ht hspared
      refine ⟨hall.wired, fun c e he => hw.tuned.asked c e ?_⟩
      rwa [← hsettled.graph, ← hall.entryOf]
    | _ =>
      -- No watch depends on the box.
      obtain ⟨w', htold, hsettled, -⟩ := exists_outcome_tell hw.tuned.wired.sound hb language
      rw [ht] at htold
      rw [setLanguage_eq, outcome_bind_of_ok htold]
      exact hw.tuned.settled hsettled

end Session

/-! ## Steps -/

/-- What a step makes watches ask with lies in `T`. -/
def Step.AsksIn (T : Ref → Prop) : Step → Prop
  | .watch _ _ r => r.All (Value.In T)
  | _ => True

/-- A step changes nothing in `T`, and neither does any of the watches that run again in it. -/
def Step.SparesAll (T : Ref → Prop) (room : Room) (s : Step) : Prop :=
  s.Spares T room ∧ ∀ name language, s = .setLanguage name language → ∀ e,
    room.boxes.find? (·.1 == name) = some e →
      Session.SparesTurns T e.2 language room.cleared.world

/-- Rooms in sessions that never change what lies in `T`: all that the watches have been made to ask
with. Between two steps values may change in any way outside of `T`, and more of them may be asked
with from then on. -/
inductive Room.Steady : (Ref → Prop) → Room → Prop
  | start (b : Bounds) : Steady (fun _ => False) (.start b)
  | step {T : Ref → Prop} {room : Room} {s : Step} (h : Steady T room) (hasks : s.AsksIn T)
    (hspares : s.SparesAll T room) : Steady T (room.after s)
  | change {T T' : Ref → Prop} {room : Room} {k : Heap} (h : Steady T room) (hT : ∀ r, T r → T' r)
    (hkept : ∀ r : Nat, T r → k.cells[r]? = room.world.heap.cells[r]?) (hclosed : k.SameAt T' k)
    (hused : k.Uses T') : Steady T' (room.setHeap k)

theorem played_of_steady {room : Room} (hroom : room.Steady T) : Played room := by
  induction hroom with
  | start b => exact .start b
  | step _ _ _ ih => exact .attempt _ ih
  | change _ _ _ _ _ ih => exact .change _ ih

theorem World.Steady.cleared {room : Room} (hw : room.world.Steady T) :
    room.cleared.world.Steady T :=
  ⟨⟨⟨World.invariant_sound.noted hw.tuned.wired.sound [] [], hw.tuned.wired.graph⟩, hw.tuned.asked⟩,
    hw.used, hw.closed⟩

namespace Room

variable {room : Room}

/-- What holds of a world with the same graph holds behind a step that gets nothing new into it. -/
theorem settled_after (hw : room.world.Steady T) {s : Step} (hcalm : s.isCalm = true) :
    (room.after s).world.Settled room.world.graph room.world.trackers [] := by
  have hP := World.upheld_settled room.world.graph room.world.trackers []
  have hstart : room.cleared.world.Settled room.world.graph room.world.trackers [] :=
    ⟨hw.cleared.tuned.wired.sound, rfl, rfl, rfl⟩
  have hdepend (w : World) (h : w.Settled room.world.graph room.world.trackers []) (d : Nat) :
      World.Settled room.world.graph room.world.trackers []
        { w with graph := (w.graph.depend d none).2 } := by
    have hidle : w.graph.stack = [] := h.graph ▸ hw.tuned.wired.graph.stack
    exact ⟨World.invariant_sound.graph h.sound _, (Graph.asked_of_idle hidle (some d)).trans h.graph,
      h.trackers, h.events⟩
  have hdefaults (c : DefaultsChange) :
      c.Respects (World.Settled room.world.graph room.world.trackers []) :=
    fun _ _ _ h h' hr =>
      ⟨c.respects_sound _ _ _ h.sound h'.sound hr, h'.graph, h'.trackers, h'.events⟩
  refine Play.upheld_perform hP hdepend (Room.invariant_world _) room.cleared hstart hcalm ?_
  cases s with
  | applyDefaults c snapshot => exact ⟨hdefaults c, fun _ _ _ _ h => h⟩
  | applyEnvironment start environ => exact fun _ c _ _ => hdefaults c
  | resetDefaults =>
    exact fun _ h => ⟨⟨h.sound.compiled, h.sound.boxes, trivial⟩, h.graph, h.trackers, h.events⟩
  | addMessages name messages => exact fun _ _ _ _ hb hm => ⟨⟨hb.1.combined, hm⟩, hb.2⟩
  | newBox name o cache => cases hcalm
  | cloneBox name copy => cases hcalm
  | setLanguage name language => cases hcalm
  | _ => trivial

/-- A box that is made gets a name and is shown. -/
theorem tuned_placed {made : Session Nat}
    (hmade : (outcome made room.world).2.Tuned T h) (name : String) :
    (outcome (Play.placed name made) room).2.world.Tuned T h := by
  rw [Play.placed, outcome_bind, Play.outcome_session]
  cases hout : outcome made room.world with
  | mk x w =>
    rw [hout] at hmade
    cases x with
    | error e => exact hmade
    | ok id =>
      have hP := World.upheld_settled w.graph w.trackers w.events
      have hkept : Keeps (fun room : Room => room.world.Settled w.graph w.trackers w.events)
          (do
            modify fun room => { room with boxes := (name, id) :: room.boxes }
            Play.shownBox id) fun _ => True :=
        Keeps.bind (Q := fun _ => True) (keeps_modify fun _ h => h) fun _ _ =>
          Play.keeps_shownBox (Room.invariant_world _) hP id
      exact hmade.settled (hkept { room with world := w } hmade.self).1

/-- What is found by its name, and what is done with it. -/
theorem tuned_find_bind {α : Type} {names : Room → List (String × α)} {name : String}
    {m : α → Play Shown} (hw : room.world.Tuned T h)
    (hm : ∀ e, (names room).find? (·.1 == name) = some e →
      (outcome (m e.2) room).2.world.Tuned T h) :
    (outcome (Play.find names name >>= m) room).2.world.Tuned T h := by
  rw [outcome_bind, Play.outcome_find]
  cases hfind : (names room).find? (·.1 == name) with
  | none => exact hw
  | some e => exact hm e hfind

/-- What is done in the world, and is then told without a change of it. -/
theorem tuned_session_bind {α : Type} {m : Session α} {rest : α → Play Shown}
    (hm : (outcome m room.world).2.Tuned T h)
    (hrest : ∀ a room, (outcome (rest a) room).2.world = room.world) :
    (outcome (Play.session m >>= rest) room).2.world.Tuned T h := by
  rw [outcome_bind, Play.outcome_session]
  cases hout : outcome m room.world with
  | mk x w =>
    rw [hout] at hm
    cases x with
    | error e => exact hm
    | ok a =>
      show (outcome (rest a) { room with world := w }).2.world.Tuned T h
      rw [hrest]
      exact hm

/-- **Behind each step the graph is wired**, on the heap before it. -/
theorem tuned_after (hroom : Played room) (hw : room.world.Steady T) {s : Step} (hasks : s.AsksIn T)
    (hspares : s.SparesAll T room) : (room.after s).world.Tuned T room.world.heap := by
  have hcleared := hw.cleared
  have hcalm (hs : s.isCalm = true) : (room.after s).world.Tuned T room.world.heap :=
    hw.tuned.settled (settled_after hw hs)
  rw [after_eq] at hcalm ⊢
  cases s with
  | newBox name o cache =>
    have hperform (cache : Option Nat) : (outcome (Play.placed name
        (Session.newBox { o with cache := cache })) room.cleared).2.world.Tuned T room.world.heap :=
      tuned_placed (Session.tuned_newBox hcleared.tuned _) name
    cases cache with
    | none =>
      rw [Play.perform_newBox]
      exact hperform none
    | some c =>
      have hfound : Play.perform (.newBox name o (some c)) = Play.find (·.caches) c >>=
          fun cache => Play.placed name (Session.newBox { o with cache := cache }) := by
        rw [Play.perform]
        rfl
      rw [hfound]
      exact tuned_find_bind hcleared.tuned fun e _ => hperform e.2
  | cloneBox name copy =>
    rw [Play.perform_cloneBox]
    exact tuned_find_bind hcleared.tuned fun e _ =>
      tuned_placed (Session.tuned_cloneBox hcleared.tuned e.2) copy
  | watch name box r =>
    rw [Play.perform]
    refine tuned_find_bind hcleared.tuned fun e he => ?_
    have hrange := (distinct_of_played hroom).inRange e (List.mem_of_find?_eq_some he)
    exact tuned_session_bind (Session.tuned_newWatch (k := ⟨name, e.2, r⟩) hcleared.tuned hrange hasks)
      fun _ _ => rfl
  | stop name =>
    rw [Play.perform]
    exact tuned_find_bind hcleared.tuned fun e _ =>
      tuned_session_bind (Session.tuned_stopWatch hcleared.tuned e.2) fun _ _ => rfl
  | setLanguage name language =>
    rw [Play.perform]
    exact tuned_find_bind hcleared.tuned fun e he =>
      tuned_session_bind (Session.tuned_setLanguage hcleared (hspares.2 name language rfl e he))
        fun _ _ => rfl
  | _ => exact hcalm rfl

end Room

theorem World.steady_start (b : Bounds) : (World.start b).Steady fun _ => False where
  tuned := by
    have htrackers : (World.start b).trackers = #[] := Array.map_empty
    exact ⟨⟨World.sound_start b, htrackers ▸ Graph.wired_empty _⟩, nofun⟩
  used := nofun
  closed := ⟨nofun, nofun⟩

/-- **In these sessions the reactive graph is wired throughout.** -/
theorem steady_world {room : Room} (hroom : room.Steady T) : room.world.Steady T := by
  induction hroom with
  | start b => exact World.steady_start b
  | step hroom hasks hspares ih =>
    exact ih.of_tuned (Room.tuned_after (played_of_steady hroom) ih hasks hspares) hspares.1
  | change _ hT hkept hclosed hused ih => exact ih.change hT hkept hclosed hused

/-! ## Watches of a box -/

namespace Room

variable {room : Room} {name x : String} {id : Nat} {r : Request}

/-- A watch that is made runs, and all boxes keep their names. -/
theorem after_watch
    (hname : room.boxes.find? (·.1 == name) = some (x, id)) (watch : String) (r : Request) :
    (room.after (.watch watch name r)).boxes = room.boxes ∧
      (room.after (.watch watch name r)).world =
        (outcome (Session.newWatch ⟨watch, id, r⟩) room.cleared.world).2 := by
  have hfind : outcome (Play.find (·.boxes) name) room.cleared = (.ok id, room.cleared) :=
    Play.outcome_find_of_eq hname
  rw [after_eq, Play.perform, outcome_bind_of_ok hfind, outcome_bind, Play.outcome_session]
  cases outcome (Session.newWatch ⟨watch, id, r⟩) room.cleared.world with
  | mk y w => cases y <;> exact ⟨rfl, rfl⟩

/-- **A watch that asks a box in its language comes last of those that depend on the box.** -/
theorem exists_after_watch {d : Nat} (hw : room.world.Steady T)
    (hname : room.boxes.find? (·.1 == name) = some (x, id))
    (hd : room.world.trackers[id]? = some (some d)) (hopen : r.isOpen room.world.heap = true)
    (watch : String) :
    ∃ b, (room.after (.watch watch name r)).box? name = some b ∧ b.tracker = .dependency d ∧
      (room.after (.watch watch name r)).world.graph.dependentsOf d =
        room.world.graph.dependentsOf d ++ [room.world.graph.computations.size] := by
  have hwired := hw.cleared.tuned.wired
  obtain ⟨a, ha, -⟩ := World.exists_tracker hd
  have hbox : id < room.world.boxes.size := (Array.getElem?_eq_some_iff.mp ha).1
  have hreads : r.reads room.world.heap room.world.trackers id = some d :=
    Request.reads_eq_some_iff.mpr ⟨hopen, hd⟩
  obtain ⟨es, hran⟩ := Session.settled_newWatch (k := ⟨watch, id, r⟩) hwired hbox
  obtain ⟨hboxes, hworld⟩ := after_watch hname watch r
  rw [← hworld, show r.reads room.cleared.world.heap room.cleared.world.trackers id = some d
    from hreads] at hran
  obtain ⟨b, hb, hb'⟩ := World.exists_tracker (hran.trackers ▸ hd)
  refine ⟨b, ?_, hb', ?_⟩
  · rw [box?, hboxes, hname]
    exact hb
  · have hnew : room.world.graph.computations.size ∉ room.world.graph.dependentsOf d := by
      intro hmem
      obtain ⟨-, k, hk, -⟩ := (hwired.graph.mem_iff id d hd _).mp hmem
      exact Nat.lt_irrefl _ (Graph.lt_of_entryOf hk)
    have hrange : ∀ e ∈ some d, e < room.world.graph.dependents.size := by
      rintro e ⟨⟩
      exact hwired.graph.inRange id d hd
    rw [hran.graph]
    exact (Graph.dependentsOf_ran (g := (room.world.graph.newComputation ⟨watch, id, r⟩).2) hrange
      hnew).trans (if_pos rfl)

end Room

end Wording
