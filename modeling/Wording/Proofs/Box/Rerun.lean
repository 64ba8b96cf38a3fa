import Wording.Proofs.Box.Wired

/-!
# Watches that run again

When a box gets another language, the watches that depend on it take their turns, one after the other.
The turn of a watch ends with the watch behind all others that depend on the box, whether it has got a
message or not; the first one that gets none ends the turns. So behind them the same watches depend on
the box as before, those that have had their turn behind the others.

* `Session.turned`: one turn
* `Session.exists_turns`: all turns
-/

namespace Wording

/-- A sound world with a wired graph. -/
structure World.Wired (h : Heap) (next : Option Nat) (w : World) : Prop where
  sound : w.Sound
  graph : w.graph.Wired h w.trackers next

/-- A world in which a watch takes its turn. -/
def World.taking (w : World) (c : Nat) : World :=
  { w with graph := (w.graph.detach c).enter c }

/-- What the graph holds when a watch has had its turn. -/
structure World.Turned (h : Heap) (c : Nat) (k : Watch) (w z : World) : Prop where
  sound : z.Sound
  trackers : z.trackers = w.trackers
  graph : z.graph = (w.graph.detach c).ran c (k.request.reads h w.trackers k.box)

namespace World.Turned

variable {h : Heap} {c id d : Nat} {k : Watch} {w z : World}

theorem wired (hz : World.Turned h c k w z) (hw : w.Wired h none)
    (hk : w.graph.entryOf c = some (k, false)) : z.Wired h none := by
  refine ⟨hz.sound, ?_⟩
  rw [hz.graph, hz.trackers]
  exact (hw.graph.detach c).ran ((Graph.entryOf_detach c c).trans hk)

theorem entryOf (hz : World.Turned h c k w z) (c' : Nat) :
    z.graph.entryOf c' = w.graph.entryOf c' := by
  rw [hz.graph, Graph.entryOf_ran, Graph.entryOf_detach]

theorem runsOf (hz : World.Turned h c k w z) (hk : w.graph.entryOf c = some (k, false)) (c' : Nat) :
    z.graph.runsOf c' = w.graph.runsOf c' + if c = c' then 1 else 0 := by
  have hlt : c < (w.graph.detach c).computations.size :=
    Graph.lt_of_entryOf ((Graph.entryOf_detach c c).trans hk)
  rw [hz.graph, Graph.runsOf_ran hlt, Graph.runsOf_detach]

/-- **The watch stands behind all others that depend on its box.** -/
theorem dependentsOf (hz : World.Turned h c k w z) (hw : w.Wired h none)
    (hd : w.trackers[id]? = some (some d)) (hk : w.graph.entryOf c = some (k, false))
    (hc : c ∈ w.graph.dependentsOf d) :
    z.graph.dependentsOf d = (w.graph.dependentsOf d).erase c ++ [c] := by
  obtain ⟨-, l, hl, rfl, hopen⟩ := (hw.graph.mem_iff id d hd c).mp hc
  obtain rfl : k = l := congrArg Prod.fst (Option.some.inj (hk.symm.trans hl))
  have hreads : k.request.reads h w.trackers k.box = some d :=
    Request.reads_eq_some_iff.mpr ⟨hopen, hd⟩
  have hrange : ∀ e ∈ (some d : Option Nat), e < w.graph.dependents.size := by
    rintro e ⟨⟩
    exact hw.graph.inRange k.box d hd
  rw [hz.graph, hreads, Graph.dependentsOf_detach_ran hw.graph.linked hrange, if_pos rfl]

end World.Turned

namespace Session

variable {h : Heap} {c id d : Nat} {k : Watch} {w : World}

/-! ## A turn -/

theorem rerunAll_append (cs ds : List Nat) :
    rerunAll (cs ++ ds) = rerunAll cs >>= fun _ => rerunAll ds := by
  induction cs with
  | nil => exact (pure_bind _ _).symm
  | cons c cs ih =>
    rw [List.cons_append, rerunAll, rerunAll, ih, bind_assoc]
    refine bind_congr fun w => ?_
    dsimp only
    split
    · simp only [bind_assoc]
    · rfl

theorem rerunAll_cons (c : Nat) (cs : List Nat) :
    rerunAll (c :: cs) = rerunAll [c] >>= fun _ => rerunAll cs := rerunAll_append [c] cs

theorem outcome_turn (hc : w.graph.canRun c = true) :
    outcome (rerunAll [c]) w = outcome (runWatch c) { w with graph := w.graph.detach c } := by
  rw [rerunAll, outcome_get_bind, if_pos hc, outcome_modify_bind, outcome_bind]
  cases outcome (runWatch c) { w with graph := w.graph.detach c } with
  | mk x w' => cases x <;> rfl

/-- In its turn, a watch asks its box. -/
theorem outcome_turn_message (hw : w.Wired h none) (hk : w.graph.entryOf c = some (k, false)) :
    outcome (rerunAll [c]) w =
      match outcome (message k.box k.request) (w.taking c) with
      | (.ok v, w') =>
        (.ok (), { w' with events := (k.name, v) :: w'.events, graph := w'.graph.leave })
      | (.error e, w') => (.error e, { w' with graph := w'.graph.leave }) := by
  have hcan : w.graph.canRun c = true := Graph.canRun_of_entryOf hk (hw.graph.idle c)
  rw [outcome_turn hcan, outcome_runWatch (w := { w with graph := w.graph.detach c })
    ((Graph.entryOf_detach c c).trans hk) (Graph.canRun_detach hcan)]
  rfl

/-- **A turn puts the watch down with its box if and only if it asks it in its language.** -/
theorem turned (hw : w.Wired h none) (hk : w.graph.entryOf c = some (k, false))
    (hopen : k.request.isOpen w.heap = k.request.isOpen h) :
    World.Turned h c k w (outcome (rerunAll [c]) w).2 := by
  have hcan : w.graph.canRun c = true := Graph.canRun_of_entryOf hk (hw.graph.idle c)
  obtain ⟨es, hsettled⟩ := settled_runWatch (w := { w with graph := w.graph.detach c })
    (World.invariant_sound.graph hw.sound _) ((Graph.entryOf_detach c c).trans hk)
    (Graph.canRun_detach hcan)
  have hreads : k.request.reads w.heap w.trackers k.box = k.request.reads h w.trackers k.box := by
    rw [Request.reads, Request.reads, hopen]
  rw [outcome_turn hcan]
  exact ⟨hsettled.sound, hsettled.trackers, hsettled.graph.trans (congrArg _ hreads)⟩

end Session

/-! ## All turns -/

/-- What the graph holds when the watches in `done` have had their turns. -/
structure World.TurnedAll (h : Heap) (done : List Nat) (w z : World) : Prop where
  wired : z.Wired h none
  trackers : z.trackers = w.trackers
  entryOf : ∀ c, z.graph.entryOf c = w.graph.entryOf c
  runsOf : ∀ c, z.graph.runsOf c = w.graph.runsOf c + done.count c

/-- How turns end: all have been taken, or the last one that has been taken has failed. -/
inductive World.TurnsEnd (w : World) (done rest : List Nat) : Except Error Unit → Prop
  | ok (hrest : rest = []) : TurnsEnd w done rest (.ok ())
  | error {e : Error} {ran : List Nat} {c : Nat} {w' : World} (hdone : done = ran ++ [c])
      (hran : outcome (Session.rerunAll ran) w = (.ok (), w'))
      (hfailed : (outcome (Session.rerunAll [c]) w').1 = .error e) : TurnsEnd w done rest (.error e)

/-- Whatever turns are taken, watches ask for the same as on the heap `h`. -/
def World.AskAlike (h : Heap) (cs : List Nat) (w : World) : Prop :=
  ∀ n c e, w.graph.entryOf c = some e →
    e.1.request.isOpen (outcome (Session.rerunAll (cs.take n)) w).2.heap = e.1.request.isOpen h

namespace Session

variable {h : Heap} {c id d : Nat} {k : Watch} {w : World}

/-- **Watches take their turns in the order in which they depend on the box**, until one of them
fails; and whoever has had its turn stands behind the others. -/
theorem exists_turns {cs past : List Nat} (hw : w.Wired h none)
    (hd : w.trackers[id]? = some (some d)) (hcs : w.graph.dependentsOf d = cs ++ past)
    (hask : w.AskAlike h cs) :
    ∃ done rest, cs = done ++ rest ∧ w.TurnedAll h done (outcome (rerunAll cs) w).2 ∧
      (outcome (rerunAll cs) w).2.graph.dependentsOf d = rest ++ past ++ done ∧
      w.TurnsEnd done rest (outcome (rerunAll cs) w).1 := by
  induction cs generalizing w past with
  | nil =>
    exact ⟨[], [], rfl, ⟨hw, rfl, fun _ => rfl, fun _ => rfl⟩,
      hcs.trans (List.append_nil past).symm, .ok rfl⟩
  | cons c cs ih =>
    have hc : c ∈ w.graph.dependentsOf d := by simp [hcs]
    obtain ⟨-, k, hk, -⟩ := (hw.graph.mem_iff id d hd c).mp hc
    have hturned := turned hw hk (hask 0 c _ hk)
    have hwired := hturned.wired hw hk
    have hbehind : (outcome (rerunAll [c]) w).2.graph.dependentsOf d = cs ++ (past ++ [c]) := by
      rw [hturned.dependentsOf hw hd hk hc, hcs, List.cons_append, List.erase_cons_head,
        List.append_assoc]
    have hruns (c' : Nat) : (outcome (rerunAll [c]) w).2.graph.runsOf c' =
        w.graph.runsOf c' + [c].count c' := by
      rw [hturned.runsOf hk, List.count_singleton]
      simp only [beq_iff_eq]
    rw [rerunAll_cons, outcome_bind]
    cases hout : outcome (rerunAll [c]) w with
    | mk x w' =>
      rw [hout] at hturned hwired hbehind hruns
      cases x with
      | error e =>
        have hempty : outcome (rerunAll []) w = (.ok (), w) := rfl
        refine ⟨[c], cs, rfl, ⟨hwired, hturned.trackers, hturned.entryOf, hruns⟩, ?_,
          .error rfl hempty (congrArg Prod.fst hout)⟩
        rw [hbehind, List.append_assoc]
      | ok u =>
        have hcons (cs : List Nat) : outcome (rerunAll (c :: cs)) w = outcome (rerunAll cs) w' := by
          rw [rerunAll_cons, outcome_bind_of_ok hout]
        have hask' : w'.AskAlike h cs := fun n c' e he => by
          rw [← hcons]
          exact hask (n + 1) c' e (hturned.entryOf c' ▸ he)
        obtain ⟨done, rest, rfl, hall, hof, hend⟩ :=
          ih hwired (hturned.trackers ▸ hd) hbehind hask'
        refine ⟨c :: done, rest, rfl, ⟨hall.wired, hall.trackers.trans hturned.trackers,
          fun c' => (hall.entryOf c').trans (hturned.entryOf c'), fun c' => ?_⟩, ?_, ?_⟩
        · rw [hall.runsOf, hruns, Nat.add_assoc, ← List.count_append]
          rfl
        · rw [hof, List.append_assoc, List.append_assoc, List.append_assoc]
          rfl
        · dsimp only
          generalize (outcome (rerunAll (done ++ rest)) w').1 = x at hend
          cases hend with
          | ok hrest => exact .ok hrest
          | error hdone hran hfailed =>
            exact .error (congrArg (c :: ·) hdone) ((hcons _).trans hran) hfailed

end Session

end Wording
