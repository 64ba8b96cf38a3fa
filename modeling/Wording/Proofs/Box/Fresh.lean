import Wording.Proofs.Box.Steady

/-!
# Fresh messages

When a box gets another language, the watches that ask it in its language get what the box answers
with from then on. Take a session that never changes what the watches ask with, nor, while they run
again, what the box says: callables among its messages change nothing. The watches that run again are
those that are not stopped and ask the box in its language, each of them once and in their order; and
what each of them gets is what the box answers with when it is asked the same right afterwards. If one
of them gets no message, then the others behind it do not run, and all of them are taken up by the next
language.

* `World.Got`: what a watch has got
* `Session.exists_events`: what the watches get, one after the other
* `rerun_setLanguage`: the watches that run again
-/

namespace Wording

variable {T : Ref → Prop} {id : Nat} {f : Footing} {c : Nat} {k : Watch} {w z : World}

/-! ## What a watch gets in its turn -/

namespace World.Steady

/-- A world stays steady while a watch has its turn. -/
theorem turn (hw : w.Steady T) (hk : w.graph.entryOf c = some (k, false))
    (hspared : ∀ r : Nat, T r →
      (outcome (Session.rerunAll [c]) w).2.heap.cells[r]? = w.heap.cells[r]?) :
    (outcome (Session.rerunAll [c]) w).2.Steady T := by
  have hturned := Session.turned hw.tuned.wired hk rfl
  exact hw.of_tuned ⟨hturned.wired hw.tuned.wired hk, fun c' e he =>
    hw.tuned.asked c' e (hturned.entryOf c' ▸ he)⟩ hspared

theorem rests_taking (hrests : w.Rests id f) (c : Nat) : (w.taking c).Rests id f :=
  (World.invariant_rests id f).graph hrests _

/-- **A turn puts something behind the heap at most.** -/
theorem extends_turn (hw : w.Steady T) (hrests : w.Rests k.box f) (hf : f.In T)
    (hk : w.graph.entryOf c = some (k, false))
    (hspared : ∀ r : Nat, T r →
      (outcome (Session.rerunAll [c]) w).2.heap.cells[r]? = w.heap.cells[r]?) :
    w.heap.Extends (outcome (Session.rerunAll [c]) w).2.heap := by
  have hheap : (outcome (Session.rerunAll [c]) w).2.heap =
      (outcome (Session.message k.box k.request) (w.taking c)).2.heap := by
    rw [Session.outcome_turn_message hw.tuned.wired hk]
    cases outcome (Session.message k.box k.request) (w.taking c) with
    | mk x w' => cases x <;> rfl
  rw [hheap] at hspared ⊢
  exact (rests_taking hrests c).extends_message hf (hw.tuned.asked c _ hk) hw.used hw.closed hspared

end World.Steady

/-- What a watch has got is what its box answered with before, in a world that all has been put behind
since. -/
def World.Got (T : Ref → Prop) (id : Nat) (f : Footing) (z : World) (c : Nat)
    (e : String × Value) : Prop :=
  ∃ k a a', z.graph.entryOf c = some (k, false) ∧ e.1 = k.name ∧ a.Rests id f ∧ a.heap.Uses T ∧
    a.heap.SameAt T a.heap ∧ k.request.All (Value.In T) ∧
    outcome (Session.message id k.request) a = (.ok e.2, a') ∧ a.heap.Extends a'.heap ∧
    a'.heap.Extends z.heap

theorem World.Got.mono {z' : World} {e : String × Value} (h : z.Got T id f c e)
    (hentry : z'.graph.entryOf c = z.graph.entryOf c) (hz : z.heap.Extends z'.heap) :
    z'.Got T id f c e := by
  obtain ⟨k, a, a', hk, he, hrests, hused, hclosed, hr, hv, hextends, hheap⟩ := h
  exact ⟨k, a, a', hentry.trans hk, he, hrests, hused, hclosed, hr, hv, hextends, hheap.trans hz⟩

namespace Session

/-- **A watch that gets a message in its turn notes it.** -/
theorem exists_event {w' : World} (hw : w.Steady T) (hrests : w.Rests k.box f)
    (hk : w.graph.entryOf c = some (k, false)) (hturn : outcome (rerunAll [c]) w = (.ok (), w')) :
    ∃ v a, outcome (message k.box k.request) (w.taking c) = (.ok v, a) ∧ w'.heap = a.heap ∧
      w'.events = (k.name, v) :: w.events ∧ w'.Rests k.box f := by
  have hkept := keeps_rerunAll (World.invariant_rests k.box f) [c] w hrests
  have hsettled := settled_message (w := w.taking c)
    ⟨World.invariant_sound.graph hw.tuned.wired.sound _, rfl, rfl, rfl⟩ k.box k.request
  rw [hturn] at hkept
  rw [outcome_turn_message hw.tuned.wired hk] at hturn
  cases hout : outcome (message k.box k.request) (w.taking c) with
  | mk x a =>
    rw [hout] at hturn hsettled
    cases x with
    | error e => cases hturn
    | ok v =>
      cases hturn
      exact ⟨v, a, rfl, rfl, congrArg ((k.name, v) :: ·) hsettled.events, hkept.1⟩

/-- **What the watches get that have their turns, one after the other.** -/
theorem exists_events {cs : List Nat} (hw : w.Steady T) (hrests : w.Rests id f) (hf : f.In T)
    (hcs : ∀ c ∈ cs, ∃ k, w.graph.entryOf c = some (k, false) ∧ k.box = id)
    (hspared : ∀ (n : Nat) (r : Nat), T r →
      (outcome (rerunAll (cs.take n)) w).2.heap.cells[r]? = w.heap.cells[r]?)
    (hturns : outcome (rerunAll cs) w = (.ok (), z)) :
    ∃ es, z.events = es.reverse ++ w.events ∧ List.Forall₂ (z.Got T id f) cs es ∧
      z.Steady T ∧ z.Rests id f ∧ w.heap.Extends z.heap ∧
      ∀ c, z.graph.entryOf c = w.graph.entryOf c := by
  induction cs generalizing w with
  | nil =>
    cases hturns
    exact ⟨[], rfl, .nil, hw, hrests, .refl _, fun _ => rfl⟩
  | cons c cs ih =>
    obtain ⟨k, hk, rfl⟩ := hcs c (List.mem_cons_self ..)
    rw [rerunAll_cons] at hturns
    obtain ⟨_, w', hturn, hturns⟩ := exists_of_outcome_bind_eq_ok hturns
    have hsame (r : Nat) (hr : T r) :
        (outcome (rerunAll [c]) w).2.heap.cells[r]? = w.heap.cells[r]? := hspared 1 r hr
    have hw' := hw.turn hk hsame
    have hextends := hw.extends_turn hrests hf hk hsame
    have hentry := (turned hw.tuned.wired hk rfl).entryOf
    rw [hturn] at hw' hextends hentry hsame
    obtain ⟨v, a, hv, hheap, hevents, hrests'⟩ := exists_event hw hrests hk hturn
    have hrest (n : Nat) (r : Nat) (hr : T r) :
        (outcome (rerunAll (cs.take n)) w').2.heap.cells[r]? = w'.heap.cells[r]? := by
      have htake := hspared (n + 1) r hr
      rw [List.take_succ_cons, rerunAll_cons, outcome_bind_of_ok hturn] at htake
      exact htake.trans (hsame r hr).symm
    obtain ⟨es, hz, hgot, hsteady, hrestsz, hextendsz, hentryz⟩ := ih hw' hrests'
      (fun c' hc' => hentry c' ▸ hcs c' (List.mem_cons_of_mem c hc')) hrest hturns
    refine ⟨(k.name, v) :: es, ?_, .cons ?_ hgot, hsteady, hrestsz, hextends.trans hextendsz,
      fun c' => (hentryz c').trans (hentry c')⟩
    · rw [hz, hevents, List.reverse_cons, List.append_assoc]
      rfl
    · exact ⟨k, w.taking c, a, ((hentryz c).trans (hentry c)).trans hk, rfl,
        World.Steady.rests_taking hrests c, hw.used, hw.closed, hw.tuned.asked c _ hk, hv,
        hheap ▸ hextends, hheap ▸ hextendsz⟩

/-- A watch that gets no message notes nothing. -/
theorem events_of_failed_turn (hw : w.Steady T) (hk : w.graph.entryOf c = some (k, false)) {e : Error}
    (hturn : (outcome (rerunAll [c]) w).1 = .error e) :
    (outcome (message k.box k.request) (w.taking c)).1 = .error e ∧
      (outcome (rerunAll [c]) w).2.events = w.events := by
  have hsettled := settled_message (w := w.taking c)
    ⟨World.invariant_sound.graph hw.tuned.wired.sound _, rfl, rfl, rfl⟩ k.box k.request
  rw [outcome_turn_message hw.tuned.wired hk] at hturn ⊢
  cases hout : outcome (message k.box k.request) (w.taking c) with
  | mk x a =>
    rw [hout] at hturn hsettled
    cases x with
    | error e' =>
      cases hturn
      exact ⟨rfl, hsettled.events⟩
    | ok v => cases hturn

end Session

/-- What has come of turns: each watch in `done` has got a message, and none is left; or the last one
has failed, which is what the turns fail with. -/
inductive World.TurnsGot (T : Ref → Prop) (id : Nat) (f : Footing) (w z : World)
    (done rest : List Nat) : Except Error Unit → Prop
  | ok {es : List (String × Value)} (hrest : rest = []) (hevents : z.events = es.reverse ++ w.events)
      (hgot : List.Forall₂ (z.Got T id f) done es) : TurnsGot T id f w z done rest (.ok ())
  | error {e : Error} {ran : List Nat} {c : Nat} {k : Watch} {w' : World}
      {es : List (String × Value)} (hdone : done = ran ++ [c])
      (hevents : z.events = es.reverse ++ w.events) (hgot : List.Forall₂ (z.Got T id f) ran es)
      (hk : z.graph.entryOf c = some (k, false)) (hbox : k.box = id)
      (hran : outcome (Session.rerunAll ran) w = (.ok (), w'))
      (hfailed : (outcome (Session.message id k.request) (w'.taking c)).1 = .error e) :
      TurnsGot T id f w z done rest (.error e)

namespace Session

/-- **What the watches get that have their turns, until one of them fails.** -/
theorem turnsGot {cs done rest : List Nat} (hw : w.Steady T) (hrests : w.Rests id f) (hf : f.In T)
    (hcs : ∀ c ∈ cs, ∃ k, w.graph.entryOf c = some (k, false) ∧ k.box = id)
    (hspared : ∀ (n : Nat) (r : Nat), T r →
      (outcome (rerunAll (cs.take n)) w).2.heap.cells[r]? = w.heap.cells[r]?)
    (hsplit : cs = done ++ rest) (hend : w.TurnsEnd done rest (outcome (rerunAll cs) w).1) :
    w.TurnsGot T id f (outcome (rerunAll cs) w).2 done rest (outcome (rerunAll cs) w).1 := by
  have hfirst {ran rest : List Nat} (hran : cs = ran ++ rest) (n : Nat) (r : Nat) (hr : T r) :
      (outcome (rerunAll (ran.take n)) w).2.heap.cells[r]? = w.heap.cells[r]? := by
    have htake : ran.take n = cs.take (min n ran.length) := by
      rw [← List.take_take, hran, List.take_left]
    rw [htake]
    exact hspared _ r hr
  cases hout : outcome (rerunAll cs) w with
  | mk x z =>
    rw [hout] at hend
    cases hend with
    | ok hrest =>
      have hdone : cs = done := by rw [hsplit, hrest, List.append_nil]
      subst hdone
      obtain ⟨es, hevents, hgot, -⟩ := exists_events hw hrests hf hcs hspared hout
      exact .ok hrest hevents hgot
    | @error e ran c w' hdone hran hfailed =>
      have hcs' : cs = ran ++ (c :: rest) := by rw [hsplit, hdone, List.append_assoc]; rfl
      have hmem : ∀ c ∈ ran, ∃ k, w.graph.entryOf c = some (k, false) ∧ k.box = id :=
        fun c hc => hcs c (hcs' ▸ List.mem_append_left _ hc)
      obtain ⟨es, hevents, hgot, hw', hrests', hextends, hentry⟩ :=
        exists_events hw hrests hf hmem (hfirst hcs') hran
      obtain ⟨k, hk, rfl⟩ := hcs c (by simp [hcs'])
      have hk' : w'.graph.entryOf c = some (k, false) := (hentry c).trans hk
      obtain ⟨hmessage, hsame⟩ := events_of_failed_turn hw' hk' hfailed
      -- Nothing runs behind the watch that fails.
      have hz : (outcome (rerunAll [c]) w').2 = z := by
        rw [hcs', rerunAll_append, outcome_bind_of_ok hran, rerunAll_cons] at hout
        cases hturn : outcome (rerunAll [c]) w' with
        | mk x z' =>
          rw [hturn] at hfailed
          cases hfailed
          rw [outcome_bind_of_error hturn] at hout
          exact congrArg Prod.snd hout
      have hspared' (r : Nat) (hr : T r) :
          (outcome (rerunAll [c]) w').2.heap.cells[r]? = w'.heap.cells[r]? := by
        have hfrom : cs = (ran ++ [c]) ++ rest := hsplit.trans (by rw [hdone])
        have hlast := hfirst hfrom (ran ++ [c]).length r hr
        rw [List.take_length, rerunAll_append, outcome_bind_of_ok hran] at hlast
        exact hlast.trans (hextends.2 r (hw.used r hr)).symm
      have hlonger := hw'.extends_turn hrests' hf hk' hspared'
      have hentry' := (turned hw'.tuned.wired hk' rfl).entryOf
      rw [hz] at hsame hlonger hentry'
      exact .error hdone (hsame.trans hevents)
        (hgot.imp fun c' e hgot => hgot.mono (hentry' c') hlonger) ((hentry' c).trans hk') rfl hran
        hmessage

/-- **A box gets another language, and the watches that depend on it get what it answers with.** -/
theorem exists_turnsGot {d : Nat} {b : Box} {language : Value} (hw : w.Steady T)
    (hb : w.boxes[id]? = some b) (hd : b.tracker = .dependency d) (hrests : w.Rests id f)
    (hf : Footing.In T { f with language := language }) (hspared : SparesTurns T id language w) :
    ∃ w' done rest, outcome (tell id language) w = (.ok (w.graph.dependentsOf d), w') ∧
      w'.Settled w.graph w.trackers w.events ∧ w.graph.dependentsOf d = done ++ rest ∧
      w'.TurnedAll w.heap done (outcome (setLanguage id language) w).2 ∧
      (outcome (setLanguage id language) w).2.graph.dependentsOf d = rest ++ done ∧
      w'.TurnsGot T id { f with language := language } (outcome (setLanguage id language) w).2
        done rest (outcome (setLanguage id language) w).1 := by
  obtain ⟨w', done, rest, htold, hsettled, hheap, hsplit, hall, hbehind, hend⟩ :=
    exists_outcome_setLanguage hw hb hd hspared
  refine ⟨w', done, rest, htold, hsettled, hsplit, hall, hbehind, ?_⟩
  have hrests' : w'.Rests id { f with language := language } := by
    have h := rests_tell hrests language
    rwa [htold] at h
  have hw' : w'.Steady T := hw.of_tuned (hw.tuned.settled hsettled) fun r _ => by rw [hheap]
  have hreads : w.trackers[id]? = some (some d) := by
    rw [World.getElem?_trackers hb, hd]
    rfl
  have hcs (c : Nat) (hc : c ∈ w.graph.dependentsOf d) :
      ∃ k, w'.graph.entryOf c = some (k, false) ∧ k.box = id := by
    obtain ⟨-, k, hk, hbox, -⟩ := (hw.tuned.wired.graph.mem_iff id d hreads c).mp hc
    exact ⟨k, hsettled.graph ▸ hk, hbox⟩
  have hspared' (n : Nat) (r : Nat) (hr : T r) :
      (outcome (rerunAll ((w.graph.dependentsOf d).take n)) w').2.heap.cells[r]? =
        w'.heap.cells[r]? := by
    rw [← outcome_turns htold, hheap]
    exact hspared n r hr
  rw [setLanguage_eq, outcome_bind_of_ok htold] at hend ⊢
  exact turnsGot hw' hrests' hf hcs hspared' hsplit hend

end Session

/-! ## Another language -/

/-- A watch that is not stopped asks the box of a name in the language of the box. -/
def Room.Reads (name : String) (room : Room) (c : Nat) : Prop :=
  ∃ k, room.world.graph.entryOf c = some (k, false) ∧
    room.boxes.find? (·.1 == name) = some (name, k.box) ∧ k.request.isOpen room.world.heap = true

/-- What a watch has got is built like what the box of a name answers with when it is asked the same
now. -/
def Room.Fresh (name : String) (room : Room) (c : Nat) (e : String × Value) : Prop :=
  ∃ k heap v, room.world.graph.entryOf c = some (k, false) ∧ e.1 = k.name ∧
    (room.report (.message name k.request)).result = .ok ⟨heap, .value v⟩ ∧
    e.2.Alike room.world.heap heap v

/-- A text that a watch has got is the very text that the box answers with. -/
theorem Room.Fresh.text {name called text : String} {room : Room}
    (h : room.Fresh name c (called, .str text)) :
    ∃ k heap, room.world.graph.entryOf c = some (k, false) ∧ called = k.name ∧
      (room.report (.message name k.request)).result = .ok ⟨heap, .value (.str text)⟩ := by
  obtain ⟨k, heap, v, hk, hcalled, hresult, halike⟩ := h
  rw [halike.eq_of_str] at hresult
  exact ⟨k, heap, hk, hcalled, hresult⟩

/-- How a change of the language of a box ends for the watches that depend on it. -/
inductive Room.RerunEnds (name : String) (language : Value) (room : Room) (done rest : List Nat) : Prop
  /-- All of them have got a message. -/
  | ok (hrest : rest = []) (hresult : (room.report (.setLanguage name language)).result =
        .ok ⟨(room.after (.setLanguage name language)).world.heap, .done⟩)
      (hevents : List.Forall₂ ((room.after (.setLanguage name language)).Fresh name) done
        (room.report (.setLanguage name language)).events)
  /-- The last one that has run has failed, and the change fails with its error. -/
  | error {e : Error} {ran : List Nat} {c : Nat} {k : Watch} {w' : World} (hdone : done = ran ++ [c])
      (hresult : (room.report (.setLanguage name language)).result = .error (.error e))
      (hevents : List.Forall₂ ((room.after (.setLanguage name language)).Fresh name) ran
        (room.report (.setLanguage name language)).events)
      (hk : room.world.graph.entryOf c = some (k, false))
      (hran : outcome (Session.turns k.box language ran.length) room.cleared.world = (.ok (), w'))
      (hfailed : (outcome (Session.message k.box k.request) (w'.taking c)).1 = .error e)

/-- What a change of the language of a box does with the watches that depend on it: those in `done`
run, and those in `rest` do not. -/
structure Room.Reran (name : String) (d : Nat) (language : Value) (room : Room)
    (done rest : List Nat) : Prop where
  /-- The box has the language in any case. -/
  box : ∃ b, (room.after (.setLanguage name language)).box? name = some b ∧
    b.language = language ∧ b.tracker = .dependency d
  /-- Those that run do so once, and no other watch runs. -/
  runs : ∀ c, (room.after (.setLanguage name language)).world.graph.runsOf c =
    room.world.graph.runsOf c + if c ∈ done then 1 else 0
  /-- All of them still depend on the box. -/
  dependents : (room.after (.setLanguage name language)).world.graph.dependentsOf d = rest ++ done
  ends : room.RerunEnds name language done rest

namespace Room

variable {room : Room} {name : String} {b : Box} {d : Nat} {language : Value}

/-- The box of a name is given another language, and this is told without a change of the world. -/
theorem Rests.outcome_setLanguage (h : room.Rests name id f) (language : Value) :
    (room.after (.setLanguage name language)) = { room.cleared with
        world := (outcome (Session.setLanguage id language) room.cleared.world).2 } ∧
      (room.report (.setLanguage name language)).result =
        ((outcome (Session.setLanguage id language) room.cleared.world).1.mapError .error).map
          fun _ => ⟨(outcome (Session.setLanguage id language) room.cleared.world).2.heap, .done⟩ := by
  have hfind : outcome (Play.find (·.boxes) name) room.cleared = (.ok id, room.cleared) :=
    Play.outcome_find_of_eq h.named
  rw [after_eq, report_eq, Play.perform, outcome_bind_of_ok hfind, outcome_bind, Play.outcome_session]
  cases outcome (Session.setLanguage id language) room.cleared.world with
  | mk x z => cases x <;> exact ⟨rfl, rfl⟩

/-- The box of a name gives a message. -/
theorem Rests.result_message (h : room.Rests name id f) {r : Request} {v : Value} {a : World}
    (hv : outcome (Session.message id r) room.cleared.world = (.ok v, a)) :
    (room.report (.message name r)).result = .ok ⟨a.heap, .value v⟩ := by
  have hfind : outcome (Play.find (·.boxes) name) room.cleared = (.ok id, room.cleared) :=
    Play.outcome_find_of_eq h.named
  rw [report_eq, Play.perform, outcome_bind_of_ok hfind, outcome_bind, Play.outcome_session, hv]
  rfl

/-- **What a watch has got is fresh while the box rests on the same footing.** -/
theorem Rests.fresh (h : room.Rests name id f) (hf : f.In T) {e : String × Value}
    (hgot : room.world.Got T id f c e) : room.Fresh name c e := by
  obtain ⟨k, a, a', hk, he, hrests, hused, hclosed, hr, hv, hextends, hheap⟩ := hgot
  have hlonger := hextends.trans hheap
  have hsame : a.heap.SameAt T room.cleared.world.heap :=
    hclosed.of_spared (fun _ _ => rfl) fun r hr => hlonger.2 r (hused r hr)
  obtain ⟨v, b, hout, halike⟩ :=
    hrests.exists_alike h.cleared.world hf hr hused hsame hlonger.1 hv hheap
  exact ⟨k, b.heap, v, hk, he, h.result_message hout, halike⟩

/-- The dependency of the box of a name. -/
theorem Rests.trackers_of_box (h : room.Rests name id f) (hb : room.box? name = some b)
    (hd : b.tracker = .dependency d) : room.world.trackers[id]? = some (some d) := by
  rw [box?, h.named] at hb
  rw [World.getElem?_trackers hb, hd]
  rfl

/-- The watches that depend on a box are those that ask it in its language. -/
theorem mem_dependentsOf (hw : room.world.Steady T) (hrests : room.Rests name id f)
    (hd : room.world.trackers[id]? = some (some d)) (c : Nat) :
    c ∈ room.world.graph.dependentsOf d ↔ room.Reads name c := by
  rw [hw.tuned.wired.graph.mem_iff id d hd c]
  refine ⟨?_, ?_⟩
  · rintro ⟨-, k, hk, rfl, hopen⟩
    exact ⟨k, hk, hrests.named, hopen⟩
  · rintro ⟨k, hk, hname, hopen⟩
    have hid : k.box = id := congrArg Prod.snd (Option.some.inj (hname.symm.trans hrests.named))
    exact ⟨nofun, k, hk, hid, hopen⟩

theorem exists_reran (hw : room.world.Steady T) (hrests : room.Rests name id f)
    (hd : room.world.trackers[id]? = some (some d))
    (hspared : Session.SparesTurns T id language room.cleared.world)
    (hf : Footing.In T { f with language := language }) :
    ∃ done rest, room.world.graph.dependentsOf d = done ++ rest ∧
      room.Reran name d language done rest := by
  obtain ⟨b, hb, hbd⟩ := World.exists_tracker hd
  obtain ⟨w', done, rest, htold, hsettled, hsplit, hall, hbehind, hgot⟩ :=
    Session.exists_turnsGot (w := room.cleared.world) hw.cleared hb hbd hrests.cleared.world hf hspared
  obtain ⟨hafter, hresult⟩ := hrests.outcome_setLanguage language
  have hrests' := hrests.after_setLanguage language
  have hz : (room.after (.setLanguage name language)).world =
      (outcome (Session.setLanguage id language) room.cleared.world).2 := by rw [hafter]
  have hevents : (room.report (.setLanguage name language)).events =
      (outcome (Session.setLanguage id language) room.cleared.world).2.events.reverse := by
    rw [report_eq, hz]
  rw [← hz] at hall hbehind hgot hevents hresult
  have hnodup : (room.world.graph.dependentsOf d).Nodup :=
    hw.tuned.wired.graph.linked.dependents_nodup d
  refine ⟨done, rest, hsplit, ?_, fun c => ?_, hbehind, ?_⟩
  · obtain ⟨b', hb', hon⟩ := hrests'.world.box
    obtain ⟨c, hc, hcd⟩ := World.exists_tracker (hall.trackers.trans hsettled.trackers ▸ hd)
    obtain rfl : c = b' := Option.some.inj (hc.symm.trans hb')
    refine ⟨c, ?_, hon.language, hcd⟩
    rw [box?, hrests'.named]
    exact hc
  · have hdone : done.Nodup := (List.nodup_append.mp (hsplit ▸ hnodup)).1
    rw [hall.runsOf, hsettled.graph, hdone.count]
    rfl
  · have hlisted {es : List (String × Value)}
        (h : (room.after (.setLanguage name language)).world.events = es.reverse ++ w'.events) :
        (room.report (.setLanguage name language)).events = es := by
      have hnone : w'.events = [] := hsettled.events
      rw [hevents, h, hnone, List.append_nil, List.reverse_reverse]
    generalize (outcome (Session.setLanguage id language) room.cleared.world).1 = x at hgot hresult
    cases hgot with
    | ok hrest hevents hgot =>
      refine .ok hrest hresult ?_
      rw [hlisted hevents]
      exact hgot.imp fun c e hgot => hrests'.fresh hf hgot
    | @error e ran c k w'' es hdone hevents hgot hk hbox hran hfailed =>
      subst hbox
      have hold : w'.graph.entryOf c = some (k, false) := (hall.entryOf c).symm.trans hk
      refine .error hdone hresult ?_ (hsettled.graph ▸ hold) ?_ hfailed
      · rw [hlisted hevents]
        exact hgot.imp fun c e hgot => hrests'.fresh hf hgot
      · rw [Session.outcome_turns htold, show room.cleared.world.graph.dependentsOf d = _ from hsplit,
          hdone, List.append_assoc, List.take_left]
        exact hran

end Room

/-- **Another language of a box is taken up by all watches that ask the box in its language.** These
are the watches whose latest run has read the box. They depend on it in an order, and run again in this
order, each of them once, and no other watch does.

If the change succeeds, all of them have run, and each of them has got what the box answers right
afterwards with when it is asked the same. Otherwise it fails with the error of the last one that has
run: the box has its new language, those before it have got messages, and those behind it have not run.
In any case all of them depend on the box still, and the next language is taken up in the same way:
first by those that have not run. -/
theorem rerun_setLanguage {room : Room} {name : String} {b : Box} {d : Nat} {language : Value}
    (hroom : room.Steady T) (hb : room.box? name = some b) (hd : b.tracker = .dependency d)
    (hspares : (Step.setLanguage name language).SparesAll T room) (hsaid : room.SaysIn T name)
    (hlanguage : language.In T) :
    (∀ c, c ∈ room.world.graph.dependentsOf d ↔ room.Reads name c) ∧
      (∀ c, d ∈ room.world.graph.dependenciesOf c ↔ room.Reads name c) ∧
      (room.world.graph.dependentsOf d).Nodup ∧
      ∃ done rest, room.world.graph.dependentsOf d = done ++ rest ∧
        room.Reran name d language done rest ∧
        ∀ next : Value, (Step.setLanguage name next).SparesAll T
            (room.after (.setLanguage name language)) → next.In T →
          ∃ done' rest', rest ++ done = done' ++ rest' ∧
            (room.after (.setLanguage name language)).Reran name d next done' rest' := by
  obtain ⟨id, f, hrests, hf⟩ : ∃ id f, room.Rests name id f ∧ f.In T := by
    obtain ⟨id, hrests⟩ := Room.exists_rests (played_of_steady hroom) hb
    exact ⟨id, _, hrests, hrests.in_of_saysIn hsaid⟩
  have hw := steady_world hroom
  have hlinked := hw.tuned.wired.graph.linked
  have hreads := hrests.trackers_of_box hb hd
  have hmem := Room.mem_dependentsOf hw hrests hreads
  have hspared := hspares.2 name language rfl (name, id) hrests.named
  refine ⟨hmem, fun c => (hlinked.mem_iff c d).symm.trans (hmem c), hlinked.dependents_nodup d, ?_⟩
  obtain ⟨done, rest, hsplit, hreran⟩ :=
    Room.exists_reran hw hrests hreads hspared ⟨hlanguage, hf.messages, hf.shared⟩
  refine ⟨done, rest, hsplit, hreran, fun next hnext hin => ?_⟩
  -- The room behind the step is one of the same session.
  have hroom' : (room.after (.setLanguage name language)).Steady T := .step hroom trivial hspares
  have hrests' := hrests.after_setLanguage language
  obtain ⟨b', hb', -, hd'⟩ := hreran.box
  have hreads' := hrests'.trackers_of_box hb' hd'
  have hspared' : Session.SparesTurns T id next
      (room.after (.setLanguage name language)).cleared.world :=
    hnext.2 name next rfl (name, id) hrests'.named
  have hf' : Footing.In T { f with language := next } := ⟨hin, hf.messages, hf.shared⟩
  obtain ⟨done', rest', hsplit', hreran'⟩ :=
    Room.exists_reran (steady_world hroom') hrests' hreads' hspared' hf'
  exact ⟨done', rest', hreran.dependents.symm.trans hsplit', hreran'⟩

/-! ### A watch of a box without messages -/

/-- What the watch asks with. -/
def cityRequest : Request :=
  ⟨.descriptor ⟨.str "city", .str "required", .null, .tuple []⟩, .null, .null⟩

/-- A session with one box, which watches depend on. -/
def trackedRoom : Room :=
  (Room.start ⟨9, 99⟩).after
    (.newBox "box" ⟨.absent, .absent, .absent, .null, .null, .dependency, none⟩ none)

/-- A watch asks the box. -/
def watchedRoom : Room := trackedRoom.after (.watch "watch" "box" cityRequest)

theorem Step.sparesAll_nothing (room : Room) (s : Step) : s.SparesAll (fun _ => False) room :=
  ⟨fun _ => False.elim, fun _ _ _ _ _ _ _ => False.elim⟩

theorem steady_trackedRoom : trackedRoom.Steady fun _ => False := by
  rw [trackedRoom]
  exact .step (.start _) trivial (Step.sparesAll_nothing _ _)

theorem steady_watchedRoom : watchedRoom.Steady fun _ => False := by
  rw [watchedRoom]
  have hissue : cityRequest.issue.All (Value.In fun _ => False) :=
    .descriptor (.atom rfl) (.atom rfl) (.atom rfl) (.tuple (List.forall_mem_nil _))
  exact .step steady_trackedRoom ⟨hissue, .atom rfl, .atom rfl⟩ (Step.sparesAll_nothing _ _)

theorem isOpen_cityRequest (h : Heap) : cityRequest.isOpen h = true := rfl

theorem exists_trackedRoom : ∃ m d g heap, g.computations = #[] ∧ trackedRoom =
    ((Room.start ⟨9, 99⟩).pushBox "box" ⟨.str "en", m, [], .dependency d, none⟩ g).setHeap heap := by
  obtain ⟨m, hm⟩ := Defaults.exists_markers_empty
  obtain ⟨t, g, hnew, hkind⟩ :=
    Session.exists_outcome_newBox (w := World.start ⟨9, 99⟩) hm .null .dependency none
  obtain ⟨heap, view, hout⟩ := Play.exists_outcome_placed (.start ⟨9, 99⟩) hnew "box"
  obtain ⟨d, rfl⟩ : ∃ d, t = .dependency d := by
    cases t <;> first | exact ⟨_, rfl⟩ | cases hkind
  have hnone := Session.computations_newBox
    ⟨.absent, .absent, .absent, .null, .null, .dependency, none⟩ (World.start ⟨9, 99⟩)
  rw [hnew] at hnone
  refine ⟨m, d, g, heap, hnone, ?_⟩
  rw [trackedRoom, Room.after_eq, Play.perform_newBox]
  exact congrArg Prod.snd hout

/-- The watch depends on the box. -/
theorem exists_watchedRoom : ∃ b d, watchedRoom.box? "box" = some b ∧ b.tracker = .dependency d ∧
    watchedRoom.world.graph.dependentsOf d = [0] := by
  obtain ⟨m, d, g, heap, hnone, hroom⟩ := exists_trackedRoom
  have hsteady := steady_world steady_trackedRoom
  have hname : trackedRoom.boxes.find? (·.1 == "box") = some ("box", 0) := by
    rw [hroom]
    rfl
  have htrackers : trackedRoom.world.trackers[0]? = some (some d) := by
    refine World.getElem?_trackers (b := ⟨.str "en", m, [], .dependency d, none⟩) ?_
    rw [hroom]
    rfl
  have hempty : trackedRoom.world.graph.computations = #[] := by
    rw [hroom]
    exact hnone
  have hof : trackedRoom.world.graph.dependentsOf d = [] := by
    refine List.eq_nil_iff_forall_not_mem.mpr fun c hc => ?_
    obtain ⟨-, k, hk, -⟩ := (hsteady.tuned.wired.graph.mem_iff 0 d htrackers c).mp hc
    rw [Graph.entryOf, hempty] at hk
    cases hk
  obtain ⟨b, hb, hd, hwatch⟩ :=
    Room.exists_after_watch hsteady hname htrackers (isOpen_cityRequest _) "watch"
  rw [hof, hempty] at hwatch
  rw [watchedRoom]
  exact ⟨b, d, hb, hd, hwatch⟩

theorem said_watchedRoom : watchedRoom.SaysIn (fun _ => False) "box" := by
  obtain ⟨m, d, g, heap, -, hroom⟩ := exists_trackedRoom
  have hb : trackedRoom.box? "box" = some ⟨.str "en", m, [], .dependency d, none⟩ := by
    rw [hroom]
    exact Room.box?_pushBox_self _ "box" _ g
  have hdefaults : trackedRoom.world.defaults = .empty := by
    rw [hroom]
    rfl
  obtain ⟨id, f, hrests, hlanguage, hmessages, hshared⟩ :=
    Room.exists_rests_of_empty (played_of_steady steady_trackedRoom) hb hdefaults
  have hwatched : watchedRoom.Rests "box" id f := by
    rw [watchedRoom]
    exact hrests.after rfl
  refine hwatched.saysIn ⟨?_, ?_, ?_⟩
  · rw [hlanguage]
    exact .atom rfl
  · rw [hmessages]
    exact .nil
  · rw [hshared]
    exact .nil

/-- If one watch depends on a box, it runs, whatever comes of it. -/
theorem Room.RerunEnds.of_one {room : Room} {name : String} {language : Value} {done rest : List Nat}
    {c : Nat} (h : room.RerunEnds name language done rest) (hsplit : [c] = done ++ rest) :
    done = [c] ∧ rest = [] := by
  cases h with
  | ok hrest =>
    subst hrest
    exact ⟨(hsplit.trans (List.append_nil done)).symm, rfl⟩
  | @error _ ran c' _ _ hdone =>
    subst hdone
    cases ran with
    | nil =>
      cases hsplit
      exact ⟨rfl, rfl⟩
    | cons _ ran => cases ran <;> cases hsplit

/-- The watch runs again with each language. -/
theorem rerun_setLanguage_watchedRoom : ∃ d, watchedRoom.Reads "box" 0 ∧
    d ∈ watchedRoom.world.graph.dependenciesOf 0 ∧
    watchedRoom.Reran "box" d (.str "de") [0] [] ∧
    (watchedRoom.after (.setLanguage "box" (.str "de"))).Reran "box" d (.str "en") [0] [] := by
  obtain ⟨b, d, hb, hd, hof⟩ := exists_watchedRoom
  obtain ⟨hreads, hlatest, -, done, rest, hsplit, hreran, hnext⟩ :=
    rerun_setLanguage steady_watchedRoom hb hd (Step.sparesAll_nothing _ _) said_watchedRoom
      (.atom rfl : (Value.str "de").In _)
  have hread : watchedRoom.Reads "box" 0 := (hreads 0).mp (hof ▸ List.mem_singleton_self 0)
  obtain ⟨rfl, rfl⟩ := hreran.ends.of_one (hof.symm.trans hsplit)
  obtain ⟨done', rest', hsplit', hreran'⟩ := hnext (.str "en") (Step.sparesAll_nothing _ _) (.atom rfl)
  obtain ⟨rfl, rfl⟩ := hreran'.ends.of_one hsplit'
  exact ⟨d, hread, (hlatest 0).mpr hread, hreran, hreran'⟩

end Wording
