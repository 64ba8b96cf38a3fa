import Wording.Proofs.Box.Sound
import Wording.Proofs.Reactive.Turns

/-!
# Boxes and the reactive graph

A box is asked in its language if no other one is asked for and no message stands ready; it then lets
whoever asks depend on it, before anything else can fail. So what the reactive graph puts down is told
by the watches alone: a graph is `Wired` if for each box exactly those watches depend on it that are
not stopped and ask it in its language, on a heap that tells what they ask.

* `Session.settled_message`: what the graph has to do with a message
* `Session.graph_runWatch`: … and with a watch that runs
* `Graph.Wired.ran`, …: changes that keep graphs wired
-/

namespace Wording

/-! ## What boxes and watches have to do with the graph -/

/-- By which dependency each box lets others know. -/
def World.trackers (w : World) : Array (Option Nat) := w.boxes.map (·.tracker.dependency?)

theorem World.getElem?_trackers {w : World} {id : Nat} {b : Box} (hb : w.boxes[id]? = some b) :
    w.trackers[id]? = some b.tracker.dependency? := by
  rw [trackers, Array.getElem?_map, hb]
  rfl

theorem World.exists_tracker {w : World} {id d : Nat} (h : w.trackers[id]? = some (some d)) :
    ∃ b, w.boxes[id]? = some b ∧ b.tracker = .dependency d := by
  rw [trackers, Array.getElem?_map] at h
  obtain ⟨b, hb, hd⟩ := Option.map_eq_some_iff.mp h
  refine ⟨b, hb, ?_⟩
  cases ht : b.tracker <;> rw [ht] at hd <;> cases hd
  rfl

theorem World.trackers_setIfInBounds {w : World} {id : Nat} {b : Box}
    (hb : w.trackers[id]? = some b.tracker.dependency?) :
    trackers { w with boxes := w.boxes.setIfInBounds id b } = w.trackers := by
  refine Array.ext_getElem? fun i => ?_
  unfold trackers at hb ⊢
  rw [Array.getElem?_map] at hb ⊢
  rw [Array.getElem?_setIfInBounds, Array.getElem?_map]
  split
  · next hid =>
    subst hid
    obtain ⟨c, hc, -⟩ := Option.map_eq_some_iff.mp hb
    rw [if_pos (Array.getElem?_eq_some_iff.mp hc).1, hb]
    rfl
  · rfl

/-- A box is asked in its language: for no other one, and without a message that stands ready. -/
def Request.isOpen (h : Heap) (r : Request) : Bool :=
  match r.language, r.issue.fields h with
  | .null, .ok fields => (Session.preformatted? fields).isNone
  | _, _ => false

/-- The dependency that a request to a box reads, if it reads one. -/
def Request.reads (h : Heap) (ts : Array (Option Nat)) (id : Nat) (r : Request) : Option Nat :=
  if r.isOpen h then ts[id]?.join else none

namespace Request

variable {h : Heap} {ts : Array (Option Nat)} {id : Nat} {r : Request} {fields : Entries}

theorem reads_eq_some_iff {d : Nat} :
    r.reads h ts id = some d ↔ r.isOpen h = true ∧ ts[id]? = some (some d) := by
  unfold reads
  split
  · next hopen => simp [hopen, Option.join_eq_some_iff]
  · next hopen => simp [hopen]

theorem reads_of_error {e : Failure} (hf : r.issue.fields h = .error e) :
    r.reads h ts id = none := by
  have hopen : r.isOpen h = false := by
    unfold isOpen
    rw [hf]
    cases r.language <;> rfl
  rw [reads, hopen]
  rfl

theorem reads_of_ready {m : Value} (hf : r.issue.fields h = .ok fields)
    (hm : Session.preformatted? fields = some m) : r.reads h ts id = none := by
  have hopen : r.isOpen h = false := by
    unfold isOpen
    rw [hf]
    cases r.language <;> first | rfl | exact congrArg Option.isNone hm
  rw [reads, hopen]
  rfl

theorem reads_of_open (hf : r.issue.fields h = .ok fields)
    (hm : Session.preformatted? fields = none) (hl : r.language = .null) :
    r.reads h ts id = ts[id]?.join := by
  have hopen : r.isOpen h = true := by
    unfold isOpen
    rw [hf, hl]
    exact congrArg Option.isNone hm
  rw [reads, hopen]
  rfl

theorem reads_of_language (hl : r.language ≠ .null) : r.reads h ts id = none := by
  have hopen : r.isOpen h = false := by
    unfold isOpen
    generalize r.language = l at hl
    cases l <;> first | rfl | exact absurd rfl hl
  rw [reads, hopen]
  rfl

end Request

/-! ## What a message has to do with the graph -/

/-- A sound world in which all is as it is that watches tell and that they depend on. -/
structure World.Settled (g : Graph Watch) (ts : Array (Option Nat)) (es : List (String × Value))
    (w : World) : Prop where
  sound : w.Sound
  graph : w.graph = g
  trackers : w.trackers = ts
  events : w.events = es

theorem World.upheld_settled (g : Graph Watch) (ts : Array (Option Nat))
    (es : List (String × Value)) :
    Upheld (Settled g ts es) fun id b => b.Sound ∧ ts[id]? = some b.tracker.dependency? where
  compiled := fun h => h.sound.compiled
  shared := fun h => h.sound.shared
  box := fun h hb => ⟨invariant_sound.box h.sound hb, h.trackers ▸ getElem?_trackers hb⟩
  sound := fun h => h.1
  tracker := fun h _ ht => ⟨⟨h.1.combined, h.1.clean⟩, h.2.trans (congrArg some ht.symm)⟩
  heap := fun h k => ⟨invariant_sound.heap h.sound k, h.graph, h.trackers, h.events⟩
  caches := fun h _ hcs => ⟨invariant_sound.caches h.sound hcs, h.graph, h.trackers, h.events⟩
  log := fun h l => ⟨invariant_sound.log h.sound l, h.graph, h.trackers, h.events⟩
  setBox := fun h id _ hb => ⟨invariant_sound.setBox h.sound id hb.1, h.graph,
    (trackers_setIfInBounds (h.trackers.symm ▸ hb.2)).trans h.trackers, h.events⟩

/-- Whoever runs reads a dependency, if there is one to read. -/
def Graph.asked {β : Type} (g : Graph β) : Option Nat → Graph β
  | none => g
  | some d => (g.depend d none).2

theorem Graph.asked_of_idle {β : Type} {g : Graph β} (h : g.stack = []) (d : Option Nat) :
    g.asked d = g := by
  cases d with
  | none => rfl
  | some d =>
    rw [asked, depend, active?, h]
    rfl

theorem Graph.asked_enter {β : Type} (g : Graph β) (c : Nat) (d : Option Nat) :
    (g.enter c).asked d = (g.enter c).reading c d := by
  cases d <;> rfl

namespace Session

variable {w : World} {g : Graph Watch} {ts : Array (Option Nat)} {es : List (String × Value)}

/-- A box that is asked for its language lets whoever runs depend on it. -/
theorem settled_readLanguage (hw : w.Settled g ts es) (id : Nat) :
    (outcome (readLanguage id) w).2.Settled (g.asked ts[id]?.join) ts es := by
  have hP := World.upheld_settled g ts es
  cases hb : w.boxes[id]? with
  | none =>
    have hts : ts[id]? = none := by
      rw [← hw.trackers, World.trackers, Array.getElem?_map, hb]
      rfl
    rw [readLanguage, outcome_bind, outcome_box_eq, hb, hts]
    exact hw
  | some b =>
    have hts : ts[id]? = some b.tracker.dependency? := hw.trackers ▸ World.getElem?_trackers hb
    rw [readLanguage, outcome_bind_of_ok (outcome_box hb), hts]
    cases ht : b.tracker with
    | none => exact hw
    | dependency d =>
      exact ⟨World.invariant_sound.graph hw.sound _, congrArg (fun g => (g.depend d none).2) hw.graph,
        hw.trackers, hw.events⟩
    | recording n m =>
      refine hP.setBox hw id (hP.tracker ⟨World.invariant_sound.box hw.sound hb, hts⟩ _ ?_)
      rw [ht]
      rfl

/-- What a box replies to an issue once it is known in which language. -/
def reply (id : Nat) (r : Request) (fields : Entries) (language : Value) : Session Value := do
  let messages ← mergedMessages (← box id).messages language
  if !(typeOf fields).isKey then fail .type
  answer (← box id) r fields
    ((messages.find? (typeOf fields)).bind (CatalogNode.select (genericName? (fieldOf fields))))

theorem message_eq (id : Nat) (r : Request) : message id r = reading r.issue.fields >>= fun fields =>
    match preformatted? fields with
    | some m => pure m
    | none => askLanguage id r.language >>= reply id r fields := by
  have hasked : boxMessages id r.language = (askLanguage id r.language >>= fun l => do
      let b ← box id
      return (← mergedMessages b.messages l, l)) := by
    cases r.language <;> rfl
  rw [message, hasked]
  simp only [bind_assoc, pure_bind]
  rfl

/-- A reply tells the graph nothing. -/
theorem keeps_reply (id : Nat) (r : Request) (fields : Entries) (language : Value) :
    Keeps (World.Settled g ts es) (reply id r fields language) fun _ => True := by
  have hP := World.upheld_settled g ts es
  refine (keeps_box hP id).bind fun b _ => (keeps_mergedMessages _ _).bind fun m _ => ?_
  dsimp only
  split
  · exact (keeps_throw (Q := fun _ => False) _).bind fun _ h => h.elim
  · exact (keeps_box hP id).bind fun b hb => keeps_answer hP hb.1 r fields _

/-- **A message lets whoever runs depend on the box if and only if the box is asked in its
language**, whatever comes of it. -/
theorem settled_message (hw : w.Settled g ts es) (id : Nat) (r : Request) :
    (outcome (message id r) w).2.Settled (g.asked (r.reads w.heap ts id)) ts es := by
  rw [message_eq, outcome_bind, outcome_reading_eq]
  cases hf : r.issue.fields w.heap with
  | error e =>
    rw [Request.reads_of_error hf]
    exact hw
  | ok fields =>
    dsimp only [Except.mapError]
    cases hm : preformatted? fields with
    | some m =>
      rw [Request.reads_of_ready hf hm]
      exact hw
    | none =>
      by_cases hl : r.language = .null
      · have hasked := settled_readLanguage hw id
        rw [Request.reads_of_open hf hm hl, hl, askLanguage, outcome_bind]
        cases hout : outcome (readLanguage id) w with
        | mk x w' =>
          rw [hout] at hasked
          cases x with
          | error e => exact hasked
          | ok l => exact (keeps_reply id r fields l w' hasked).1
      · have hgiven : askLanguage id r.language = pure r.language := by
          generalize r.language = l at hl
          cases l <;> first | rfl | exact absurd rfl hl
        rw [Request.reads_of_language hl, hgiven, pure_bind]
        exact (keeps_reply id r fields _ w hw).1

/-! ## Watches that run -/

variable {c : Nat} {k : Watch}

/-- A watch that can run asks its box; if it gets a message, this is an event. -/
theorem outcome_runWatch (hk : w.graph.entryOf c = some (k, false))
    (hc : w.graph.canRun c = true) :
    outcome (runWatch c) w =
      match outcome (message k.box k.request) { w with graph := w.graph.enter c } with
      | (.ok v, w') =>
        (.ok (), { w' with events := (k.name, v) :: w'.events, graph := w'.graph.leave })
      | (.error e, w') => (.error e, { w' with graph := w'.graph.leave }) := by
  obtain ⟨l, hl, hbody⟩ := Option.map_eq_some_iff.mp hk
  obtain rfl : l.body = k := congrArg Prod.fst hbody
  rw [runWatch, outcome_get_bind, hl]
  dsimp only
  rw [if_pos hc, outcome_modify_bind, outcome_tryFinally, outcome_bind]
  cases outcome (message l.body.box l.body.request) { w with graph := w.graph.enter c } with
  | mk x w' => cases x <;> rfl

theorem settled_entered (hw : w.Sound) (c : Nat) :
    World.Settled (w.graph.enter c) w.trackers w.events { w with graph := w.graph.enter c } :=
  ⟨World.invariant_sound.graph hw _, rfl, rfl, rfl⟩

/-- **A watch that runs reads the dependency of its box if and only if it asks it in its language.**
-/
theorem settled_runWatch (hw : w.Sound) (hk : w.graph.entryOf c = some (k, false))
    (hc : w.graph.canRun c = true) :
    ∃ es, (outcome (runWatch c) w).2.Settled (w.graph.ran c (k.request.reads w.heap w.trackers k.box))
      w.trackers es := by
  have hmessage := settled_message (settled_entered hw c) k.box k.request
  rw [Graph.asked_enter] at hmessage
  rw [outcome_runWatch hk hc]
  cases hout : outcome (message k.box k.request) { w with graph := w.graph.enter c } with
  | mk x w' =>
    rw [hout] at hmessage
    have hleft : w'.graph.leave = w.graph.ran c (k.request.reads w.heap w.trackers k.box) :=
      congrArg Graph.leave hmessage.graph
    have hsound := World.invariant_sound.graph hmessage.sound w'.graph.leave
    cases x with
    | error e => exact ⟨_, hsound, hleft, hmessage.trackers, rfl⟩
    | ok v => exact ⟨_, World.invariant_sound.events hsound _, hleft, hmessage.trackers, rfl⟩

end Session

/-! ## Wired graphs -/

/-- A watch that is not stopped and asks a box in its language. -/
def Graph.Reader (g : Graph Watch) (h : Heap) (id c : Nat) : Prop :=
  ∃ k, g.entryOf c = some (k, false) ∧ k.box = id ∧ k.request.isOpen h = true

/-- Nothing runs, and exactly the watches that ask a box in its language depend on it; but for one
that is about to run, if there is one. -/
structure Graph.Wired (h : Heap) (ts : Array (Option Nat)) (next : Option Nat) (g : Graph Watch) :
    Prop where
  linked : g.Linked
  stack : g.stack = []
  idle : ∀ c, g.isRunning c = false
  box : ∀ c e, g.entryOf c = some e → e.1.box < ts.size
  inRange : ∀ id d : Nat, ts[id]? = some (some d) → d < g.dependents.size
  distinct : ∀ id id' d : Nat, ts[id]? = some (some d) → ts[id']? = some (some d) → id = id'
  mem_iff : ∀ id d : Nat, ts[id]? = some (some d) → ∀ c,
    c ∈ g.dependentsOf d ↔ next ≠ some c ∧ g.Reader h id c

namespace Graph

variable {g g' : Graph Watch} {h h' : Heap} {ts : Array (Option Nat)} {next : Option Nat}
  {c : Nat} {k : Watch}

theorem Reader.congr (hentry : g'.entryOf c = g.entryOf c) {id : Nat} :
    g'.Reader h id c ↔ g.Reader h id c := by
  rw [Reader, hentry]
  rfl

theorem wired_empty (h : Heap) : (empty : Graph Watch).Wired h #[] none where
  linked := linked_empty
  stack := rfl
  idle _ := rfl
  box _ _ he := by cases he
  inRange _ _ hd := by cases hd
  distinct _ _ _ hd := by cases hd
  mem_iff _ _ hd := by cases hd

namespace Wired

/-- On another heap, the watches still ask the same. -/
theorem setHeap (hg : g.Wired h ts next)
    (hopen : ∀ c e, g.entryOf c = some e → e.1.request.isOpen h = e.1.request.isOpen h') :
    g.Wired h' ts next := by
  refine { hg with mem_iff := fun id d hd c => ?_ }
  rw [hg.mem_iff id d hd c]
  refine and_congr_right fun _ => exists_congr fun k => and_congr_right fun hk => ?_
  rw [hopen c _ hk]

/-- A box without a dependency. -/
theorem pushNone (hg : g.Wired h ts next) : g.Wired h (ts.push none) next := by
  have hold {id d : Nat} (hd : (ts.push none)[id]? = some (some d)) : ts[id]? = some (some d) := by
    rw [Array.getElem?_push] at hd
    split at hd
    · cases hd
    · exact hd
  exact {
    hg with
    box := fun c e he => by
      rw [Array.size_push]
      exact Nat.lt_succ_of_lt (hg.box c e he)
    inRange := fun id d hd => hg.inRange id d (hold hd)
    distinct := fun id id' d hd hd' => hg.distinct id id' d (hold hd) (hold hd')
    mem_iff := fun id d hd => hg.mem_iff id d (hold hd) }

/-- A box with a new dependency: no watch asks it. -/
theorem pushSome (hg : g.Wired h ts next) :
    g.newDependency.2.Wired h (ts.push (some g.newDependency.1)) next := by
  have hold {id d : Nat} (hd : (ts.push (some g.newDependency.1))[id]? = some (some d)) :
      id = ts.size ∧ d = g.dependents.size ∨
        id ≠ ts.size ∧ d ≠ g.dependents.size ∧ ts[id]? = some (some d) := by
    rw [Array.getElem?_push] at hd
    split at hd
    · next hid =>
      cases hd
      exact .inl ⟨hid, rfl⟩
    · next hid => exact .inr ⟨hid, Nat.ne_of_lt (hg.inRange id d hd), hd⟩
  refine {
    linked := linked_newDependency hg.linked
    stack := hg.stack
    idle := hg.idle
    box := fun c e he => ?_
    inRange := fun id d hd => ?_
    distinct := fun id id' d hd hd' => ?_
    mem_iff := fun id d hd c => ?_ }
  · rw [Array.size_push]
    exact Nat.lt_succ_of_lt (hg.box c e he)
  · show d < (g.dependents.push []).size
    rw [Array.size_push]
    obtain ⟨-, rfl⟩ | ⟨-, -, hd⟩ := hold hd
    · exact Nat.lt_succ_self _
    · exact Nat.lt_succ_of_lt (hg.inRange id d hd)
  · obtain ⟨rfl, rfl⟩ | ⟨-, hne, hd⟩ := hold hd
    · obtain ⟨rfl, -⟩ | ⟨-, hne, -⟩ := hold hd'
      · rfl
      · exact absurd rfl hne
    · obtain ⟨-, rfl⟩ | ⟨-, -, hd'⟩ := hold hd'
      · exact absurd rfl hne
      · exact hg.distinct id id' d hd hd'
  · have hof : g.newDependency.2.dependentsOf d =
        if d = g.dependents.size then [] else g.dependentsOf d := by
      unfold newDependency dependentsOf
      dsimp only
      rw [Array.getElem?_push]
      split <;> rfl
    rw [hof]
    obtain ⟨rfl, rfl⟩ | ⟨-, hne, hd⟩ := hold hd
    · rw [if_pos rfl]
      refine ⟨nofun, ?_⟩
      rintro ⟨-, k, hk, hbox, -⟩
      exact absurd hbox (Nat.ne_of_lt (hg.box c _ hk))
    · rw [if_neg hne]
      exact hg.mem_iff id d hd c

/-- A watch that is about to run for the first time. -/
theorem newComputation (hg : g.Wired h ts none) (hk : k.box < ts.size) :
    (g.newComputation k).2.Wired h ts (some (g.newComputation k).1) := by
  refine {
    hg with
    linked := linked_newComputation hg.linked k
    idle := fun c => ?_
    box := fun c e he => ?_
    mem_iff := fun id d hd c => ?_ }
  · unfold Graph.newComputation isRunning
    dsimp only
    rw [Array.getElem?_push]
    split
    · rfl
    · exact hg.idle c
  · rw [entryOf_newComputation] at he
    split at he
    · cases he
      exact hk
    · exact hg.box c e he
  · show c ∈ g.dependentsOf d ↔ some g.computations.size ≠ some c ∧ _
    rw [hg.mem_iff id d hd c]
    by_cases hc : c = g.computations.size
    · subst hc
      refine iff_of_false ?_ fun hc => hc.1 rfl
      rintro ⟨-, k, hk, -⟩
      exact absurd (lt_of_entryOf hk) (Nat.lt_irrefl _)
    · have hentry : (g.newComputation k).2.entryOf c = g.entryOf c := by
        rw [entryOf_newComputation, if_neg hc]
      rw [Reader.congr hentry]
      exact and_congr_left fun _ => iff_of_true nofun fun he => hc (Option.some.inj he).symm

/-- A watch that is stopped. -/
theorem stop (hg : g.Wired h ts none) (c : Nat) : (g.stop c).Wired h ts none := by
  have hsteady : g.Steady (g.stop c) := steady_stop c
  have hkeeps : g.Keeps (g.stop c) := keeps_stop c
  have hmarked : (g.modify c fun k => { k with stopped := true }).Linked :=
    linked_modify hg.linked fun _ => rfl
  refine {
    linked := linked_stop hg.linked c
    stack := hkeeps.stack.trans hg.stack
    idle := hsteady.idle hkeeps.computations_size hg.idle
    box := fun c' e he => ?_
    inRange := fun id d hd => hkeeps.dependents_size.symm ▸ hg.inRange id d hd
    distinct := hg.distinct
    mem_iff := fun id d hd c' => ?_ }
  · rw [entryOf_stop] at he
    split at he
    · obtain ⟨e', he', rfl⟩ := Option.map_eq_some_iff.mp he
      exact hg.box c' e' he'
    · exact hg.box c' e he
  · rw [Graph.stop, dependentsOf_detach hmarked]
    show c' ∈ (g.dependentsOf d).erase c ↔ none ≠ some c' ∧ (g.stop c).Reader h id c'
    rw [(hg.linked.dependents_nodup d).mem_erase_iff, hg.mem_iff id d hd c']
    by_cases hc : c = c'
    · subst hc
      refine iff_of_false (fun hc => hc.1 rfl) ?_
      rintro ⟨-, k, hk, -⟩
      rw [entryOf_stop, if_pos rfl] at hk
      obtain ⟨e, -, he⟩ := Option.map_eq_some_iff.mp hk
      exact absurd (congrArg Prod.snd he) (Bool.false_ne_true ∘ Eq.symm)
    · have hentry : (g.stop c).entryOf c' = g.entryOf c' := by rw [entryOf_stop, if_neg hc]
      rw [Reader.congr hentry]
      exact and_iff_right (Ne.symm hc)

/-- A watch that is about to take its turn. -/
theorem detach (hg : g.Wired h ts none) (c : Nat) : (g.detach c).Wired h ts (some c) := by
  have hsteady : g.Steady (g.detach c) := steady_detach c
  have hkeeps : g.Keeps (g.detach c) := keeps_detach c
  refine {
    linked := linked_detach hg.linked c
    stack := hkeeps.stack.trans hg.stack
    idle := hsteady.idle hkeeps.computations_size hg.idle
    box := fun c' e he => hg.box c' e (entryOf_detach (g := g) c c' ▸ he)
    inRange := fun id d hd => hkeeps.dependents_size.symm ▸ hg.inRange id d hd
    distinct := hg.distinct
    mem_iff := fun id d hd c' => ?_ }
  rw [dependentsOf_detach hg.linked, (hg.linked.dependents_nodup d).mem_erase_iff,
    hg.mem_iff id d hd c', Reader.congr (entryOf_detach c c')]
  refine and_congr ?_ (and_iff_right nofun)
  exact not_congr ⟨fun he => congrArg some he.symm, fun he => (Option.some.inj he).symm⟩

/-- **A run puts a watch down with its box if and only if it asks it in its language.** -/
theorem ran (hg : g.Wired h ts (some c)) (hk : g.entryOf c = some (k, false)) :
    (g.ran c (k.request.reads h ts k.box)).Wired h ts none := by
  have hcan : g.canRun c = true := canRun_of_entryOf hk (hg.idle c)
  have hd (e : Nat) (he : e ∈ k.request.reads h ts k.box) : e < g.dependents.size :=
    hg.inRange k.box e (Request.reads_eq_some_iff.mp he).2
  have hsteady := steady_ran hcan (k.request.reads h ts k.box)
  refine {
    linked := linked_ran hg.linked (lt_of_entryOf hk) hd
    stack := hsteady.stack.trans hg.stack
    idle := hsteady.idle (size_ran c _) hg.idle
    box := fun c' e he => hg.box c' e (entryOf_ran (g := g) c _ c' ▸ he)
    inRange := fun id d hid => (dependents_size_ran (g := g) c _).symm ▸ hg.inRange id d hid
    distinct := hg.distinct
    mem_iff := fun id d hid c' => ?_ }
  have hc : c ∉ g.dependentsOf d := fun hc => ((hg.mem_iff id d hid c).mp hc).1 rfl
  -- The watch that runs is found there if it has read this very dependency.
  have hself : k.request.reads h ts k.box = some d ↔ g.Reader h id c := by
    rw [Request.reads_eq_some_iff]
    constructor
    · rintro ⟨hopen, hbox⟩
      exact ⟨k, hk, hg.distinct k.box id d hbox hid, hopen⟩
    · rintro ⟨l, hl, rfl, hopen⟩
      obtain rfl : k = l := congrArg Prod.fst (Option.some.inj (hk.symm.trans hl))
      exact ⟨hopen, hid⟩
  rw [dependentsOf_ran hd hc, Reader.congr (entryOf_ran c _ c')]
  by_cases hcc : c = c'
  · subst hcc
    rw [← hself]
    split
    · next he => exact iff_of_true (by simp) ⟨nofun, he⟩
    · next he => exact iff_of_false hc fun h => he h.2
  · have hmem : c' ∈ (if k.request.reads h ts k.box = some d then g.dependentsOf d ++ [c]
        else g.dependentsOf d) ↔ c' ∈ g.dependentsOf d := by
      split
      · simp [Ne.symm hcc]
      · rfl
    rw [hmem, hg.mem_iff id d hid c']
    exact and_congr_left fun _ => iff_of_true (fun he => hcc (Option.some.inj he)) nofun

end Wired

end Graph

end Wording
