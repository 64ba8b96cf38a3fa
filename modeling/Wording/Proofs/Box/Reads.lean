import Wording.Proofs.Box.Counted
import Wording.Proofs.Box.Idle
import Wording.Proofs.Box.Extends
import Wording.Proofs.Template.Untouched

/-!
# Boxes that are asked

A box is asked for a message, or for all its messages. Unless a method of a list is called for it, this
changes nothing that is asked for elsewhere, whatever comes of it: it puts values behind all others
and templates into caches, it is noted, and a recording tracker counts it.

* `leaves_refusingTo`: calls of something else than a method of a list
* `World.Consulted`: a world in which boxes have been asked
* `Room.Consults`, `Room.exists_after_read`: steps that ask a box
-/

namespace Wording

/-! ## Calls without methods of lists -/

/-- Calls values at most `depth` deep, but no method of a list. -/
def refusingTo (limit : Nat) : Nat → Caller
  | 0 => fun _ _ => throw .exhausted
  | depth + 1 => fun f a =>
    if f.isListMethod then throw .exhausted else callWith limit (refusingTo limit depth) f a

def Bounds.refusing (b : Bounds) : Machine := ⟨refusingTo b.rounds b.depth, b.rounds⟩

theorem leaves_refusingTo {P : Heap → Prop} (hP : Heap.Lasting P) (limit depth : Nat) (f : Value)
    (a : Arguments) : Eval.Leaves P (refusingTo limit depth f a) := by
  induction depth generalizing f a with
  | zero => exact leaves_throw _
  | succ depth ih =>
    show Eval.Leaves P (if f.isListMethod then throw .exhausted
      else callWith limit (refusingTo limit depth) f a)
    split
    · exact leaves_throw _
    · next hf => exact leaves_callWith hP ih (fun h => absurd h hf) a

namespace Session

/-- The answer for the fields of an issue, when values are called by `m`. -/
def answerBy (m : Machine) (b : Box) (r : Request) (fields : Entries) (selected : Option Value) :
    Session Value := do
  let name := (fields.lookup (.str "name")).getD .null
  let errorType := (fields.lookup (.str "type")).getD .null
  let generic := genericName? name
  match selected with
  | some (.str text) =>
    let t ← template b text
    let context ← renderContext generic r.context fields
    return .str (← eval (renderTemplate m t.nodes (some context)))
  | some v =>
    if v.isCallable then
      let context ← renderContext generic r.context fields
      eval (m.call v ⟨[context], []⟩)
    else fallback name errorType generic
  | none => fallback name errorType generic

/-- The message of a box for an issue, when values are called by `m`. -/
def messageBy (m : Machine) (id : Nat) (r : Request) : Session Value := do
  let fields ← reading r.issue.fields
  match preformatted? fields with
  | some m => return m
  | none =>
    let errorType := (fields.lookup (.str "type")).getD .null
    let generic := genericName? ((fields.lookup (.str "name")).getD .null)
    let (messages, _) ← boxMessages id r.language
    if !errorType.isKey then fail .type
    answerBy m (← box id) r fields ((messages.find? errorType).bind (CatalogNode.select generic))

/-- A message that stands ready is given without a call. -/
theorem outcome_messageBy_of_ready {w : World} {r : Request} {fields : Entries} {v : Value}
    (hf : r.issue.fields w.heap = .ok fields) (hv : preformatted? fields = some v) (m : Machine)
    (id : Nat) : outcome (messageBy m id r) w = (.ok v, w) := by
  rw [messageBy, outcome_bind, outcome_reading_eq, hf]
  dsimp only [Except.mapError]
  rw [hv]
  rfl

/-! ### The machine of a world -/

/-- A sound world with these bounds. -/
structure Within (c : Bounds) (w : World) : Prop where
  sound : w.Sound
  bounds : w.bounds = c

theorem upheld_within (c : Bounds) : World.Upheld (Within c) fun _ b => b.Sound where
  compiled := fun h => h.sound.compiled
  shared := fun h => h.sound.shared
  box := fun h hb => World.invariant_sound.box h.sound hb
  sound := id
  tracker := fun h _ _ => ⟨h.combined, h.clean⟩
  heap := fun h k => ⟨World.invariant_sound.heap h.sound k, h.bounds⟩
  caches := fun h _ hcs => ⟨World.invariant_sound.caches h.sound hcs, h.bounds⟩
  log := fun h l => ⟨World.invariant_sound.log h.sound l, h.bounds⟩
  setBox := fun h id _ hb => ⟨World.invariant_sound.setBox h.sound id hb, h.bounds⟩

variable {c : Bounds}

theorem coincide_answerBy {b : Box} (hb : b.Sound) (r : Request) (fields : Entries)
    (selected : Option Value) :
    Coincide (Within c) (answer b r fields selected) (answerBy c.machine b r fields selected) := by
  have hP := upheld_within c
  have hmachine {α : Type} (f : Machine → Eval α) : Coincide (Within c)
      (do
        let machine := (← get).bounds.machine
        eval (f machine))
      (eval (f c.machine)) := by
    intro w hw
    rw [outcome_get_bind, hw.bounds]
    exact ⟨rfl, (keeps_eval hP _ w hw).1⟩
  have hother (name errorType v : Value) (generic : Option String) : Coincide (Within c)
      (if v.isCallable then do
        let context ← renderContext generic r.context fields
        let machine := (← get).bounds.machine
        eval (machine.call v ⟨[context], []⟩)
      else fallback name errorType generic)
      (if v.isCallable then do
        let context ← renderContext generic r.context fields
        eval (c.machine.call v ⟨[context], []⟩)
      else fallback name errorType generic) := by
    split
    · exact (keeps_renderContext hP _ _ _).coincide.bind fun context =>
        hmachine fun m => m.call v ⟨[context], []⟩
    · exact (keeps_fallback hP _ _ _).coincide
  unfold answer answerBy
  dsimp only
  cases selected with
  | none => exact (keeps_fallback hP _ _ _).coincide
  | some v =>
    cases v with
    | str text =>
      refine (keeps_template hP hb text).coincide.bind fun t =>
        (keeps_renderContext hP _ _ _).coincide.bind fun context => ?_
      have hrendered := (hmachine fun m => renderTemplate m t.nodes (some context)).bind
        fun text => (keeps_return (P := Within c) (Value.str text)).coincide
      rwa [bind_assoc] at hrendered
    | _ => exact hother _ _ _ _

/-- **A box calls values by the machine of its world.** -/
theorem coincide_messageBy (id : Nat) (r : Request) :
    Coincide (Within c) (message id r) (messageBy c.machine id r) := by
  have hP := upheld_within c
  have hdepend (w : World) (h : Within c w) (d : Nat) :
      Within c { w with graph := (w.graph.depend d none).2 } :=
    ⟨World.invariant_sound.graph h.sound _, h.bounds⟩
  refine (keeps_reading _).coincide.bind fun fields => ?_
  cases preformatted? fields with
  | some m => exact coincide_pure m
  | none =>
    refine (keeps_boxMessages hP hdepend id r.language).coincide.bind fun messages => ?_
    dsimp only
    split
    · exact coincide_throw _
    · intro w hw
      rw [outcome_bind, outcome_bind]
      obtain ⟨hw', hbox⟩ := keeps_box hP id w hw
      cases hout : outcome (box id) w with
      | mk x z =>
        rw [hout] at hw' hbox
        cases x with
        | error e => exact ⟨rfl, hw'⟩
        | ok b => exact coincide_answerBy (hbox b rfl) r fields _ z hw'

end Session

/-! ## What is changed -/

/-- A world in which boxes have been asked: more values lie behind all others, templates may have been
put into caches, and boxes may have been counted. -/
structure World.Consulted (w z : World) : Prop where
  bounds : z.bounds = w.bounds
  heap : w.heap.Extends z.heap
  defaults : z.defaults = w.defaults
  compiled : z.CachesCompiled
  boxes : z.boxes.map Box.uncounted = w.boxes.map Box.uncounted
  graph : z.graph = w.graph
  events : z.events = w.events

namespace World.Consulted

variable {w z : World}

theorem refl (hw : w.CachesCompiled) : w.Consulted w :=
  ⟨rfl, .refl _, rfl, hw, rfl, rfl, rfl⟩

theorem setCaches (h : w.Consulted z) {cs : Array Cache} (hcs : ∀ c ∈ cs, c.Compiled)
    (log : List LogEvent) : w.Consulted { z with caches := cs, log := log } :=
  { h with compiled := hcs }

/-- A box that is found has been there before, but for how often it has been asked. -/
theorem box (h : w.Consulted z) {id : Nat} {b : Box} (hb : z.boxes[id]? = some b) :
    (w.boxes.map Box.uncounted)[id]? = some b.uncounted := by
  rw [← h.boxes, Array.getElem?_map, hb]
  rfl

theorem setBox (h : w.Consulted z) {id : Nat} {b : Box}
    (hb : (w.boxes.map Box.uncounted)[id]? = some b.uncounted) :
    w.Consulted { z with boxes := z.boxes.setIfInBounds id b } := by
  refine { h with boxes := ?_ }
  rw [Array.map_setIfInBounds, h.boxes]
  obtain ⟨hlt, hget⟩ := Array.getElem?_eq_some_iff.mp hb
  rw [← hget, Array.setIfInBounds, dif_pos hlt, Array.set_getElem_self]

/-- All else is as it was. -/
theorem uncounted_eq (h : w.Consulted z) :
    { w.uncounted with heap := z.heap, caches := z.caches, log := z.log } = z.uncounted := by
  unfold uncounted
  rw [h.bounds, h.defaults, h.boxes, h.graph, h.events]

end World.Consulted

theorem World.Sound.combined_of_uncounted {w : World} (hw : w.Sound) {id : Nat} {b : Box}
    (hb : (w.boxes.map Box.uncounted)[id]? = some b.uncounted) : b.markers.Combined := by
  rw [Array.getElem?_map] at hb
  obtain ⟨x, hx, hxb⟩ := Option.map_eq_some_iff.mp hb
  have hmarkers : x.markers = b.markers :=
    show x.uncounted.markers = b.uncounted.markers from hxb ▸ rfl
  exact hmarkers ▸ (World.invariant_sound.box hw hx).combined

namespace Session

variable {α : Type} {w : World}

theorem consulted_eval {m : Eval α} (hm : Eval.Leaves w.heap.Extends m) :
    Keeps w.Consulted (eval m) fun _ => True := by
  intro z hz
  rw [outcome_eval]
  exact ⟨{ hz with heap := (hm z.heap hz.heap).1 }, fun _ _ => trivial⟩

theorem consulted_note (e : LogEvent) : Keeps w.Consulted (note e) fun _ => True :=
  keeps_modify fun _ hz => hz.setCaches hz.compiled _

theorem consulted_template {b : Box} (hb : b.markers.Combined) (text : String) :
    Keeps w.Consulted (template b text) fun _ => True := by
  intro z hz
  obtain ⟨caches, log, hout, hcaches, -⟩ := outcome_template_eq hb hz.compiled text
  rw [hout]
  exact ⟨hz.setCaches hcaches log, fun _ _ => trivial⟩

theorem consulted_renderContext (generic : Option String) (context : Value) (fields : Entries) :
    Keeps w.Consulted (renderContext generic context fields) fun _ => True := by
  have hgiven (es : Entries) := consulted_eval (w := w) (leaves_newDict w.heap.lasting_extends es)
  refine (keeps_truthy context).bind fun given _ => ?_
  dsimp only
  split
  · exact (keeps_reading _).bind fun _ _ => hgiven _
  · exact (keeps_return _).bind fun _ _ => hgiven _

theorem consulted_fallback (name errorType : Value) (generic : Option String) :
    Keeps w.Consulted (fallback name errorType generic) fun _ => True :=
  keeps_get.bind fun _ _ => (consulted_note _).bind fun _ _ => (keeps_reading _).bind
    fun _ _ => keeps_return _

/-- **An answer changes nothing, unless a method of a list is called.** -/
theorem consulted_answerBy (c : Bounds) {b : Box} (hb : b.markers.Combined) (r : Request)
    (fields : Entries) (selected : Option Value) :
    Keeps w.Consulted (answerBy c.refusing b r fields selected) fun _ => True := by
  have hP := w.heap.lasting_extends
  have hcall := leaves_refusingTo hP c.rounds c.depth
  unfold answerBy
  dsimp only
  split
  · exact (consulted_template hb _).bind fun t _ => (consulted_renderContext _ _ _).bind
      fun context _ => (consulted_eval (leaves_renderTemplate hP t.nodes (some context)
        fun _ _ _ => hcall)).bind fun _ _ => keeps_return _
  · split
    · exact (consulted_renderContext _ _ _).bind fun _ _ => consulted_eval (hcall _ _)
    · exact consulted_fallback _ _ _
  · exact consulted_fallback _ _ _

variable (hw : w.Sound) (hidle : w.graph.stack = [])

theorem consulted_box (id : Nat) : Keeps w.Consulted (box id)
    fun b => (w.boxes.map Box.uncounted)[id]? = some b.uncounted := by
  refine keeps_get.bind fun z hz => ?_
  cases hb : z.boxes[id]? with
  | none => exact keeps_throw _
  | some b => exact keeps_pure (hz.box hb)

include hidle

/-- Who reads the language of a box depends on it, but here nobody runs. -/
theorem consulted_readLanguage (id : Nat) :
    Keeps w.Consulted (readLanguage id) fun _ => True := by
  refine (consulted_box id).bind fun b hb => ?_
  split
  · exact keeps_return _
  · next d _ =>
    refine Keeps.bind (Q := fun _ => True) (keeps_modify fun z hz => ?_) fun _ _ => keeps_return _
    have hgraph : (z.graph.depend d none).2 = z.graph :=
      Graph.asked_of_idle (hz.graph ▸ hidle) (some d)
    exact { hz with graph := hgraph.trans hz.graph }
  · next n changes ht =>
    refine Keeps.bind (Q := fun _ => True) (keeps_modify fun z hz => hz.setBox (hb.trans ?_))
      fun _ _ => keeps_return _
    rw [Box.uncounted, Box.uncounted, ht]
    rfl

/-- **Asking a box for its messages changes nothing.** -/
theorem consulted_boxMessages (id : Nat) (language : Value) :
    Keeps w.Consulted (boxMessages id language) fun _ => True := by
  have hmessages (l : Value) : Keeps w.Consulted (do
      let b ← box id
      return (← mergedMessages b.messages l, l)) fun _ => True :=
    (consulted_box id).bind fun _ _ => (keeps_mergedMessages _ _).bind fun _ _ => keeps_return _
  cases language with
  | null => exact (consulted_readLanguage hidle id).bind fun l _ => hmessages l
  | _ => exact hmessages _

include hw

/-- **Asking a box for a message changes nothing, unless a method of a list is called.** -/
theorem consulted_messageBy (c : Bounds) (id : Nat) (r : Request) :
    Keeps w.Consulted (messageBy c.refusing id r) fun _ => True := by
  refine (keeps_reading _).bind fun fields _ => ?_
  cases preformatted? fields with
  | some m => exact keeps_return _
  | none =>
    refine (consulted_boxMessages hidle id r.language).bind fun messages _ => ?_
    dsimp only
    split
    · exact (keeps_throw (Q := fun _ => False) _).bind fun _ h => h.elim
    · exact (consulted_box id).bind fun b hb =>
        consulted_answerBy c (hw.combined_of_uncounted hb) r fields _

end Session

/-! ## Steps that ask -/

/-- What may be asked of a box without a change: a message, for which no method of a list is called (it
makes no difference when they cannot be), and its messages, given out as a new dictionary. -/
inductive Room.Consults (room : Room) : Step → Prop
  | message (name : String) (r : Request)
      (h : ∀ e, room.boxes.find? (·.1 == name) = some e →
        outcome (Session.messageBy room.world.bounds.refusing e.2 r) room.cleared.world =
          outcome (Session.messageBy room.world.bounds.machine e.2 r) room.cleared.world) :
      Consults room (.message name r)
  | messages (name : String) (language : Value) : Consults room (.messages name language none)

theorem Play.consulted_session {α : Type} {w : World} {room : Room} {m : Session α}
    (hm : Keeps w.Consulted m fun _ => True) :
    Keeps (fun r : Room => ∃ z, r = { room with world := z } ∧ w.Consulted z) (session m)
      fun _ => True := by
  rintro _ ⟨z, rfl, hz⟩
  rw [outcome_session]
  exact ⟨⟨_, rfl, (hm z hz).1⟩, fun _ _ => trivial⟩

theorem Play.room_session_shown (m : Session Value) (room : Room) :
    (outcome (do shown (.value (← session m))) room).2 =
      { room with world := (outcome m room.world).2 } := by
  rw [outcome_bind, outcome_session]
  cases outcome m room.world with
  | mk x w => cases x <;> rfl

/-- **Behind a step that asks a box, the room is as it was**, whatever has come of the step. -/
theorem Room.exists_after_read {room : Room} (hroom : Played room) {s : Step} (hs : room.Consults s) :
    ∃ z, room.after s = { room with world := z } ∧ room.cleared.world.Consulted z := by
  have hsound : room.cleared.world.Sound := World.invariant_sound.noted (sound_of_played hroom) [] []
  have hidle : room.cleared.world.graph.stack = [] :=
    show room.world.graph.stack = [] from idle_of_played hroom
  have hstart : room.cleared.world.Consulted room.cleared.world := .refl hsound.compiled
  rw [after_eq]
  cases hs with
  | messages name language =>
    suffices h : Keeps (fun r : Room => ∃ z, r = { room with world := z } ∧
        room.cleared.world.Consulted z) (Play.perform (.messages name language none)) fun _ => True
      from (h room.cleared ⟨_, rfl, hstart⟩).1
    rw [Play.perform]
    exact (Play.keeps_find _ name).bind fun id _ => (Play.consulted_session
      (Session.consulted_boxMessages hidle id language)).bind fun found _ =>
        (Play.consulted_session (Session.consulted_eval (Catalog.keeps_toDict _))).bind fun _ _ =>
          (Play.keeps_shown _).bind fun _ _ => keeps_return _
  | message name r hrefused =>
    rw [Play.perform, outcome_bind, Play.outcome_find]
    cases hfind : room.cleared.boxes.find? (·.1 == name) with
    | none => exact ⟨_, rfl, hstart⟩
    | some e =>
      have hasked := (Session.consulted_messageBy hsound hidle room.world.bounds e.2 r _ hstart).1
      have hmessage := (Session.coincide_messageBy (c := room.world.bounds) e.2 r _
        ⟨hsound, rfl⟩).1
      rw [hrefused e hfind, ← hmessage] at hasked
      exact ⟨_, Play.room_session_shown _ _, hasked⟩

end Wording
