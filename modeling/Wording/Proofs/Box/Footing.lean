import Wording.Proofs.Box.Named
import Wording.Proofs.Settings.Runs

/-!
# What a box answers from

A box answers from its language, its markers and its messages, and from the messages of the defaults
below them: this is its footing. Whatever else is done in a room, to other boxes, to stores, caches
and watches or to the language and the markers of the defaults, leaves the footing of a box as it is;
and what is done to the box itself, or to the messages of the defaults, changes it in a way that
depends on the footing alone.

* `Room.Rests.after`: steps that do not concern a box
* `Room.Rests.after_setLanguage`, …: those that do
-/

namespace Wording

/-- What a box answers from. -/
structure Footing where
  bounds : Bounds
  language : Value
  markers : Markers
  messages : Catalog
  /-- The messages of the defaults. -/
  shared : Catalog

/-- A box with what its footing says of it. -/
structure Box.On (f : Footing) (b : Box) : Prop where
  language : b.language = f.language
  markers : b.markers = f.markers
  messages : b.messages = f.messages

/-- A world in which a box rests on a footing. -/
structure World.Rests (id : Nat) (f : Footing) (w : World) : Prop where
  sound : w.Sound
  bounds : w.bounds = f.bounds
  shared : w.defaults.messages = f.shared
  box : ∃ b, w.boxes[id]? = some b ∧ b.On f

/-- A room in which the box of a name rests on a footing. -/
structure Room.Rests (name : String) (id : Nat) (f : Footing) (room : Room) : Prop where
  world : room.world.Rests id f
  named : room.boxes.find? (·.1 == name) = some (name, id)
  /-- Other names stand for other boxes. -/
  others : ∀ e ∈ room.boxes, e.1 ≠ name → e.2 ≠ id

/-- Each box in a session rests on a footing. -/
theorem Room.exists_rests {room : Room} (hroom : Played room) {name : String} {b : Box}
    (hb : room.box? name = some b) :
    ∃ id, room.Rests name id
      ⟨room.world.bounds, b.language, b.markers, b.messages, room.world.defaults.messages⟩ := by
  obtain ⟨⟨x, id⟩, hname, hid⟩ := Option.bind_eq_some_iff.mp hb
  obtain rfl : x = name := by simpa using List.find?_some hname
  exact ⟨id, ⟨sound_of_played hroom, rfl, rfl, b, hid, rfl, rfl, rfl⟩, hname, fun e he hne =>
    (distinct_of_played hroom).ne_of_find? hname he hne⟩

variable {name : String} {id : Nat} {f : Footing} {room : Room}

theorem Room.Rests.exists_box (h : room.Rests name id f) :
    ∃ b, room.box? name = some b ∧ b.On f := by
  obtain ⟨b, hid, hon⟩ := h.world.box
  refine ⟨b, ?_, hon⟩
  rw [box?, h.named]
  exact hid

/-! ## What leaves a footing as it is -/

theorem World.invariant_rests (id : Nat) (f : Footing) :
    Invariant (Rests id f) fun place b => b.Sound ∧ (place = id → b.On f) where
  compiled := fun h => h.sound.compiled
  shared := fun h => h.sound.shared
  box := fun h hb => by
    refine ⟨World.invariant_sound.box h.sound hb, ?_⟩
    rintro rfl
    obtain ⟨c, hc, hon⟩ := h.box
    rw [hb] at hc
    cases hc
    exact hon
  sound := fun h => h.1
  tracker := fun h _ _ => ⟨⟨h.1.combined, h.1.clean⟩, fun hid =>
    ⟨(h.2 hid).language, (h.2 hid).markers, (h.2 hid).messages⟩⟩
  heap := fun h k => ⟨World.invariant_sound.heap h.sound k, h.bounds, h.shared, h.box⟩
  caches := fun h _ hcs => ⟨World.invariant_sound.caches h.sound hcs, h.bounds, h.shared, h.box⟩
  graph := fun h g => ⟨World.invariant_sound.graph h.sound g, h.bounds, h.shared, h.box⟩
  log := fun h l => ⟨World.invariant_sound.log h.sound l, h.bounds, h.shared, h.box⟩
  events := fun h e => ⟨World.invariant_sound.events h.sound e, h.bounds, h.shared, h.box⟩
  setBox := fun h place b hb => by
    refine ⟨World.invariant_sound.setBox h.sound place hb.1, h.bounds, h.shared, ?_⟩
    obtain ⟨c, hc, hon⟩ := h.box
    obtain ⟨hlt, -⟩ := Array.getElem?_eq_some_iff.mp hc
    by_cases hid : place = id
    · subst hid
      exact ⟨b, Array.getElem?_setIfInBounds_self_of_lt hlt, hb.2 rfl⟩
    · exact ⟨c, (Array.getElem?_setIfInBounds_ne hid).trans hc, hon⟩
  pushBox := fun h b hb => by
    refine ⟨World.invariant_sound.pushBox h.sound hb, h.bounds, h.shared, ?_⟩
    obtain ⟨c, hc, hon⟩ := h.box
    obtain ⟨hlt, -⟩ := Array.getElem?_eq_some_iff.mp hc
    exact ⟨c, (Array.getElem?_push_lt hlt).trans ((Array.getElem?_eq_getElem hlt).symm.trans hc),
      hon⟩
  free := fun {w} h b hb => by
    refine ⟨hb, fun hsize => ?_⟩
    obtain ⟨c, hc, -⟩ := h.box
    obtain ⟨hlt, -⟩ := Array.getElem?_eq_some_iff.mp hc
    exact absurd hsize (Nat.ne_of_gt hlt)

/-- Where any box may stand, the box that rests on a footing does not. -/
theorem Footing.ne_of_free {place : Nat} {b : Box} (hb : b.Sound)
    (h : ∀ b : Box, b.Sound → b.Sound ∧ (place = id → b.On f)) : place ≠ id := by
  intro hid
  have hnull := ((h _ (hb.change .null b.tracker)).2 hid).language
  have hellipsis := ((h _ (hb.change .ellipsis b.tracker)).2 hid).language
  rw [← hnull] at hellipsis
  cases hellipsis

/-- The world of a room rests, and so does the room, while names stay or new boxes get other names. -/
theorem Room.invariant_rests (name : String) (id : Nat) (f : Footing) :
    Room.Invariant (World.Rests id f) (Rests name id f) where
  world := fun h => h.world
  setWorld := fun h _ hw => ⟨hw, h.named, h.others⟩
  setNames := fun h _ _ _ _ => ⟨h.world, h.named, h.others⟩

/-- Whether a step may change what the box of a name answers from, or give the name away. -/
def Step.concerns (name : String) : Step → Bool
  | .newBox called _ _ | .cloneBox _ called | .addMessages called _ | .setLanguage called _ =>
    called == name
  | .applyDefaults c _ =>
    match c.messages with
    | .null => false
    | _ => true
  | .resetDefaults => true
  | _ => false

/-- A change without messages leaves the messages of the defaults as they are. -/
theorem Defaults.messages_apply_of_null {h : Heap} {d : Defaults} {c : DefaultsChange}
    (hc : c.messages = .null) {r : Defaults × List String} (hr : d.apply h c = .ok r) :
    r.1.messages = d.messages := by
  obtain ⟨_, _, hr⟩ := exists_of_bind_eq_ok hr
  obtain ⟨_, _, hr⟩ := exists_of_bind_eq_ok hr
  obtain ⟨_, _, hr⟩ := exists_of_bind_eq_ok hr
  obtain ⟨_, _, hr⟩ := exists_of_bind_eq_ok hr
  obtain ⟨messages, hmessages, hr⟩ := exists_of_bind_eq_ok hr
  cases hr
  rw [DefaultsChange.messages?, hc] at hmessages
  cases hmessages
  rfl

theorem DefaultsChange.respects_rests {c : DefaultsChange} (hc : c.messages = .null) :
    c.Respects (World.Rests id f) := fun _ _ _ hw hw' hr =>
  ⟨c.respects_sound _ _ _ hw.sound hw'.sound hr, hw'.bounds,
    (Defaults.messages_apply_of_null hc hr).trans hw.shared, hw'.box⟩

theorem Environment.messages_change {h : Heap} {start : String} {environ : Entries}
    {c : DefaultsChange} (hc : change h start environ = .ok c) : c.messages = .null := by
  obtain ⟨_, _, hc⟩ := exists_of_bind_eq_ok hc
  obtain ⟨_, _, hc⟩ := exists_of_bind_eq_ok hc
  obtain ⟨_, _, hc⟩ := exists_of_bind_eq_ok hc
  cases hc
  rfl

/-- A new name of another box does no harm. -/
theorem Room.Rests.cons (h : room.Rests name id f) {called : String} (hcalled : called ≠ name)
    {place : Nat} (hplace : place ≠ id) :
    Room.Rests name id f { room with boxes := (called, place) :: room.boxes } := by
  refine ⟨h.world, ?_, ?_⟩
  · rw [List.find?_cons_of_neg]
    · exact h.named
    · simpa using hcalled
  · intro e he hne
    rcases List.mem_cons.mp he with rfl | he
    · exact hplace
    · exact h.others e he hne

/-- **A step that does not concern a box leaves it on its footing.** -/
theorem Room.Rests.after (h : room.Rests name id f) {s : Step} (hs : s.concerns name = false) :
    (room.after s).Rests name id f := by
  obtain ⟨b, hid, -⟩ := h.world.box
  have hb : b.Sound := h.world.sound.boxes b (Array.mem_of_getElem? hid)
  have hother {called : String} (hcalled : (called == name) = false) : called ≠ name := by
    rintro rfl
    rw [beq_self_eq_true] at hcalled
    cases hcalled
  have hnamed {called : String} (hcalled : (called == name) = false) (room : Room) (place : Nat)
      (hroom : room.Rests name id f)
      (hfree : ∀ b : Box, b.Sound → b.Sound ∧ (place = id → b.On f)) :
      Room.Rests name id f { room with boxes := (called, place) :: room.boxes } :=
    hroom.cons (hother hcalled) (Footing.ne_of_free hb hfree)
  have hfound {called : String} (hcalled : (called == name) = false) (e : String × Nat)
      (he : room.cleared.boxes.find? (·.1 == called) = some e) (b : Box) (hb : b.Sound) :
      b.Sound ∧ (e.2 = id → b.On f) := by
    refine ⟨hb, fun hid => absurd hid ?_⟩
    have hname : e.1 = called := by simpa using List.find?_some he
    exact h.others e (List.mem_of_find?_eq_some he) (hname ▸ hother hcalled)
  refine Play.invariant_perform (World.invariant_rests id f) (Room.invariant_rests name id f)
    room.cleared ⟨(World.invariant_rests id f).noted h.world [] [], h.named, h.others⟩ ?_
  cases s with
  | applyDefaults c snapshot =>
    have hc : c.messages = .null := by
      unfold Step.concerns at hs
      dsimp only at hs
      split at hs
      · assumption
      · cases hs
    exact ⟨DefaultsChange.respects_rests hc, fun _ _ _ _ h => ⟨h.world, h.named, h.others⟩⟩
  | applyEnvironment start environ =>
    exact fun _ c _ hc => DefaultsChange.respects_rests (Environment.messages_change hc)
  | resetDefaults => cases hs
  | addMessages called messages =>
    exact fun e he b m hb hm => hfound hs e he { b with messages := m } ⟨hb.1.combined, hm⟩
  | setLanguage called language => exact hfound hs
  | newBox called options cache => exact hnamed hs
  | cloneBox original copy => exact hnamed hs
  | _ => trivial

theorem Room.Rests.setHeap (h : room.Rests name id f) (k : Heap) :
    (room.setHeap k).Rests name id f :=
  ⟨(World.invariant_rests id f).heap h.world k, h.named, h.others⟩

/-! ## What changes a footing -/

/-- A box takes another footing. -/
theorem World.Rests.setBox {w : World} (h : w.Rests id f) {b : Box} (hb : b.Sound) {g : Footing}
    (hon : b.On g) (hbounds : g.bounds = f.bounds) (hshared : g.shared = f.shared) :
    World.Rests id g { w with boxes := w.boxes.setIfInBounds id b } := by
  obtain ⟨c, hc, -⟩ := h.box
  obtain ⟨hlt, -⟩ := Array.getElem?_eq_some_iff.mp hc
  exact ⟨World.invariant_sound.setBox h.sound id hb, h.bounds.trans hbounds.symm,
    h.shared.trans hshared.symm, b, Array.getElem?_setIfInBounds_self_of_lt hlt, hon⟩

/-- Other defaults are laid below a box. -/
theorem World.Rests.setDefaults {w : World} (h : w.Rests id f) {d : Defaults}
    (hd : d.messages.Clean) (log : List LogEvent) :
    World.Rests id { f with shared := d.messages } { w with defaults := d, log := log } := by
  obtain ⟨b, hid, hon⟩ := h.box
  exact ⟨⟨h.sound.compiled, h.sound.boxes, hd⟩, h.bounds, rfl, b, hid, hon.language, hon.markers,
    hon.messages⟩

namespace Session

variable {w : World}

/-- A box gets another language. Gives the watches that have to run again. -/
def tell (id : Nat) (language : Value) : Session (List Nat) := do
  let b ← box id
  setBox id { b with language := language }
  match b.tracker with
  | .none => return []
  | .recording n m => do
    setBox id { b with language := language, tracker := .recording n (m + 1) }
    return []
  | .dependency d => do
    let watches := (← get).graph.dependentsOf d
    note (.dependencyChanged watches.length)
    return watches

theorem setLanguage_eq (id : Nat) (language : Value) :
    setLanguage id language = tell id language >>= rerunAll := by
  rw [setLanguage, tell, bind_assoc]
  refine bind_congr fun b => ?_
  rw [bind_assoc]
  refine bind_congr fun _ => ?_
  cases b.tracker with
  | none => rfl
  | recording n m => rfl
  | dependency d =>
    simp only [bind_assoc, pure_bind]

theorem rests_tell (h : w.Rests id f) (v : Value) :
    (outcome (tell id v) w).2.Rests id { f with language := v } := by
  have hP := World.invariant_rests id { f with language := v }
  obtain ⟨b, hid, hon⟩ := h.box
  have hb : b.Sound := h.sound.boxes b (Array.mem_of_getElem? hid)
  have hset : World.Rests id { f with language := v }
      { w with boxes := w.boxes.setIfInBounds id { b with language := v } } :=
    h.setBox (hb.change v b.tracker) ⟨rfl, hon.markers, hon.messages⟩ rfl rfl
  rw [tell, outcome_bind_of_ok (outcome_box hid), setBox, outcome_modify_bind]
  refine ((?_ : Keeps (World.Rests id { f with language := v }) _ fun _ => True) _ hset).1
  split
  · exact keeps_return _
  · exact Keeps.bind (Q := fun _ => True)
      (keeps_setBox hP.toUpheld ⟨hb.change v _, fun _ => ⟨rfl, hon.markers, hon.messages⟩⟩)
      fun _ _ => keeps_return _
  · exact keeps_get.bind fun _ _ => (keeps_note hP.toUpheld _).bind fun _ _ => keeps_return _

/-- The watches that run again leave the new language as it is. -/
theorem rests_setLanguage (h : w.Rests id f) (v : Value) :
    (outcome (setLanguage id v) w).2.Rests id { f with language := v } := by
  have htold := rests_tell h v
  rw [setLanguage_eq, outcome_bind]
  cases hout : outcome (tell id v) w with
  | mk x w' =>
    rw [hout] at htold
    cases x with
    | error e => exact htold
    | ok cs => exact (keeps_rerunAll (World.invariant_rests id _) cs w' htold).1

end Session

namespace Room.Rests

/-- What is done with the box of a name. -/
theorem after_of_find (h : room.Rests name id f) {s : Step} {m : Nat → Session Unit}
    (hs : Play.perform s = do
      let id ← Play.find (·.boxes) name
      Play.session (m id)
      Play.shown .done)
    {g : Footing} (hm : (outcome (m id) room.cleared.world).2.Rests id g) :
    (room.after s).Rests name id g := by
  have hfind : outcome (Play.find (·.boxes) name) room.cleared = (.ok id, room.cleared) :=
    Play.outcome_find_of_eq h.named
  rw [Room.after_eq, hs, outcome_bind_of_ok hfind, outcome_bind, Play.outcome_session]
  cases (outcome (m id) room.cleared.world).1 with
  | error e => exact ⟨hm, h.named, h.others⟩
  | ok u => exact ⟨hm, h.named, h.others⟩

theorem cleared (h : room.Rests name id f) : room.cleared.Rests name id f :=
  ⟨(World.invariant_rests id f).noted h.world [] [], h.named, h.others⟩

/-- **A box that is given another language says all else as before.** -/
theorem after_setLanguage (h : room.Rests name id f) (v : Value) :
    (room.after (.setLanguage name v)).Rests name id { f with language := v } :=
  h.after_of_find (by rw [Play.perform]) (Session.rests_setLanguage h.cleared.world v)

end Room.Rests

end Wording
