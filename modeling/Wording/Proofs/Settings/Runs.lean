import Wording.Proofs.Box.Sound
import Wording.Proofs.Catalog.Given
import Wording.Proofs.Paired.Play

/-!
# Defaults over whole sessions

A call that changes the defaults either fails and changes nothing, or supplies a language, markers
and messages. Over a whole session the defaults are what the successful calls since the last reset
have supplied: the last language and the last marker of each role, and all messages merged in turn.

* `Defaults.apply_eq`: one change, by what it supplies
* `Room.step_of_supply`: one call, whether it fails or not
* `defaults_of_run`: the defaults behind a session
-/

namespace Wording

open Pattern (Compiled)

/-! ## What calls supply -/

/-- What a call supplies to the defaults. -/
structure Supply where
  language : Option String
  marker : Role → Option Compiled
  messages : Catalog

def Value.text? : Value → Option String
  | .str s => some s
  | _ => none

/-- The marker that is made of an offer, if one is. -/
def MarkerOffer.made? (o : MarkerOffer) (r : Role) : Option Compiled :=
  (Marker.ofOffer r o).toOption.join

def DefaultsChange.offer (c : DefaultsChange) : Role → MarkerOffer
  | .escape => c.escape
  | .interpolate => c.interpolate
  | .evaluate => c.evaluate

def DefaultsChange.supply (h : Heap) (c : DefaultsChange) : Supply where
  language := c.language.text?
  marker r := (c.offer r).made? r
  messages := (Catalog.ofSource h c.messages).toOption.getD []

namespace Environment

/-- The text of a variable; an empty one counts as not set. -/
def text? (environ : Entries) (name : String) : Option String :=
  (value environ name).text?.filter (· != "")

def supply (start : String) (environ : Entries) : Supply where
  language := text? environ (start ++ "LANGUAGE")
  marker r := (text? environ (roleVariable start r)).bind fun s => (MarkerOffer.source s).made? r
  messages := []

end Environment

/-- What a step supplies to the defaults if it does not fail, if it is a call that may do so. -/
def Step.supply? (h : Heap) : Step → Option Supply
  | .applyDefaults c _ => some (c.supply h)
  | .applyEnvironment start environ => some (Environment.supply start environ)
  | _ => none

/-! ### Changes -/

namespace DefaultsChange

variable {h : Heap} {c : DefaultsChange}

theorem language?_eq {language : Option String} (hc : c.language? = .ok language) :
    language = c.language.text? := by
  unfold language? at hc
  cases hl : c.language <;> rw [hl] at hc <;> cases hc <;> rfl

theorem marker?_eq {r : Role} {o : MarkerOffer} {p : Option Compiled} (ho : marker? r o = .ok p) :
    p = o.made? r := by
  unfold marker? at ho
  unfold MarkerOffer.made?
  cases hp : Marker.ofOffer r o with
  | error e =>
    rw [hp] at ho
    cases ho
  | ok q =>
    rw [hp] at ho
    cases ho
    rfl

/-- Messages that count as false are not merged. -/
theorem messages?_eq {messages : Option Catalog} (hc : c.messages? h = .ok messages) :
    messages = Option.none ∧ (c.supply h).messages = [] ∨ messages = some (c.supply h).messages := by
  unfold messages? at hc
  unfold supply
  by_cases ht : h.truthy c.messages = true
  · rw [if_pos ht] at hc
    cases hs : Catalog.ofSource h c.messages with
    | error f =>
      rw [hs] at hc
      cases hc
    | ok source =>
      rw [hs] at hc
      cases hc
      exact .inr rfl
  · rw [if_neg ht] at hc
    cases hc
    have hs : Catalog.ofSource h c.messages = .ok [] := if_neg ht
    rw [hs]
    exact .inl ⟨rfl, rfl⟩

end DefaultsChange

/-- Defaults over which a supply has been laid: its messages are merged, all else replaces what was
there. -/
def Defaults.supplied (d : Defaults) (u : Supply) : Defaults where
  language := u.language.or d.language
  escape := (u.marker .escape).or d.escape
  interpolate := (u.marker .interpolate).or d.interpolate
  evaluate := (u.marker .evaluate).or d.evaluate
  messages := Catalog.mergeAll [] [d.messages, u.messages]

/-- **A change that can be made lays what it supplies over the defaults.** -/
theorem Defaults.apply_eq {h : Heap} {d : Defaults} (hd : d.messages.Clean) {c : DefaultsChange}
    {r : Defaults × List String} (hr : d.apply h c = .ok r) : r.1 = d.supplied (c.supply h) := by
  obtain ⟨language, hlanguage, hr⟩ := exists_of_bind_eq_ok hr
  obtain ⟨escape, hescape, hr⟩ := exists_of_bind_eq_ok hr
  obtain ⟨interpolate, hinterpolate, hr⟩ := exists_of_bind_eq_ok hr
  obtain ⟨evaluate, hevaluate, hr⟩ := exists_of_bind_eq_ok hr
  obtain ⟨messages, hmessages, hr⟩ := exists_of_bind_eq_ok hr
  cases hr
  obtain rfl := DefaultsChange.language?_eq hlanguage
  obtain rfl := DefaultsChange.marker?_eq hescape
  obtain rfl := DefaultsChange.marker?_eq hinterpolate
  obtain rfl := DefaultsChange.marker?_eq hevaluate
  rw [supplied, Defaults.mk.injEq]
  refine ⟨rfl, rfl, rfl, rfl, ?_⟩
  obtain ⟨rfl, hnone⟩ | rfl := DefaultsChange.messages?_eq hmessages
  · rw [hnone, Catalog.mergeAll, List.foldl_cons, Catalog.merge_nil hd, List.foldl_cons,
      List.foldl_nil, Catalog.merge]
  · rfl

/-! ### The environment -/

/-- A marker that has been accepted is accepted as it is. -/
theorem Marker.ofOffer_ofPattern? {r : Role} {o : MarkerOffer} {p : Option Compiled}
    (h : ofOffer r o = .ok p) : ofOffer r (.ofPattern? p) = .ok p := by
  have haccept {c d : Compiled} (hc : accept r c = .ok d) : accept r d = .ok d := by
    have hc' := hc
    unfold accept at hc
    split at hc
    · cases hc
    · split at hc
      · cases hc
      · cases hc
        exact hc'
  have hofPattern {c d : Compiled} (hc : accept r c = .ok d) :
      ofOffer r (.ofPattern? (some d)) = .ok (some d) := by
    show (accept r d >>= fun d => pure (some d)) = _
    rw [haccept hc]
    rfl
  cases o with
  | absent =>
    cases h
    rfl
  | source s =>
    obtain ⟨c, -, h⟩ := exists_of_bind_eq_ok h
    obtain ⟨d, hd, h⟩ := exists_of_bind_eq_ok h
    cases h
    exact hofPattern hd
  | pattern c =>
    obtain ⟨d, hd, h⟩ := exists_of_bind_eq_ok h
    cases h
    exact hofPattern hd
  | unsuitable kind truthy => cases h

namespace Environment

variable {h : Heap} {start : String} {environ : Entries}

theorem made?_of_marker {r : Role} {o : MarkerOffer} (ho : marker h start environ r = .ok o) :
    o.made? r = (text? environ (roleVariable start r)).bind
      fun s => (MarkerOffer.source s).made? r := by
  unfold marker at ho
  unfold text?
  generalize value environ (roleVariable start r) = v at ho
  dsimp only at ho
  -- What is not a text is refused, or counts as not set.
  have hunsuitable (kind : String) (truthy : Bool) : Marker.ofOffer r (.unsuitable kind truthy) =
      .error (.unsuitable r kind) := rfl
  split at ho
  · next hgiven =>
    cases v with
    | str s =>
      have hs : (some s).filter (· != "") = some s := by
        rw [Option.filter_some, if_pos]
        exact hgiven
      change o.made? r = ((some s).filter (· != "")).bind _
      rw [hs]
      have hoffer : offerOf h (.str s) = .source s := rfl
      rw [hoffer] at ho
      show (Marker.ofOffer r o).toOption.join = (Marker.ofOffer r (.source s)).toOption.join
      cases hp : Marker.ofOffer r (.source s) with
      | error e =>
        rw [hp] at ho
        cases ho
      | ok p =>
        rw [hp] at ho
        cases ho
        rw [Marker.ofOffer_ofPattern? hp]
    | null => cases hgiven
    | _ => cases ho
  · next hgiven =>
    cases ho
    cases v with
    | str s =>
      have hs : (some s).filter (· != "") = none := by
        rw [Option.filter_some, if_neg]
        exact hgiven
      change none = ((some s).filter (· != "")).bind _
      rw [hs]
      rfl
    | _ => rfl

/-- **What the environment changes is what its variables supply.** -/
theorem supply_of_change {c : DefaultsChange} (hc : change h start environ = .ok c) :
    c.supply h = supply start environ := by
  obtain ⟨escape, hescape, hc⟩ := exists_of_bind_eq_ok hc
  obtain ⟨interpolate, hinterpolate, hc⟩ := exists_of_bind_eq_ok hc
  obtain ⟨evaluate, hevaluate, hc⟩ := exists_of_bind_eq_ok hc
  cases hc
  unfold DefaultsChange.supply supply
  rw [Supply.mk.injEq]
  refine ⟨?_, ?_, rfl⟩
  · show Value.text? (if h.truthy _ then _ else .null) = _
    unfold text?
    generalize value environ (start ++ "LANGUAGE") = v
    cases v with
    | str s =>
      show Value.text? (if (s != "") = true then .str s else .null) = (some s).filter (· != "")
      rw [Option.filter_some]
      split <;> rfl
    | _ => split <;> rfl
  · funext r
    cases r with
    | escape => exact made?_of_marker hescape
    | interpolate => exact made?_of_marker hinterpolate
    | evaluate => exact made?_of_marker hevaluate

end Environment

/-! ## Calls -/

namespace Session

/-- A call that cannot be made changes nothing. -/
theorem outcome_applyDefaults_of_error {w : World} {c : DefaultsChange} {e : Error}
    (h : w.defaults.apply w.heap c = .error e) :
    outcome (applyDefaults c) w = (.error e, w) := by
  rw [applyDefaults, outcome_get_bind, h]
  rfl

theorem exists_outcome_applyDefaults {w : World} {c : DefaultsChange}
    {r : Defaults × List String} (h : w.defaults.apply w.heap c = .ok r) :
    ∃ log, outcome (applyDefaults c) w = (.ok r.1, { w with defaults := r.1, log := log }) := by
  obtain ⟨d, changed⟩ := r
  rw [applyDefaults, outcome_get_bind, h]
  cases changed with
  | nil => exact ⟨w.log, rfl⟩
  | cons name names => exact ⟨_, rfl⟩

end Session

namespace Play

theorem exists_outcome_shownDefaults (d : Defaults) (room : Room) :
    ∃ heap v, outcome (shownDefaults d) room = (.ok ⟨heap, .defaults d v⟩, room.setHeap heap) := by
  obtain ⟨v, heap, hv⟩ := Catalog.exists_outcome_toDict d.messages room.world.heap
  have hgiven : outcome (session (Session.eval d.messages.toDict)) room =
      (.ok v, room.setHeap heap) := by
    have hrun : d.messages.toDict.run room.world.heap = (.ok v, heap) := hv
    rw [outcome_session, Session.outcome_eval, hrun]
    rfl
  exact ⟨heap, v, outcome_bind_of_ok hgiven⟩

/-- Defaults get a name, if there is one, and are shown. -/
def shownAs (snapshot : Option String) (d : Defaults) : Play Shown := do
  if let some name := snapshot then
    modify fun room => { room with snapshots := (name, d) :: room.snapshots }
  shownDefaults d

theorem perform_applyDefaults (c : DefaultsChange) (snapshot : Option String) :
    perform (.applyDefaults c snapshot) = session (Session.applyDefaults c) >>= shownAs snapshot := by
  rw [perform]
  rfl

theorem perform_applyEnvironment (start : String) (environ : Entries) :
    perform (.applyEnvironment start environ) =
      session (Session.applyEnvironment start environ) >>= shownAs none := by
  rw [perform]
  rfl

theorem perform_resetDefaults :
    perform .resetDefaults = session Session.resetDefaults >>= shownAs none := by
  rw [perform]
  rfl

end Play

/-! ## Steps -/

/-- A step that has failed, and has left the defaults as they were. -/
structure Room.Refuses (room : Room) (s : Step) : Prop where
  failed : ∃ e, (room.report s).result = .error e
  defaults : (room.after s).world.defaults = room.world.defaults
  snapshots : (room.after s).snapshots = room.snapshots

/-- A step that has shown the defaults `d`, which are those from now on. -/
structure Room.Brings (room : Room) (s : Step) (d : Defaults) : Prop where
  shown : ∃ heap v, (room.report s).result = .ok ⟨heap, .defaults d v⟩
  defaults : (room.after s).world.defaults = d
  snapshots : (room.after s).snapshots = room.snapshots ∨
    ∃ name, (room.after s).snapshots = (name, d) :: room.snapshots

namespace Room

variable {room : Room} {s : Step} {m : Session Defaults} {snapshot : Option String}

theorem outcome_of_error (hs : Play.perform s = Play.session m >>= Play.shownAs snapshot) {e : Error}
    (hm : outcome m room.cleared.world = (.error e, room.cleared.world)) :
    outcome (Play.perform s) room.cleared = (.error (.error e), room.cleared) := by
  rw [hs]
  refine outcome_bind_of_error ?_
  rw [Play.outcome_session, hm]
  rfl

theorem outcome_of_ok (hs : Play.perform s = Play.session m >>= Play.shownAs snapshot) {d : Defaults}
    {log : List LogEvent} (hm : outcome m room.cleared.world =
      (.ok d, { room.cleared.world with defaults := d, log := log })) :
    outcome (Play.perform s) room.cleared = outcome (Play.shownAs snapshot d)
      { room.cleared with world := { room.cleared.world with defaults := d, log := log } } := by
  rw [hs]
  refine outcome_bind_of_ok ?_
  rw [Play.outcome_session, hm]
  rfl

theorem refuses_of_error (hs : Play.perform s = Play.session m >>= Play.shownAs snapshot) {e : Error}
    (hm : outcome m room.cleared.world = (.error e, room.cleared.world)) : room.Refuses s := by
  have hout := outcome_of_error hs hm
  refine ⟨⟨.error e, ?_⟩, ?_, ?_⟩
  · rw [report_eq, hout]
  · rw [after_eq, hout]
    rfl
  · rw [after_eq, hout]
    rfl

theorem brings_of_ok (hs : Play.perform s = Play.session m >>= Play.shownAs snapshot) {d : Defaults}
    {log : List LogEvent} (hm : outcome m room.cleared.world =
      (.ok d, { room.cleared.world with defaults := d, log := log })) : room.Brings s d := by
  have hout := outcome_of_ok hs hm
  cases snapshot with
  | none =>
    obtain ⟨heap, v, hshown⟩ := Play.exists_outcome_shownDefaults d
      { room.cleared with world := { room.cleared.world with defaults := d, log := log } }
    have hall := hout.trans hshown
    refine ⟨⟨heap, v, ?_⟩, ?_, .inl ?_⟩
    · rw [report_eq, hall]
    · rw [after_eq, hall]
      rfl
    · rw [after_eq, hall]
      rfl
  | some name =>
    obtain ⟨heap, v, hshown⟩ := Play.exists_outcome_shownDefaults d
      { room.cleared with
        world := { room.cleared.world with defaults := d, log := log }
        snapshots := (name, d) :: room.cleared.snapshots }
    have hall := hout.trans hshown
    refine ⟨⟨heap, v, ?_⟩, ?_, .inr ⟨name, ?_⟩⟩
    · rw [report_eq, hall]
    · rw [after_eq, hall]
      rfl
    · rw [after_eq, hall]
      rfl

/-- A change that can be made gives the defaults from now on. -/
theorem brings_of_apply {c : DefaultsChange} {r : Defaults × List String}
    (hr : room.world.defaults.apply room.world.heap c = .ok r) (snapshot : Option String) :
    room.Brings (.applyDefaults c snapshot) r.1 := by
  obtain ⟨log, hm⟩ := Session.exists_outcome_applyDefaults (w := room.cleared.world) hr
  exact brings_of_ok (Play.perform_applyDefaults c snapshot) hm

/-- **A call that may supply something fails and changes nothing, or lays it over the defaults.** -/
theorem step_of_supply (hroom : room.world.defaults.messages.Clean) {u : Supply}
    (hu : s.supply? room.world.heap = some u) :
    room.Refuses s ∨ room.Brings s (room.world.defaults.supplied u) := by
  cases s with
  | applyDefaults c snapshot =>
    obtain rfl := Option.some.inj hu
    cases hr : room.world.defaults.apply room.world.heap c with
    | error e =>
      exact .inl (refuses_of_error (Play.perform_applyDefaults c snapshot)
        (Session.outcome_applyDefaults_of_error hr))
    | ok r =>
      rw [← Defaults.apply_eq hroom hr]
      exact .inr (brings_of_apply hr snapshot)
  | applyEnvironment start environ =>
    obtain rfl := Option.some.inj hu
    have hs := Play.perform_applyEnvironment start environ
    cases hc : Environment.change room.world.heap start environ with
    | error e =>
      refine .inl (refuses_of_error (e := e) hs ?_)
      rw [Session.applyEnvironment, outcome_get_bind,
        show Environment.change room.cleared.world.heap start environ = _ from hc]
      rfl
    | ok c =>
      -- The variables ask for a change, and this is made like any other.
      have hm : outcome (Session.applyEnvironment start environ) room.cleared.world =
          outcome (Session.applyDefaults c) room.cleared.world := by
        rw [Session.applyEnvironment, outcome_get_bind,
          show Environment.change room.cleared.world.heap start environ = _ from hc]
        rfl
      rw [← Environment.supply_of_change hc]
      cases hr : room.world.defaults.apply room.world.heap c with
      | error e =>
        exact .inl (refuses_of_error hs (hm.trans (Session.outcome_applyDefaults_of_error hr)))
      | ok r =>
        obtain ⟨log, hmade⟩ := Session.exists_outcome_applyDefaults (w := room.cleared.world) hr
        rw [← Defaults.apply_eq hroom hr]
        exact .inr (brings_of_ok hs (hm.trans hmade))
  | _ => cases hu

/-- A reset shows empty defaults. -/
theorem brings_resetDefaults (room : Room) : room.Brings .resetDefaults .empty := by
  have hm : outcome Session.resetDefaults room.cleared.world = (.ok .empty,
      { room.cleared.world with defaults := .empty, log := room.cleared.world.log }) := rfl
  exact brings_of_ok Play.perform_resetDefaults hm

end Room

/-- Worlds with the defaults `d` stay so while nobody changes them. -/
theorem World.invariant_defaults (d : Defaults) :
    Invariant (fun w => w.Sound ∧ w.defaults = d) fun _ b => b.Sound :=
  World.invariant_sound_and fun h hdefaults _ => hdefaults.trans h

/-- **All other steps leave the defaults, and what has been shown of them, as they are.** -/
theorem Room.after_of_no_supply {room : Room} (hroom : room.world.Sound) {s : Step}
    (hs : s.supply? room.world.heap = none) (hreset : s ≠ .resetDefaults) :
    (room.after s).world.defaults = room.world.defaults ∧
      (room.after s).snapshots = room.snapshots := by
  have hinvariant : Room.Invariant (fun w => w.Sound ∧ w.defaults = room.world.defaults)
      fun r => (r.world.Sound ∧ r.world.defaults = room.world.defaults) ∧
        r.snapshots = room.snapshots :=
    ⟨fun h => h.1, fun h _ hw => ⟨hw, h.2⟩, fun h _ _ _ _ => h⟩
  have hrespects : s.Respects (fun w => w.Sound ∧ w.defaults = room.world.defaults)
      (fun _ b => b.Sound) (fun r => (r.world.Sound ∧ r.world.defaults = room.world.defaults) ∧
        r.snapshots = room.snapshots) room.cleared := by
    cases s with
    | applyDefaults c snapshot => cases hs
    | applyEnvironment start environ => cases hs
    | resetDefaults => exact absurd rfl hreset
    | addMessages name messages => exact fun _ _ _ _ hb hm => ⟨hb.combined, hm⟩
    | setLanguage name language => exact fun _ _ _ hb => hb
    | newBox name options cache => exact fun _ _ h _ => h
    | cloneBox name copy => exact fun _ _ h _ => h
    | _ => trivial
  have hafter := Play.invariant_perform (World.invariant_defaults room.world.defaults) hinvariant
    room.cleared ⟨⟨World.invariant_sound.noted hroom [] [], rfl⟩, rfl⟩ hrespects
  rw [← Room.after_eq] at hafter
  exact ⟨hafter.1.2, hafter.2⟩

/-! ## Sessions -/

/-- The room behind a session. Values may change in any way before each step. -/
def Room.plays (room : Room) : List (Heap × Step) → Room
  | [] => room
  | (heap, s) :: rest => ((room.setHeap heap).after s).plays rest

/-- What successful calls have supplied since the last reset, behind a step. -/
def Room.supplies (room : Room) (s : Step) (before : List Supply) : List Supply :=
  match s with
  | .resetDefaults => []
  | s =>
    if (room.report s).result.isOk then before ++ (s.supply? room.world.heap).toList else before

/-- What successful calls have supplied since the last reset, behind a session. -/
def Room.suppliesOf (room : Room) (before : List Supply) : List (Heap × Step) → List Supply
  | [] => before
  | (heap, s) :: rest =>
    ((room.setHeap heap).after s).suppliesOf ((room.setHeap heap).supplies s before) rest

def Defaults.marker (d : Defaults) : Role → Option Compiled
  | .escape => d.escape
  | .interpolate => d.interpolate
  | .evaluate => d.evaluate

/-- The defaults are what has been supplied: the last language, the last marker of each role, and
all messages, merged in turn. -/
structure Defaults.Hold (d : Defaults) (given : List Supply) : Prop where
  language : d.language = (given.filterMap (·.language)).getLast?
  marker : ∀ r, d.marker r = (given.filterMap (·.marker r)).getLast?
  messages : d.messages = Catalog.mergeAll [] (given.map (·.messages))

namespace Defaults

theorem hold_empty : empty.Hold [] := ⟨rfl, fun r => by cases r <;> rfl, rfl⟩

theorem marker_supplied (d : Defaults) (u : Supply) (r : Role) :
    (d.supplied u).marker r = (u.marker r).or (d.marker r) := by cases r <;> rfl

/-- The last of all that is supplied is the last of the new ones, or else of the old ones. -/
theorem getLast?_supplied {α : Type} (given : List Supply) (u : Supply) (f : Supply → Option α) :
    ((given ++ [u]).filterMap f).getLast? = (f u).or (given.filterMap f).getLast? := by
  rw [List.filterMap_append, List.filterMap_cons, List.filterMap_nil, List.getLast?_append]
  cases f u <;> rfl

/-- **A supply more is laid over the defaults.** -/
theorem Hold.supplied {d : Defaults} {given : List Supply} (h : d.Hold given) (u : Supply) :
    (d.supplied u).Hold (given ++ [u]) where
  language := by
    rw [getLast?_supplied, ← h.language]
    rfl
  marker r := by rw [getLast?_supplied, ← h.marker, marker_supplied]
  messages := by
    have hclean : d.messages.Clean := h.messages ▸ Catalog.clean_mergeAll _
    calc Catalog.mergeAll [] [d.messages, u.messages]
        = Catalog.merge (Catalog.merge [] d.messages) u.messages := rfl
      _ = Catalog.merge (Catalog.mergeAll [] (given.map (·.messages))) u.messages := by
          rw [Catalog.merge_nil hclean, h.messages]
      _ = Catalog.mergeAll [] ((given ++ [u]).map (·.messages)) := by
          rw [List.map_append, Catalog.mergeAll, Catalog.mergeAll, List.foldl_append]
          rfl

end Defaults

/-- Behind each step the defaults are what has been supplied up to it. -/
theorem Room.hold_after {room : Room} (hroom : room.world.Sound) {given : List Supply}
    (h : room.world.defaults.Hold given) (s : Step) :
    (room.after s).world.defaults.Hold (room.supplies s given) := by
  by_cases hreset : s = .resetDefaults
  · subst hreset
    rw [(brings_resetDefaults room).defaults]
    exact Defaults.hold_empty
  · have hsupplies : room.supplies s given = if (room.report s).result.isOk then
        given ++ (s.supply? room.world.heap).toList else given := by
      cases s <;> first | exact absurd rfl hreset | rfl
    rw [hsupplies]
    cases hu : s.supply? room.world.heap with
    | none =>
      rw [(after_of_no_supply hroom hu hreset).1, Option.toList_none, List.append_nil, ite_self]
      exact h
    | some u =>
      obtain hrefused | hbrought := step_of_supply hroom.shared hu
      · obtain ⟨e, he⟩ := hrefused.failed
        rw [hrefused.defaults, he]
        exact h
      · obtain ⟨heap, v, hv⟩ := hbrought.shown
        rw [hbrought.defaults, hv]
        exact h.supplied u

theorem Played.after {room : Room} (h : Played room) (heap : Heap) (s : Step) :
    Played ((room.setHeap heap).after s) := .attempt s (.change heap h)

theorem Room.hold_plays {room : Room} (hroom : Played room) {given : List Supply}
    (h : room.world.defaults.Hold given) (session : List (Heap × Step)) :
    Played (room.plays session) ∧
      (room.plays session).world.defaults.Hold (room.suppliesOf given session) := by
  induction session generalizing room given with
  | nil => exact ⟨hroom, h⟩
  | cons e session ih =>
    have hsound : (room.setHeap e.1).world.Sound := sound_of_played (.change e.1 hroom)
    exact ih (hroom.after e.1 e.2) (hold_after hsound h e.2)

/-- What a step does to the defaults: it fails and leaves them as they were; or it shows the defaults
that are there from now on; or it is none of the calls that change them. In no case does it change
what has been shown of them before. -/
inductive Room.TreatsDefaults (room : Room) (s : Step) : Prop
  | refuses (h : room.Refuses s)
  | brings (d : Defaults) (h : room.Brings s d)
  | leaves (hs : s.supply? room.world.heap = none) (hreset : s ≠ .resetDefaults)
      (h : (room.after s).world.defaults = room.world.defaults)
      (hsnapshots : (room.after s).snapshots = room.snapshots)

/-- **The defaults behind a session are what its successful calls have supplied since the last
reset**: the last language, the last marker of each role, and all messages, merged in turn, the order
of the keys included. A call that fails leaves them exactly as they were, and no call changes what has
been shown before. -/
theorem defaults_of_run (b : Bounds) (session : List (Heap × Step)) :
    ((Room.start b).plays session).world.defaults.Hold
        ((Room.start b).suppliesOf [] session) ∧
      ∀ heap s, (((Room.start b).plays session).setHeap heap).TreatsDefaults s := by
  obtain ⟨hplayed, hhold⟩ := Room.hold_plays (.start b) Defaults.hold_empty session
  refine ⟨hhold, fun heap s => ?_⟩
  have hsound : (Room.setHeap _ heap).world.Sound := sound_of_played (.change heap hplayed)
  by_cases hreset : s = .resetDefaults
  · subst hreset
    exact .brings _ (Room.brings_resetDefaults _)
  · cases hu : s.supply? heap with
    | none =>
      have hafter := Room.after_of_no_supply hsound hu hreset
      exact .leaves hu hreset hafter.1 hafter.2
    | some u =>
      exact (Room.step_of_supply hsound.shared hu).elim .refuses
        (.brings _)

end Wording
