import Wording.Proofs.Box.Sound
import Wording.Proofs.Box.Twins
import Wording.Proofs.Catalog.Given

/-!
# Clones

A clone is made like a new box without markers and messages, and then takes over those of the
original. So whether it can be made depends on the markers of the defaults, though it does not use
them; and a language that counts as false is replaced by that of the defaults. In all else a clone is
as the original: it has the same markers, messages and cache and a tracker of the same kind, and where
both are about the same language they have the same messages and answer alike.

* `Session.exists_outcome_cloneBox`: what a clone is like
* `clone_faithful`: clones of boxes in sessions
-/

namespace Wording

/-! ## What new boxes take from the defaults -/

namespace Defaults

/-- The markers of a box that is made without markers. -/
def markers (d : Defaults) : Except MarkerError Markers :=
  Markers.ofOffers ((d.offer .escape).orElse Marker.doubleBraces)
    ((d.offer .interpolate).orElse Marker.tripleBraces) (d.offer .evaluate)

/-- The language of a box that is made with none, or with one that counts as false. -/
def ownLanguage (d : Defaults) : String :=
  match d.language with
  | some s => if s.isEmpty then fallbackLanguage else s
  | none => fallbackLanguage

/-- The language of a box that is made with a language. -/
def languageFor (d : Defaults) (h : Heap) (language : Value) : Value :=
  if h.truthy language then language else .str d.ownLanguage

end Defaults

/-- A clone: as the original but for its tracker, which is of the same kind, and for a language that
counts as false. -/
structure Box.CloneOf (d : Defaults) (h : Heap) (b c : Box) : Prop where
  language : c.language = d.languageFor h b.language
  markers : c.markers = b.markers
  messages : c.messages = b.messages
  tracker : c.tracker.kind = b.tracker.kind
  cache : c.cache = b.cache

namespace Session

variable {w : World}

theorem outcome_initialLanguage (language : Value) (w : World) :
    outcome (initialLanguage language) w =
      (.ok (w.defaults.languageFor w.heap language), w) := by
  have htruthy : outcome (truthy language) w = (.ok (w.heap.truthy language), w) := rfl
  rw [initialLanguage, outcome_bind_of_ok htruthy, Defaults.languageFor, Defaults.ownLanguage]
  cases w.heap.truthy language with
  | true => rfl
  | false =>
    rw [if_neg Bool.false_ne_true, if_neg Bool.false_ne_true, outcome_get_bind]
    cases w.defaults.language <;> rfl

theorem exists_outcome_newTracker (k : TrackerKind) (w : World) :
    ∃ t g, outcome (newTracker k) w = (.ok t, { w with graph := g }) ∧ t.kind = k := by
  cases k with
  | none => exact ⟨.none, w.graph, rfl, rfl⟩
  | dependency => exact ⟨_, _, rfl, rfl⟩
  | recording => exact ⟨.recording 0 0, w.graph, rfl, rfl⟩

/-- A box is made of nothing but what the defaults give, a language, a kind of tracker and a cache. -/
theorem outcome_makeBox_of_error {e : MarkerError} (he : w.defaults.markers = .error e)
    (language : Value) (k : TrackerKind) (cache : Option Nat) :
    outcome (makeBox ⟨.absent, .absent, .absent, language, .null, k, cache⟩) w =
      (.error (.marker e), w) := by
  rw [makeBox, outcome_get_bind, outcome_bind_of_ok (outcome_initialLanguage language w)]
  dsimp only
  unfold Defaults.markers at he
  split
  · next m hm =>
    have hok : w.defaults.markers = .ok m := hm
    rw [Defaults.markers, he] at hok
    cases hok
  · next e' he' =>
    have herror : w.defaults.markers = .error e' := he'
    rw [Defaults.markers, he] at herror
    cases herror
    rfl

theorem exists_outcome_makeBox {m : Markers} (hm : w.defaults.markers = .ok m) (language : Value)
    (k : TrackerKind) (cache : Option Nat) :
    ∃ t g, outcome (makeBox ⟨.absent, .absent, .absent, language, .null, k, cache⟩) w =
      (.ok ⟨w.defaults.languageFor w.heap language, m, [], t, cache⟩, { w with graph := g }) ∧
        t.kind = k := by
  obtain ⟨t, g, htracker, hkind⟩ := exists_outcome_newTracker k w
  refine ⟨t, g, ?_, hkind⟩
  have hstore : outcome (newStore .null) w = (.ok [], w) := by
    have hnull : Catalog.ofSource w.heap .null = .ok [] := rfl
    rw [newStore, outcome_bind_of_ok (outcome_reading hnull), outcome_pure, Catalog.merge]
  rw [makeBox, outcome_get_bind, outcome_bind_of_ok (outcome_initialLanguage language w)]
  dsimp only
  unfold Defaults.markers at hm
  split
  · next m' hm' =>
    have hok : w.defaults.markers = .ok m' := hm'
    rw [Defaults.markers, hm] at hok
    cases hok
    rw [outcome_bind_of_ok (outcome_pure m w), outcome_bind_of_ok hstore,
      outcome_bind_of_ok htracker]
    rfl
  · next e he =>
    have herror : w.defaults.markers = .error e := he
    rw [Defaults.markers, hm] at herror
    cases herror

/-- **A box that is made from the defaults stands behind all others.** -/
theorem exists_outcome_newBox {m : Markers} (hm : w.defaults.markers = .ok m) (language : Value)
    (k : TrackerKind) (cache : Option Nat) :
    ∃ t g, outcome (newBox ⟨.absent, .absent, .absent, language, .null, k, cache⟩) w =
      (.ok w.boxes.size, { w with
        graph := g
        boxes := w.boxes.push
          ⟨w.defaults.languageFor w.heap language, m, [], t, cache⟩ }) ∧ t.kind = k := by
  obtain ⟨t, g, hmake, hkind⟩ := exists_outcome_makeBox hm language k cache
  refine ⟨t, g, ?_, hkind⟩
  rw [newBox, outcome_bind_of_ok hmake, addBox, outcome_get_bind]
  rfl

/-! ## Clones -/

variable {id : Nat} {b : Box}

/-- Whose defaults have markers that do not go together makes no clones. -/
theorem outcome_cloneBox_of_error (hb : w.boxes[id]? = some b) {e : MarkerError}
    (he : w.defaults.markers = .error e) :
    outcome (cloneBox id) w = (.error (.marker e), w) := by
  rw [cloneBox, outcome_bind_of_ok (outcome_box hb)]
  exact outcome_bind_of_error (outcome_makeBox_of_error he _ _ _)

/-- **A clone stands behind all other boxes, and has all that the original has.** -/
theorem exists_outcome_cloneBox (hb : w.boxes[id]? = some b) (hclean : b.messages.Clean)
    {m : Markers} (hm : w.defaults.markers = .ok m) :
    ∃ c g, outcome (cloneBox id) w =
      (.ok w.boxes.size, { w with graph := g, boxes := w.boxes.push c }) ∧
        b.CloneOf w.defaults w.heap c := by
  obtain ⟨t, g, hmake, hkind⟩ := exists_outcome_makeBox hm b.language b.tracker.kind b.cache
  refine ⟨⟨w.defaults.languageFor w.heap b.language, b.markers, b.messages, t, b.cache⟩, g, ?_,
    ⟨rfl, rfl, rfl, hkind, rfl⟩⟩
  rw [cloneBox, outcome_bind_of_ok (outcome_box hb), outcome_bind_of_ok hmake, addBox,
    outcome_get_bind, Catalog.merge_nil hclean]
  rfl

end Session

/-! ## Sessions -/

namespace Play

variable {room : Room} {b : Box}

theorem exists_outcome_shownBox {id : Nat} (hb : room.world.boxes[id]? = some b) :
    ∃ heap view, outcome (shownBox id) room = (.ok ⟨heap, .box view⟩, room.setHeap heap) := by
  obtain ⟨v, heap, hv⟩ := Catalog.exists_outcome_toDict b.messages room.world.heap
  have hrun : b.messages.toDict.run room.world.heap = (.ok v, heap) := hv
  have hstore : outcome (Session.eval b.messages.toDict) room.world =
      (.ok v, { room.world with heap := heap }) := by
    rw [Session.outcome_eval, hrun]
    rfl
  obtain ⟨view, hview⟩ : ∃ view, outcome (boxView id) room.world =
      (.ok view, { room.world with heap := heap }) := by
    rw [boxView, outcome_bind_of_ok (Session.outcome_box hb), outcome_bind_of_ok hstore,
      outcome_get_bind]
    exact ⟨_, rfl⟩
  have hsession : outcome (session (boxView id)) room = (.ok view, room.setHeap heap) := by
    rw [outcome_session, hview]
    rfl
  exact ⟨heap, view, outcome_bind_of_ok hsession⟩

end Play

/-- Boxes of a room are twins by their names. -/
theorem Room.twins {room : Room} (hroom : room.world.Sound) {name copy : String} {b c : Box}
    {language : Value} (hb : room.box? name = some b) (hc : room.box? copy = some c)
    (hbc : b.Twin language c) : room.Twins language name copy room := by
  obtain ⟨e, hname, hid⟩ := Option.bind_eq_some_iff.mp hb
  obtain ⟨e', hname', hid'⟩ := Option.bind_eq_some_iff.mp hc
  refine ⟨e, e', hname, hname', rfl, rfl, rfl, ?_, hroom.compiled, hroom.compiled⟩
  rw [hid, hid']
  exact .some hbc

/-! ### Clones by name -/

/-- A clone is about the language of the original where this counts as true, or where another one is
asked for. -/
theorem Box.CloneOf.twin {d : Defaults} {h : Heap} {b c : Box} (hc : b.CloneOf d h c)
    (hb : b.markers.Combined) {language : Value}
    (hl : h.truthy b.language = true ∨ language ≠ .null) : b.Twin language c := by
  refine ⟨?_, hc.markers.symm, hb, hc.messages.symm⟩
  cases language with
  | null =>
    obtain htruthy | hnull := hl
    · show b.language = c.language
      rw [hc.language, Defaults.languageFor, if_pos htruthy]
    · exact absurd rfl hnull
  | _ => rfl

/-- A room with a box more, of a name. -/
def Room.pushBox (room : Room) (name : String) (c : Box) (g : Graph Watch) : Room :=
  { room with
    world := { room.world with graph := g, boxes := room.world.boxes.push c }
    boxes := (name, room.world.boxes.size) :: room.boxes }

namespace Play

variable {room : Room} {id : Nat} {b : Box}

/-- A box is made, gets its name and is shown. -/
def placed (name : String) (made : Session Nat) : Play Shown := do
  let id ← session made
  modify fun room => { room with boxes := (name, id) :: room.boxes }
  shownBox id

theorem perform_cloneBox (name copy : String) : perform (.cloneBox name copy) =
    find (·.boxes) name >>= fun id => placed copy (Session.cloneBox id) := by
  rw [perform]
  rfl

theorem perform_newBox (name : String) (o : Session.BoxOptions) :
    perform (.newBox name o none) = placed name (Session.newBox { o with cache := none }) := by
  rw [perform]
  rfl

theorem outcome_placed_of_error {made : Session Nat} {e : Error}
    (h : outcome made room.world = (.error e, room.world)) (name : String) :
    outcome (placed name made) room = (.error (.error e), room) := by
  refine outcome_bind_of_error ?_
  rw [outcome_session, h]
  rfl

theorem exists_outcome_placed (room : Room) {made : Session Nat} {c : Box} {g : Graph Watch}
    (h : outcome made room.world = (.ok room.world.boxes.size,
      { room.world with graph := g, boxes := room.world.boxes.push c })) (name : String) :
    ∃ heap view, outcome (placed name made) room =
      (.ok ⟨heap, .box view⟩, (room.pushBox name c g).setHeap heap) := by
  have hc : (room.pushBox name c g).world.boxes[room.world.boxes.size]? = some c :=
    Array.getElem?_push_size
  obtain ⟨heap, view, hshown⟩ := exists_outcome_shownBox hc
  refine ⟨heap, view, ?_⟩
  have hsession : outcome (session made) room = (.ok room.world.boxes.size, { room with
      world := { room.world with graph := g, boxes := room.world.boxes.push c } }) := by
    rw [outcome_session, h]
    rfl
  rw [placed, outcome_bind_of_ok hsession]
  exact hshown

end Play

namespace Room

variable {room : Room} {name copy : String} {b c : Box}

theorem box?_pushBox_self (room : Room) (copy : String) (c : Box) (g : Graph Watch) :
    (room.pushBox copy c g).box? copy = some c := by
  show (((copy, room.world.boxes.size) :: room.boxes).find? (·.1 == copy)).bind _ = _
  rw [List.find?_cons_of_pos (p := fun e : String × Nat => e.1 == copy) (beq_self_eq_true copy)]
  exact Array.getElem?_push_size

theorem box?_pushBox_of_ne (hb : room.box? name = some b) (hne : copy ≠ name) (c : Box)
    (g : Graph Watch) : (room.pushBox copy c g).box? name = some b := by
  obtain ⟨⟨x, id⟩, hfind, hid⟩ := Option.bind_eq_some_iff.mp hb
  obtain ⟨hlt, hget⟩ := Array.getElem?_eq_some_iff.mp hid
  show (((copy, room.world.boxes.size) :: room.boxes).find? (·.1 == name)).bind _ = _
  rw [List.find?_cons_of_neg (p := fun e : String × Nat => e.1 == name)
    fun h => hne (eq_of_beq h), hfind]
  show (room.world.boxes.push c)[id]? = some b
  rw [Array.getElem?_push_lt hlt, hget]

end Room

/-- No clone is made over defaults whose markers do not go together. -/
theorem Room.result_cloneBox_of_error {room : Room} {name copy : String} {b : Box}
    (hb : room.box? name = some b) {e : MarkerError} (he : room.world.defaults.markers = .error e) :
    (room.report (.cloneBox name copy)).result = .error (.error (.marker e)) := by
  have hcleared : room.cleared.box? name = some b := hb
  obtain ⟨x, id, -, hid, hout⟩ := Play.exists_outcome_find_bind hcleared
    fun id => Play.placed copy (Session.cloneBox id)
  have hrefused := Session.outcome_cloneBox_of_error (w := room.cleared.world) hid he
  rw [report_eq, Play.perform_cloneBox, hout, Play.outcome_placed_of_error hrefused]

/-- A clone stands behind all other boxes of a room. -/
theorem Room.exists_clone {room : Room} (hroom : room.world.Sound) {name : String} {b : Box}
    (hb : room.box? name = some b) {m : Markers} (hm : room.world.defaults.markers = .ok m)
    (copy : String) :
    ∃ c g heap view, (room.report (.cloneBox name copy)).result = .ok ⟨heap, .box view⟩ ∧
      room.after (.cloneBox name copy) = (room.cleared.pushBox copy c g).setHeap heap ∧
      b.CloneOf room.world.defaults room.world.heap c := by
  have hcleared : room.cleared.box? name = some b := hb
  obtain ⟨x, id, -, hid, hout⟩ := Play.exists_outcome_find_bind hcleared
    fun id => Play.placed copy (Session.cloneBox id)
  have hclean : b.messages.Clean := (hroom.boxes b (Array.mem_of_getElem? hid)).clean
  obtain ⟨c, g, hmade, hc⟩ :=
    Session.exists_outcome_cloneBox (w := room.cleared.world) hid hclean hm
  obtain ⟨heap, view, hplaced⟩ := Play.exists_outcome_placed room.cleared hmade copy
  refine ⟨c, g, heap, view, ?_, ?_, hc⟩
  · rw [report_eq, Play.perform_cloneBox, hout, hplaced]
  · rw [after_eq, Play.perform_cloneBox, hout, hplaced]

/-- **A clone is as faithful as its language allows.** It is made if and only if the markers of the
defaults go together; it leaves the original as it is, and has its markers, messages and cache, a
tracker of its kind, and its language if this counts as true. In whatever way values change from then
on, both give the same messages and answer alike, if the language counts as true or another one is
asked for. -/
theorem clone_faithful {room : Room} (hroom : Played room) {name copy : String} {b : Box}
    (hb : room.box? name = some b) (hne : copy ≠ name) :
    (∀ e, room.world.defaults.markers = .error e →
      (room.report (.cloneBox name copy)).result = .error (.error (.marker e))) ∧
    ∀ m, room.world.defaults.markers = .ok m →
      (room.report (.cloneBox name copy)).result.isOk = true ∧
      (room.after (.cloneBox name copy)).box? name = some b ∧
      ∃ c, (room.after (.cloneBox name copy)).box? copy = some c ∧
        b.CloneOf room.world.defaults room.world.heap c ∧
        ∀ heap language, room.world.heap.truthy b.language = true ∨ language ≠ .null →
          (∀ r : Request, r.language = language →
            (((room.after (.cloneBox name copy)).setHeap heap).report (.message name r)).result =
              (((room.after (.cloneBox name copy)).setHeap heap).report (.message copy r)).result) ∧
          ∀ change,
            (((room.after (.cloneBox name copy)).setHeap heap).report
              (.messages name language change)).result =
            (((room.after (.cloneBox name copy)).setHeap heap).report
              (.messages copy language change)).result := by
  refine ⟨fun e he => Room.result_cloneBox_of_error hb he, fun m hm => ?_⟩
  obtain ⟨c, g, heap, view, hresult, hafter, hc⟩ :=
    Room.exists_clone (sound_of_played hroom) hb hm copy
  have hplayed : Played ((room.cleared.pushBox copy c g).setHeap heap) :=
    hafter ▸ .attempt (.cloneBox name copy) hroom
  have hcleared : room.cleared.box? name = some b := hb
  have hname : (room.cleared.pushBox copy c g).box? name = some b :=
    Room.box?_pushBox_of_ne hcleared hne c g
  have hcopy : (room.cleared.pushBox copy c g).box? copy = some c :=
    Room.box?_pushBox_self _ copy c g
  rw [hafter, hresult]
  refine ⟨rfl, hname, c, hcopy, hc, fun heap' language hl => ?_⟩
  have hsound := sound_of_played (.change heap' hplayed)
  obtain ⟨⟨x, id⟩, -, hid⟩ := Option.bind_eq_some_iff.mp hb
  have hcombined : b.markers.Combined :=
    ((sound_of_played hroom).boxes b (Array.mem_of_getElem? hid)).combined
  have htwins := Room.twins hsound hname hcopy (hc.twin hcombined hl)
  constructor
  · rintro r rfl
    exact (Room.alike_message htwins).1
  · exact fun change => (Room.alike_messages htwins change).1

/-! ### Two clones -/

/-- The markers that boxes have from the start go together. -/
theorem Defaults.exists_markers_empty : ∃ m, Defaults.empty.markers = .ok m :=
  exists_eq_ok (by decide +kernel)

/-- A session with one box, made from the defaults and without a tracker. -/
def oneBox : Room :=
  (Room.start ⟨9, 99⟩).after
    (.newBox "box" ⟨.absent, .absent, .absent, .null, .null, .none, none⟩ none)

theorem played_oneBox : Played oneBox := by
  rw [oneBox, Room.after]
  exact .attempt _ (.start _)

/-- What there is in it. -/
theorem exists_oneBox : ∃ m g heap, Defaults.empty.markers = .ok m ∧
    oneBox = ((Room.start ⟨9, 99⟩).pushBox "box" ⟨.str "en", m, [], .none, none⟩ g).setHeap heap := by
  obtain ⟨m, hm⟩ := Defaults.exists_markers_empty
  obtain ⟨t, g, hnew, hkind⟩ :=
    Session.exists_outcome_newBox (w := World.start ⟨9, 99⟩) hm .null .none none
  obtain ⟨heap, view, hout⟩ := Play.exists_outcome_placed (.start ⟨9, 99⟩) hnew "box"
  have ht : t = .none := by
    cases t <;> first | rfl | cases hkind
  subst ht
  refine ⟨m, g, heap, hm, ?_⟩
  rw [oneBox, Room.after_eq, Play.perform_newBox]
  exact congrArg Prod.snd hout

theorem defaults_oneBox : oneBox.world.defaults = .empty := by
  obtain ⟨m, g, heap, -, hroom⟩ := exists_oneBox
  rw [hroom]
  rfl

theorem exists_markers_oneBox : ∃ m, oneBox.world.defaults.markers = .ok m ∧
    oneBox.box? "box" = some ⟨.str "en", m, [], .none, none⟩ := by
  obtain ⟨m, g, heap, hm, hroom⟩ := exists_oneBox
  refine ⟨m, (congrArg Defaults.markers defaults_oneBox).trans hm, ?_⟩
  rw [hroom]
  exact Room.box?_pushBox_self _ "box" _ g

/-- A box in a language that counts as true and its clone. -/
theorem clone_faithful_oneBox :
    (oneBox.report (.cloneBox "box" "clone")).result.isOk = true ∧
      ∃ c, (oneBox.after (.cloneBox "box" "clone")).box? "clone" = some c ∧
        c.language = .str "en" ∧ ∀ heap, ∀ r : Request, r.language = .null →
          (((oneBox.after (.cloneBox "box" "clone")).setHeap heap).report (.message "box" r)).result =
            (((oneBox.after (.cloneBox "box" "clone")).setHeap heap).report
              (.message "clone" r)).result := by
  obtain ⟨m, hm, hb⟩ := exists_markers_oneBox
  obtain ⟨-, hclone⟩ := clone_faithful played_oneBox hb (show "clone" ≠ "box" by decide)
  obtain ⟨hok, -, c, hc, hcopy, hsame⟩ := hclone m hm
  have htruthy (h : Heap) : h.truthy (.str "en") = true := rfl
  refine ⟨hok, c, hc, ?_, fun heap r hr => (hsame heap .null (.inl (htruthy _))).1 r hr⟩
  rw [hcopy.language, Defaults.languageFor, if_pos (htruthy _)]

/-- A box without a tracker just takes another language. -/
theorem Room.after_setLanguage_untracked {room : Room} {name x : String} {id : Nat} {b : Box}
    (hname : room.boxes.find? (·.1 == name) = some (x, id)) (hb : room.world.boxes[id]? = some b)
    (ht : b.tracker = .none) (language : Value) :
    room.after (.setLanguage name language) = { room.cleared with
      world := { room.cleared.world with
        boxes := room.world.boxes.setIfInBounds id { b with language := language } } } := by
  have hset : outcome (Session.setLanguage id language) room.cleared.world =
      (.ok (), { room.cleared.world with
        boxes := room.world.boxes.setIfInBounds id { b with language := language } }) := by
    rw [Session.setLanguage,
      outcome_bind_of_ok (Session.outcome_box (w := room.cleared.world) hb)]
    show outcome (Session.setBox id { b with language := language } >>= fun _ => _) _ = _
    rw [Session.setBox, outcome_modify_bind, ht]
    rfl
  have hfind : outcome (Play.find (·.boxes) name) room.cleared = (.ok id, room.cleared) :=
    Play.outcome_find_of_eq hname
  rw [after_eq, Play.perform, outcome_bind_of_ok hfind, outcome_bind, Play.outcome_session, hset]
  rfl

/-- **A box whose language is the empty text has a clone in the language of the defaults.** -/
theorem Room.exists_clone_emptied {room : Room} (hroom : Played room) {name : String} {b : Box}
    (hb : room.box? name = some b) (ht : b.tracker = .none) {m : Markers}
    (hm : room.world.defaults.markers = .ok m) (copy : String) :
    (room.after (.setLanguage name (.str ""))).box? name = some { b with language := .str "" } ∧
      ∃ c, ((room.after (.setLanguage name (.str ""))).after (.cloneBox name copy)).box? copy =
        some c ∧ c.language = .str room.world.defaults.ownLanguage := by
  obtain ⟨⟨x, id⟩, hname, hid⟩ := Option.bind_eq_some_iff.mp hb
  have hafter := after_setLanguage_untracked hname hid ht (.str "")
  obtain ⟨hlt, -⟩ := Array.getElem?_eq_some_iff.mp hid
  have hempty : (room.after (.setLanguage name (.str ""))).box? name =
      some { b with language := .str "" } := by
    rw [hafter]
    show (room.boxes.find? _).bind _ = _
    rw [hname]
    exact Array.getElem?_setIfInBounds_self_of_lt hlt
  have hsound : (room.after (.setLanguage name (.str ""))).world.Sound :=
    sound_of_played (.attempt _ hroom)
  have hmarkers : (room.after (.setLanguage name (.str ""))).world.defaults.markers = .ok m := by
    rw [hafter]
    exact hm
  obtain ⟨c, g, heap, view, -, hclone, hc⟩ := exists_clone hsound hempty hmarkers copy
  refine ⟨hempty, c, ?_, ?_⟩
  · rw [hclone]
    exact box?_pushBox_self _ copy c g
  · rw [hc.language, hafter]
    rfl

/-- The clone of a box whose language is the empty text has another language. -/
theorem clone_emptyLanguage : ∃ b c,
    (oneBox.after (.setLanguage "box" (.str ""))).box? "box" = some b ∧ b.language = .str "" ∧
      ((oneBox.after (.setLanguage "box" (.str ""))).after (.cloneBox "box" "clone")).box? "clone" =
        some c ∧ c.language = .str "en" := by
  obtain ⟨m, hm, hb⟩ := exists_markers_oneBox
  obtain ⟨hempty, c, hc, hown⟩ :=
    Room.exists_clone_emptied played_oneBox hb rfl hm "clone"
  have hlanguage : oneBox.world.defaults.ownLanguage = "en" :=
    congrArg Defaults.ownLanguage defaults_oneBox
  exact ⟨_, c, hempty, rfl, hc, hown.trans (congrArg Value.str hlanguage)⟩

end Wording
