import Wording.Box.Step
import Wording.Proofs.Box.Answers

/-!
# Invariants of worlds

What holds of the worlds that steps lead to, whatever the steps are and whether they fail or not, is
told by what each small change leaves as it is. `World.Upheld` lists those of the heap, of caches and of
what is noted, and a box that is asked or changed; this is all that happens while nothing new gets into
the reactive graph. `World.Invariant` adds the changes of the graph, and a box that is made. Who changes
the defaults, or what a box says, has to show in addition that this change does no harm.

Each operation keeps an invariant; what it leaves to others is kept by their lemmas.

* `Session.keeps_message`: asking a box for a message
* `Session.keeps_setLanguage`: giving a box another language, with all watches that run again
* `Play.invariant_perform`: performing a step
-/

namespace Wording

/-- A box with markers that have been put together and with a merged catalog. -/
structure Box.Sound (b : Box) : Prop where
  combined : b.markers.Combined
  clean : b.messages.Clean

theorem Box.Sound.change {b : Box} (h : b.Sound) (language : Value) (t : Tracker) :
    { b with language := language, tracker := t }.Sound := ⟨h.combined, h.clean⟩

/-- The dependency of a tracker, if it lets others know by one. -/
def Tracker.dependency? : Tracker → Option Nat
  | .dependency d => .some d
  | _ => .none

/-- What holds of a world while boxes are asked and nothing new gets into the reactive graph, where
`S id b` says which boxes may stand at `id`: each of them with any tracker that lets the same others
know. -/
structure World.Upheld (P : World → Prop) (S : Nat → Box → Prop) : Prop where
  compiled : ∀ {w}, P w → w.CachesCompiled
  shared : ∀ {w}, P w → w.defaults.messages.Clean
  box : ∀ {w id b}, P w → w.boxes[id]? = some b → S id b
  sound : ∀ {id b}, S id b → b.Sound
  tracker : ∀ {id b}, S id b → ∀ t : Tracker, t.dependency? = b.tracker.dependency? →
    S id { b with tracker := t }
  heap : ∀ {w}, P w → ∀ h, P { w with heap := h }
  caches : ∀ {w}, P w → ∀ {cs : Array Cache}, (∀ c ∈ cs, c.Compiled) → P { w with caches := cs }
  log : ∀ {w}, P w → ∀ log, P { w with log := log }
  setBox : ∀ {w}, P w → ∀ (id : Nat) {b}, S id b →
    P { w with boxes := w.boxes.setIfInBounds id b }

/-- What holds of a world through all changes. -/
structure World.Invariant (P : World → Prop) (S : Nat → Box → Prop) : Prop
    extends World.Upheld P S where
  graph : ∀ {w}, P w → ∀ g, P { w with graph := g }
  events : ∀ {w}, P w → ∀ events, P { w with events := events }
  pushBox : ∀ {w}, P w → ∀ {b : Box}, b.Sound → P { w with boxes := w.boxes.push b }
  /-- Nothing is asked of a new box but that it is sound. -/
  free : ∀ {w}, P w → ∀ b : Box, b.Sound → S w.boxes.size b

theorem World.Invariant.noted {P : World → Prop} {S : Nat → Box → Prop} (hP : World.Invariant P S)
    {w : World} (h : P w) (log : List LogEvent) (events : List (String × Value)) :
    P { w with log := log, events := events } := hP.events (hP.log h log) events

/-- The defaults that come out of a change do no harm to an invariant. -/
def DefaultsChange.Respects (P : World → Prop) (c : DefaultsChange) : Prop :=
  ∀ w w' r, P w → P w' → w.defaults.apply w.heap c = .ok r → P { w' with defaults := r.1 }

theorem Catalog.clean_copy (c : Catalog) : (merge [] c).Clean := clean_mergeAll [c]

namespace Session

variable {α : Type} {P : World → Prop} {S : Nat → Box → Prop}

/-! ## Reading and noting -/

theorem keeps_reading (f : Heap → Except Failure α) : Keeps P (reading f) fun _ => True := by
  intro w h
  rw [outcome_reading_eq]
  exact ⟨h, fun _ _ => trivial⟩

theorem keeps_lift (r : Except Error α) : Keeps P (lift r) fun a => r = .ok a := by
  cases r with
  | error e => exact keeps_throw e
  | ok a => exact keeps_pure rfl

theorem keeps_truthy (v : Value) : Keeps P (truthy v) fun _ => True :=
  keeps_get.bind fun _ _ => keeps_return _

section

variable (hP : World.Upheld P S)
include hP

theorem keeps_eval (m : Eval α) : Keeps P (eval m) fun _ => True := by
  intro w h
  rw [outcome_eval]
  exact ⟨hP.heap h _, fun _ _ => trivial⟩

theorem keeps_note (e : LogEvent) : Keeps P (note e) fun _ => True :=
  keeps_modify fun w h => hP.log h (e :: w.log)

/-! ## Defaults -/

theorem keeps_applyDefaults {c : DefaultsChange} (hc : c.Respects P) :
    Keeps P (applyDefaults c) fun _ => True := by
  refine keeps_get.bind fun w hw => (keeps_lift _).bind fun r hr => ?_
  refine (keeps_modify fun w' hw' => hc w w' r hw hw' hr).bind fun _ _ => ?_
  dsimp only
  split
  · exact (keeps_note hP _).bind fun _ _ => keeps_return _
  · exact keeps_return _

theorem keeps_applyEnvironment {start : String} {environ : Entries}
    (hc : ∀ w c, P w → Environment.change w.heap start environ = .ok c → c.Respects P) :
    Keeps P (applyEnvironment start environ) fun _ => True :=
  keeps_get.bind fun w hw => (keeps_lift _).bind fun c h => keeps_applyDefaults hP (hc w c hw h)

omit hP in
theorem keeps_resetDefaults (h : ∀ w, P w → P { w with defaults := .empty }) :
    Keeps P resetDefaults fun _ => True := (keeps_modify h).bind fun _ _ => keeps_return _

/-! ## Caches -/

theorem keeps_cache (id : Nat) : Keeps P (cache id) Cache.Compiled :=
  keeps_get.bind fun _ hw => keeps_pure ((hP.compiled hw).getD id)

theorem keeps_setCache {c : Cache} (hc : c.Compiled) (id : Nat) :
    Keeps P (setCache id c) fun _ => True :=
  keeps_modify fun _ hw => hP.caches hw (forall_mem_setIfInBounds (hP.compiled hw) hc id)

theorem keeps_newCache (limit : Option Int) : Keeps P (newCache limit) fun _ => True := by
  unfold newCache
  cases hc : Cache.ofLimit? limit with
  | none => exact keeps_throw _
  | some c =>
    refine keeps_get.bind fun w hw => (keeps_set ?_).bind fun _ _ => keeps_return _
    exact hP.caches hw (Array.forall_mem_push.mpr ⟨Cache.compiled_ofLimit? hc, hP.compiled hw⟩)

/-! ## Catalogs -/

omit hP in
theorem keeps_newStore (messages : Value) : Keeps P (newStore messages) Catalog.Clean :=
  (keeps_reading _).bind fun c _ => keeps_pure (Catalog.clean_copy c)

omit hP in
/-- What is merged over a catalog without empty leaves has none either. -/
theorem keeps_addMessages (store : Catalog) (messages : Value) :
    Keeps P (addMessages store messages) fun c => store.Clean → c.Clean :=
  (keeps_reading _).bind fun c _ => keeps_pure (Catalog.clean_merge store c)

omit hP in
theorem keeps_mergedMessages (store : Catalog) (language : Value) :
    Keeps P (mergedMessages store language) fun _ => True := by
  refine keeps_get.bind fun w _ => (keeps_reading _).bind fun c _ => ?_
  cases c with
  | none => exact (keeps_reading _).bind fun _ _ => keeps_throw _
  | some c => exact keeps_return _

/-! ## Boxes -/

omit hP in
theorem keeps_newTracker (hgraph : ∀ w, P w → P { w with graph := w.graph.newDependency.2 })
    (k : TrackerKind) :
    Keeps P (newTracker k) fun _ => True := by
  cases k with
  | none => exact keeps_return _
  | recording => exact keeps_return _
  | dependency =>
    exact keeps_get.bind fun w hw => (keeps_set (hgraph w hw)).bind fun _ _ => keeps_return _

omit hP in
theorem keeps_initialLanguage (language : Value) :
    Keeps P (initialLanguage language) fun _ => True := by
  refine (keeps_truthy language).bind fun given _ => ?_
  cases given with
  | true => exact keeps_return _
  | false =>
    refine keeps_get.bind fun w _ => ?_
    cases w.defaults.language with
    | none => exact keeps_return _
    | some s => exact keeps_return _

omit hP in
/-- A box that is made changes nothing but the graph, where its tracker gets a place. -/
theorem keeps_makeBox (hgraph : ∀ w, P w → P { w with graph := w.graph.newDependency.2 })
    (o : BoxOptions) : Keeps P (makeBox o) Box.Sound := by
  refine keeps_get.bind fun w _ => (keeps_initialLanguage _).bind fun language _ => ?_
  -- Only markers that go together get as far as the rest.
  have hrest : ∀ m : Markers, m.Combined → Keeps P (do
      let messages ← newStore o.messages
      let tracker ← newTracker o.tracker
      return ⟨language, m, messages, tracker, o.cache⟩) Box.Sound := by
    intro m hm
    exact (keeps_newStore _).bind fun _ hc => (keeps_newTracker hgraph _).bind fun _ _ =>
      keeps_pure ⟨hm, hc⟩
  dsimp only
  split
  · next m hm => exact (keeps_pure (Markers.combined_of_ofOffers hm)).bind hrest
  · exact (keeps_throw _).bind hrest

theorem keeps_box (id : Nat) : Keeps P (box id) (S id) := by
  refine keeps_get.bind fun w hw => ?_
  cases hb : w.boxes[id]? with
  | none => exact keeps_throw _
  | some b => exact keeps_pure (hP.box hw hb)

theorem keeps_setBox {id : Nat} {b : Box} (hb : S id b) : Keeps P (setBox id b) fun _ => True :=
  keeps_modify fun _ hw => hP.setBox hw id hb

/-! ## Messages -/

theorem keeps_compileText {b : Box} (hb : b.Sound) (text : String) :
    Keeps P (compileText b text) fun _ => True := by
  refine (keeps_note hP _).bind fun _ _ => ?_
  cases ht : Template.compile b.markers text with
  | error e => exact keeps_throw _
  | ok t =>
    cases b.cache with
    | none => exact keeps_return _
    | some id =>
      exact (keeps_cache hP id).bind fun c hc =>
        (keeps_setCache hP (Cache.compiled_set hc hb.combined ht) id).bind fun _ _ =>
          keeps_return _

theorem keeps_template {b : Box} (hb : b.Sound) (text : String) :
    Keeps P (template b text) fun _ => True := by
  unfold template
  cases b.cache with
  | none => exact keeps_compileText hP hb text
  | some id =>
    refine (keeps_cache hP id).bind fun c _ => ?_
    cases c.get? text b.markers with
    | none => exact keeps_compileText hP hb text
    | some t => exact keeps_return _

theorem keeps_renderContext (generic : Option String) (context : Value) (fields : Entries) :
    Keeps P (renderContext generic context fields) fun _ => True := by
  refine (keeps_truthy context).bind fun given _ => ?_
  dsimp only
  split
  · exact (keeps_reading _).bind fun _ _ => keeps_eval hP _
  · exact (keeps_return _).bind fun _ _ => keeps_eval hP _

theorem keeps_fallback (name errorType : Value) (generic : Option String) :
    Keeps P (fallback name errorType generic) fun _ => True :=
  keeps_get.bind fun _ _ => (keeps_note hP _).bind fun _ _ => (keeps_reading _).bind
    fun _ _ => keeps_return _

theorem keeps_answer {b : Box} (hb : b.Sound) (r : Request) (fields : Entries)
    (said : Option Value) : Keeps P (answer b r fields said) fun _ => True := by
  unfold answer
  dsimp only
  split
  · exact (keeps_template hP hb _).bind fun _ _ => (keeps_renderContext hP _ _ _).bind fun _ _ =>
      keeps_get.bind fun _ _ => (keeps_eval hP _).bind fun _ _ => keeps_return _
  · split
    · exact (keeps_renderContext hP _ _ _).bind fun _ _ => keeps_get.bind fun _ _ =>
        keeps_eval hP _
    · exact keeps_fallback hP _ _ _
  · exact keeps_fallback hP _ _ _

section

variable (hdepend : ∀ w, P w → ∀ d, P { w with graph := (w.graph.depend d none).2 })
include hdepend

theorem keeps_readLanguage (id : Nat) : Keeps P (readLanguage id) fun _ => True := by
  refine (keeps_box hP id).bind fun b hb => ?_
  split
  · exact keeps_return _
  · next d _ => exact (keeps_modify fun w hw => hdepend w hw d).bind fun _ _ => keeps_return _
  · next ht =>
    exact (keeps_setBox hP (hP.tracker hb _ (by rw [ht]; rfl))).bind fun _ _ => keeps_return _

theorem keeps_boxMessages (id : Nat) (language : Value) :
    Keeps P (boxMessages id language) fun _ => True := by
  have hm : boxMessages id language = (askLanguage id language >>= fun l => do
      let b ← box id
      return (← mergedMessages b.messages l, l)) := by
    cases language <;> rfl
  have ha : Keeps P (askLanguage id language) fun _ => True := by
    cases language <;> first | exact keeps_readLanguage hP hdepend id | exact keeps_return _
  rw [hm]
  exact ha.bind fun l _ => (keeps_box hP id).bind fun b _ => (keeps_mergedMessages _ _).bind
    fun _ _ => keeps_return _

/-- **Asking a box for a message keeps an invariant.** -/
theorem keeps_message (id : Nat) (r : Request) : Keeps P (message id r) fun _ => True := by
  refine (keeps_reading _).bind fun fields _ => ?_
  cases preformatted? fields with
  | some m => exact keeps_return _
  | none =>
    refine (keeps_boxMessages hP hdepend id r.language).bind fun _ _ => ?_
    dsimp only
    split
    · exact (keeps_throw (Q := fun _ => False) _).bind fun _ h => h.elim
    · exact (keeps_box hP id).bind fun b hb => keeps_answer hP (hP.sound hb) r fields _

end

/-- What is added to a box does no harm. -/
theorem keeps_addBoxMessages {id : Nat}
    (hsay : ∀ (b : Box) (m : Catalog), S id b → m.Clean → S id { b with messages := m })
    (messages : Value) : Keeps P (addBoxMessages id messages) fun _ => True :=
  (keeps_box hP id).bind fun b hb => (keeps_addMessages b.messages messages).bind
    fun c hc => keeps_setBox hP (hsay b c hb (hc (hP.sound hb).clean))

end

/-! ## Making boxes -/

variable (hP : World.Invariant P S)
include hP

theorem keeps_graph (f : World → Graph Watch) :
    Keeps P (modify fun w => { w with graph := f w } : Session PUnit) fun _ => True :=
  keeps_modify fun w h => hP.graph h (f w)

theorem keeps_addBox {b : Box} (hb : b.Sound) :
    Keeps P (addBox b) fun id => ∀ b : Box, b.Sound → S id b :=
  keeps_get.bind fun _ hw => (keeps_set (hP.pushBox hw hb)).bind fun _ _ => keeps_pure (hP.free hw)

theorem keeps_newBox (o : BoxOptions) :
    Keeps P (newBox o) fun id => ∀ b : Box, b.Sound → S id b :=
  (keeps_makeBox (fun _ hw => hP.graph hw _) o).bind fun _ hb => keeps_addBox hP hb

theorem keeps_cloneBox (id : Nat) :
    Keeps P (cloneBox id) fun id => ∀ b : Box, b.Sound → S id b :=
  (keeps_box hP.toUpheld id).bind fun b hb =>
    (keeps_makeBox (fun _ hw => hP.graph hw _) _).bind fun _ _ =>
    keeps_addBox hP ⟨(hP.sound hb).combined, Catalog.clean_copy b.messages⟩

/-! ## Watches -/

theorem keeps_runWatch (c : Nat) : Keeps P (runWatch c) fun _ => True := by
  refine keeps_get.bind fun w _ => ?_
  cases w.graph.computations[c]? with
  | none => exact keeps_return _
  | some k =>
    dsimp only
    split
    · refine (keeps_graph hP _).bind fun _ _ => Keeps.tryFinally ?_ (keeps_graph hP _)
      exact (keeps_message hP.toUpheld (fun _ hw _ => hP.graph hw _) _ _).bind fun v _ =>
        keeps_modify fun w h => hP.events h ((k.body.name, v) :: w.events)
    · exact keeps_return _

theorem keeps_rerunAll (cs : List Nat) : Keeps P (rerunAll cs) fun _ => True := by
  induction cs with
  | nil => exact keeps_return _
  | cons c cs ih =>
    refine keeps_get.bind fun w _ => ?_
    dsimp only
    split
    · exact (keeps_graph hP _).bind fun _ _ => (keeps_runWatch hP c).bind fun _ _ => ih
    · exact ih

theorem keeps_newWatch (watch : Watch) : Keeps P (newWatch watch) fun _ => True :=
  keeps_get.bind fun _ hw => (keeps_set (hP.graph hw _)).bind fun _ _ =>
    (keeps_runWatch hP _).bind fun _ _ => keeps_return _

theorem keeps_stopWatch (c : Nat) : Keeps P (stopWatch c) fun _ => True := keeps_graph hP _

/-! ## Changing boxes -/

/-- Any sound box may stand at `id`. -/
theorem keeps_setLanguage {id : Nat} (hfree : ∀ b : Box, b.Sound → S id b) (language : Value) :
    Keeps P (setLanguage id language) fun _ => True := by
  refine (keeps_box hP.toUpheld id).bind fun b hb => ?_
  have hset (t : Tracker) : S id { b with language := language, tracker := t } :=
    hfree _ ((hP.sound hb).change language t)
  refine (keeps_setBox hP.toUpheld (hset b.tracker)).bind fun _ _ => ?_
  split
  · exact keeps_return _
  · exact keeps_setBox hP.toUpheld (hset _)
  · exact keeps_get.bind fun _ _ => (keeps_note hP.toUpheld _).bind fun _ _ => keeps_rerunAll hP _

end Session

/-! ## Steps -/

/-- What holds of a room while worlds with `P` take the place of its world and all names but those of
old defaults and of boxes are given anew. -/
structure Room.Invariant (P : World → Prop) (R : Room → Prop) : Prop where
  world : ∀ {room}, R room → P room.world
  setWorld : ∀ {room}, R room → ∀ {w}, P w → R { room with world := w }
  setNames : ∀ {room}, R room → ∀ values caches stores watches,
    R ⟨room.world, values, room.snapshots, room.boxes, caches, stores, watches⟩

/-- An invariant of worlds is one of rooms. -/
theorem Room.invariant_world (P : World → Prop) : Room.Invariant P fun room => P room.world where
  world := id
  setWorld := fun _ _ hw => hw
  setNames := fun h _ _ _ _ => h

namespace Play

variable {α : Type} {P : World → Prop} {S : Nat → Box → Prop} {R : Room → Prop}

theorem keeps_find (names : Room → List (String × α)) (name : String) :
    Keeps R (find names name) fun _ => True := by
  refine keeps_get.bind fun room _ => ?_
  split
  · exact keeps_return _
  · exact keeps_throw _

theorem keeps_shown (a : Answer) : Keeps R (shown a) fun _ => True :=
  keeps_get.bind fun _ _ => keeps_return _

theorem keeps_valueOf (name : String) : Keeps R (valueOf name) fun _ => True := by
  refine (keeps_find _ name).bind fun v _ => ?_
  cases v with
  | value v => exact keeps_return _
  | descriptor d => exact keeps_return _

variable (hR : Room.Invariant P R)
include hR

theorem keeps_session {m : Session α} {Q : α → Prop} (hm : Keeps P m Q) :
    Keeps R (session m) Q := by
  intro room h
  obtain ⟨hw, hq⟩ := hm room.world (hR.world h)
  rw [session, outcome_get_bind]
  cases hrun : (ExceptT.run m).run room.world with
  | mk r w =>
    have hout : outcome m room.world = (r, w) := hrun
    rw [hout] at hw hq
    have hset := keeps_set (ε := StepError) (hR.setWorld h hw)
    cases r with
    | ok a => exact (hset.bind fun _ _ => keeps_pure (hq a rfl)) room h
    | error e => exact (hset.bind fun _ _ => keeps_throw _) room h

/-- What is named anew leaves the world as it is. -/
theorem keeps_names {values : Room → List (String × Issue)} {watches : Room → List (String × Nat)}
    {caches : Room → List (String × Option Nat)} {stores : Room → List (String × Catalog)} :
    Keeps R (modify fun room => ⟨room.world, values room, room.snapshots, room.boxes, caches room,
      stores room, watches room⟩ : Play PUnit) fun _ => True :=
  keeps_modify fun _ h => hR.setNames h _ _ _ _

variable (hP : World.Upheld P S)
include hP

theorem keeps_shownThen (a : Answer) (root : Value) (m : Option Mutation) :
    Keeps R (shownThen a root m) fun _ => True := by
  refine (keeps_shown a).bind fun s _ => ?_
  cases m with
  | none => exact keeps_return _
  | some m =>
    exact (keeps_session hR (Session.keeps_eval hP _)).bind fun _ _ => keeps_return _

theorem keeps_shownDefaults (d : Defaults) : Keeps R (shownDefaults d) fun _ => True :=
  (keeps_session hR (Session.keeps_eval hP _)).bind fun _ _ => keeps_shown _

theorem keeps_shownStore (c : Catalog) (m : Option Mutation) :
    Keeps R (perform.shownStore c m) fun _ => True :=
  (keeps_session hR (Session.keeps_eval hP _)).bind fun _ _ => keeps_shownThen hR hP _ _ _

omit hR in
theorem keeps_boxView (id : Nat) : Keeps P (boxView id) fun _ => True :=
  (Session.keeps_box hP id).bind fun _ _ => (Session.keeps_eval hP _).bind fun _ _ =>
    keeps_get.bind fun _ _ => keeps_return _

theorem keeps_shownBox (id : Nat) : Keeps R (shownBox id) fun _ => True :=
  (keeps_session hR (keeps_boxView hP id)).bind fun _ _ => keeps_shown _

end Play

/-- Steps that make no box and no watch, stop no watch, and let none know of another language. -/
def Step.isCalm : Step → Bool
  | .newBox _ _ _ | .cloneBox _ _ | .setLanguage _ _ | .watch _ _ _ | .stop _ => false
  | _ => true

/-- What a step changes of its own does no harm to an invariant: the defaults, what a box says, and
the names of old defaults and of boxes. -/
def Step.Respects (P : World → Prop) (S : Nat → Box → Prop) (R : Room → Prop) (room : Room) :
    Step → Prop
  | .applyDefaults c snapshot => c.Respects P ∧ ∀ called ∈ snapshot, ∀ room d, R room →
      R { room with snapshots := (called, d) :: room.snapshots }
  | .applyEnvironment start environ => ∀ w c, P w →
      Environment.change w.heap start environ = .ok c → c.Respects P
  | .resetDefaults => ∀ w, P w → P { w with defaults := .empty }
  | .addMessages called _ => ∀ e, room.boxes.find? (·.1 == called) = some e →
      ∀ (b : Box) (m : Catalog), S e.2 b → m.Clean → S e.2 { b with messages := m }
  | .setLanguage called _ => ∀ e, room.boxes.find? (·.1 == called) = some e →
      ∀ b : Box, b.Sound → S e.2 b
  | .newBox called _ _ | .cloneBox _ called => ∀ room id, R room →
      (∀ b : Box, b.Sound → S id b) → R { room with boxes := (called, id) :: room.boxes }
  | _ => True

namespace Play

variable {P : World → Prop} {S : Nat → Box → Prop} {R : Room → Prop}

/-- What is done with a named box keeps what it keeps for the box that has this name. -/
theorem invariant_find_bind {room : Room} (h : R room) (name : String) {m : Nat → Play Shown}
    (hm : ∀ e, room.boxes.find? (·.1 == name) = some e → Keeps R (m e.2) fun _ => True) :
    R (outcome (find (·.boxes) name >>= m) room).2 := by
  rw [outcome_bind, find, outcome_get_bind]
  cases hfind : room.boxes.find? (·.1 == name) with
  | none => exact h
  | some e => exact (hm e hfind room h).1

/-- **A step that gets nothing new into the reactive graph keeps what its own changes respect.** -/
theorem upheld_perform (hP : World.Upheld P S)
    (hdepend : ∀ w, P w → ∀ d, P { w with graph := (w.graph.depend d none).2 })
    (hR : Room.Invariant P R) (room : Room) (h : R room) {s : Step} (hcalm : s.isCalm = true)
    (hs : s.Respects P S R room) : R (outcome (perform s) room).2 := by
  suffices Keeps R (perform s) (fun _ => True) ∨ R (outcome (perform s) room).2 from
    this.elim (fun hkeeps => (hkeeps room h).1) id
  cases s with
  | name name value => exact .inl ((keeps_names hR).bind fun _ _ => keeps_shown _)
  | mutate name m =>
    rw [perform]
    exact .inl ((keeps_valueOf name).bind fun _ _ =>
      (keeps_session hR (Session.keeps_eval hP _)).bind fun _ _ => keeps_shown _)
  | «show» name => exact .inl ((keeps_valueOf name).bind fun _ _ => keeps_shown _)
  | applyDefaults change snapshot =>
    rw [perform]
    obtain ⟨hchange, hname⟩ := hs
    refine .inl ((keeps_session hR (Session.keeps_applyDefaults hP hchange)).bind fun d _ => ?_)
    cases snapshot with
    | none => exact keeps_shownDefaults hR hP d
    | some name =>
      exact (keeps_modify fun room h => hname name rfl room d h).bind fun _ _ =>
        keeps_shownDefaults hR hP d
  | applyEnvironment start environ =>
    rw [perform]
    exact .inl ((keeps_session hR (Session.keeps_applyEnvironment hP hs)).bind fun d _ =>
      keeps_shownDefaults hR hP d)
  | defaults snapshot =>
    cases snapshot with
    | none =>
      rw [perform]
      exact .inl (keeps_get.bind fun _ _ => keeps_shownDefaults hR hP _)
    | some name =>
      rw [perform]
      exact .inl ((keeps_find _ name).bind fun d _ => keeps_shownDefaults hR hP d)
  | resetDefaults =>
    rw [perform]
    exact .inl ((keeps_session hR (Session.keeps_resetDefaults hs)).bind fun d _ =>
      keeps_shownDefaults hR hP d)
  | message name r =>
    rw [perform]
    exact .inl ((keeps_find _ name).bind fun _ _ =>
      (keeps_session hR (Session.keeps_message hP hdepend _ r)).bind fun _ _ => keeps_shown _)
  | messages name language m =>
    rw [perform]
    exact .inl ((keeps_find _ name).bind fun _ _ =>
      (keeps_session hR (Session.keeps_boxMessages hP hdepend _ language)).bind fun _ _ =>
        (keeps_session hR (Session.keeps_eval hP _)).bind fun _ _ => keeps_shownThen hR hP _ _ m)
  | addMessages name messages =>
    rw [perform]
    exact .inr (invariant_find_bind h name fun e he => (keeps_session hR
      (Session.keeps_addBoxMessages hP (hs e he) messages)).bind fun _ _ => keeps_shown _)
  | state name => exact .inl ((keeps_find _ name).bind fun _ _ => keeps_shownBox hR hP _)
  | newCache name limit idle =>
    -- A cache that keeps nothing is named like the others.
    have hrest : ∀ id : Option Nat, True → Keeps R (do
        modify fun room => { room with caches := (name, id) :: room.caches }
        shown .done) fun _ => True :=
      fun id _ => (keeps_names hR).bind fun _ _ => keeps_shown _
    rw [perform]
    dsimp only
    split
    · exact .inl ((keeps_return none).bind hrest)
    · rw [map_eq_pure_bind]
      exact .inl (((keeps_session hR (Session.keeps_newCache hP limit)).bind fun id _ =>
        keeps_return (some id)).bind hrest)
  | clearCache name =>
    rw [perform]
    refine .inl ((keeps_find _ name).bind fun id _ => ?_)
    cases id with
    | none => exact keeps_shown _
    | some id =>
      refine (keeps_session hR (Q := fun _ => True) ?_).bind fun _ _ => keeps_shown _
      exact (Session.keeps_cache hP id).bind fun c _ =>
        Session.keeps_setCache hP (Cache.compiled_empty c.limit) id
  | cacheSize name =>
    rw [perform]
    refine .inl ((keeps_find _ name).bind fun id _ => ?_)
    cases id with
    | none => exact keeps_session hR (keeps_throw _)
    | some id =>
      exact (keeps_session hR (Session.keeps_cache hP id)).bind fun _ _ => keeps_shown _
  | newStore name messages =>
    rw [perform]
    exact .inl ((keeps_session hR (Session.keeps_newStore messages)).bind fun _ _ =>
      (keeps_names hR).bind fun _ _ => keeps_shownStore hR hP _ none)
  | addToStore name messages =>
    rw [perform]
    exact .inl ((keeps_find _ name).bind fun _ _ =>
      (keeps_session hR (Session.keeps_addMessages _ messages)).bind fun _ _ =>
        (keeps_names hR).bind fun _ _ => keeps_shownStore hR hP _ none)
  | copyStore name copy =>
    rw [perform]
    exact .inl ((keeps_find _ name).bind fun _ _ => (keeps_names hR).bind fun _ _ =>
      keeps_shownStore hR hP _ none)
  | storeMessages name language m =>
    rw [perform]
    exact .inl ((keeps_find _ name).bind fun _ _ =>
      (keeps_session hR (Session.keeps_mergedMessages _ language)).bind fun _ _ =>
        (keeps_session hR (Session.keeps_eval hP _)).bind fun _ _ => keeps_shownThen hR hP _ _ m)
  | store name m => exact .inl ((keeps_find _ name).bind fun _ _ => keeps_shownStore hR hP _ m)
  | storeHas name language =>
    rw [perform]
    exact .inl ((keeps_find _ name).bind fun _ _ =>
      (keeps_session hR (Session.keeps_reading _)).bind fun _ _ => keeps_shown _)
  | _ => cases hcalm

/-- **Performing a step keeps an invariant that its own changes respect.** -/
theorem invariant_perform (hP : World.Invariant P S) (hR : Room.Invariant P R) (room : Room)
    (h : R room) {s : Step} (hs : s.Respects P S R room) : R (outcome (perform s) room).2 := by
  have hcalm (hcalm : s.isCalm = true) : R (outcome (perform s) room).2 :=
    upheld_perform hP.toUpheld (fun _ hw _ => hP.graph hw _) hR room h hcalm hs
  suffices Keeps R (perform s) (fun _ => True) ∨ R (outcome (perform s) room).2 from
    this.elim (fun hkeeps => (hkeeps room h).1) id
  cases s with
  | newBox name options cache =>
    -- Whichever cache is named, or none, the rest is the same.
    have hrest : ∀ cache : Option Nat, True → Keeps R (do
        let id ← session (Session.newBox { options with cache := cache })
        modify fun room => { room with boxes := (name, id) :: room.boxes }
        shownBox id) fun _ => True := by
      intro cache _
      exact (keeps_session hR (Session.keeps_newBox hP _)).bind fun id hid =>
        (keeps_modify fun room h => hs room id h hid).bind fun _ _ => keeps_shownBox hR hP.toUpheld _
    cases cache with
    | none =>
      rw [perform]
      exact .inl ((keeps_return none).bind hrest)
    | some c =>
      rw [perform]
      exact .inl ((keeps_find _ c).bind hrest)
  | cloneBox name copy =>
    rw [perform]
    exact .inl ((keeps_find _ name).bind fun _ _ =>
      (keeps_session hR (Session.keeps_cloneBox hP _)).bind fun id hid =>
        (keeps_modify fun room h => hs room id h hid).bind fun _ _ => keeps_shownBox hR hP.toUpheld _)
  | setLanguage name language =>
    rw [perform]
    exact .inr (invariant_find_bind h name fun e he => (keeps_session hR
      (Session.keeps_setLanguage hP (hs e he) language)).bind fun _ _ => keeps_shown _)
  | watch name box r =>
    rw [perform]
    exact .inl ((keeps_find _ box).bind fun _ _ =>
      (keeps_session hR (Session.keeps_newWatch hP _)).bind fun _ _ =>
        (keeps_names hR).bind fun _ _ => keeps_get.bind fun _ _ => keeps_shown _)
  | stop name =>
    rw [perform]
    exact .inl ((keeps_find _ name).bind fun _ _ =>
      (keeps_session hR (Session.keeps_stopWatch hP _)).bind fun _ _ =>
        keeps_get.bind fun _ _ => keeps_shown _)
  | _ => exact .inr (hcalm rfl)

end Play

end Wording
