import Wording.Proofs.Box.Clone
import Wording.Proofs.Box.Twins

/-!
# How often boxes have been asked

A recording tracker counts how often its box has been asked for its language. Nothing depends on this
number but what is shown of the box: in two rooms that differ in such numbers only, a step brings
about the same, and leaves rooms that differ in such numbers only.

* `Session.recount_message`, `Session.recount_setLanguage`: worlds
* `Room.recounted_step`: steps
-/

namespace Wording

/-! ## Without the numbers -/

/-- A tracker, but for how often it has been asked. -/
def Tracker.uncounted : Tracker → Tracker
  | .recording _ changes => .recording 0 changes
  | t => t

def Box.uncounted (b : Box) : Box := { b with tracker := b.tracker.uncounted }

def World.uncounted (w : World) : World := { w with boxes := w.boxes.map Box.uncounted }

def Room.uncounted (room : Room) : Room := { room with world := room.world.uncounted }

/-- Two worlds that differ at most in how often boxes have been asked. -/
abbrev World.Recounted (a b : World) : Prop := a.uncounted = b.uncounted

/-- Two boxes that differ at most in how often they have been asked. -/
theorem Box.exists_of_uncounted {x y : Box} (h : x.uncounted = y.uncounted) :
    ∃ t : Tracker, y = { x with tracker := t } ∧ x.tracker.uncounted = t.uncounted := by
  obtain ⟨language, markers, messages, tracker, cache⟩ := x
  obtain ⟨language', markers', messages', tracker', cache'⟩ := y
  obtain ⟨rfl, rfl, rfl, ht, rfl⟩ := (Box.mk.injEq ..).mp h
  exact ⟨tracker', rfl, ht⟩

theorem Tracker.kind_eq_of_uncounted {s t : Tracker} (h : s.uncounted = t.uncounted) :
    s.kind = t.kind := by
  cases s <;> cases t <;> first | rfl | cases h

namespace World.Recounted

variable {a b : World}

theorem map {f : World → World} (hf : ∀ w, (f w).uncounted = f w.uncounted)
    (h : a.Recounted b) : (f a).Recounted (f b) := by
  rw [Recounted, hf, hf, h]

theorem bounds (h : a.Recounted b) : a.bounds = b.bounds :=
  show a.uncounted.bounds = b.uncounted.bounds from h ▸ rfl

theorem heap (h : a.Recounted b) : a.heap = b.heap :=
  show a.uncounted.heap = b.uncounted.heap from h ▸ rfl

theorem defaults (h : a.Recounted b) : a.defaults = b.defaults :=
  show a.uncounted.defaults = b.uncounted.defaults from h ▸ rfl

theorem caches (h : a.Recounted b) : a.caches = b.caches :=
  show a.uncounted.caches = b.uncounted.caches from h ▸ rfl

theorem graph (h : a.Recounted b) : a.graph = b.graph :=
  show a.uncounted.graph = b.uncounted.graph from h ▸ rfl

theorem events (h : a.Recounted b) : a.events = b.events :=
  show a.uncounted.events = b.uncounted.events from h ▸ rfl

theorem boxes (h : a.Recounted b) : a.boxes.map Box.uncounted = b.boxes.map Box.uncounted :=
  congrArg World.boxes h

theorem box (h : a.Recounted b) (id : Nat) :
    a.boxes[id]?.map Box.uncounted = b.boxes[id]?.map Box.uncounted := by
  rw [← Array.getElem?_map, ← Array.getElem?_map, h.boxes]

theorem size_boxes (h : a.Recounted b) : a.boxes.size = b.boxes.size := by
  simpa using congrArg Array.size h.boxes

theorem setBoxes (h : a.Recounted b) {xs ys : Array Box}
    (hxs : xs.map Box.uncounted = ys.map Box.uncounted) :
    World.Recounted { a with boxes := xs } { b with boxes := ys } := by
  have hset := congrArg (fun w : World => { w with boxes := xs.map Box.uncounted }) h
  exact hset.trans (congrArg (fun zs => { b with boxes := zs }) hxs)

end World.Recounted

namespace Session

variable {α β : Type} {m m' : Session α}

/-- The same is done however often boxes have been asked. -/
abbrev Recount (m m' : Session α) : Prop :=
  Agree (fun _ : Unit => World.Recounted) (fun _ => Eq) (fun _ => Eq) () m m'

theorem Recount.bind_eq {f g : α → Session β} (h : Recount m m') (hf : ∀ a, Recount (f a) (g a)) :
    Recount (m >>= f) (m' >>= g) := by
  refine h.bind ?_
  rintro _ - a _ rfl
  exact hf a

/-! ## What does not concern boxes -/

theorem recount_pure (a : α) : Recount (pure a) (pure a) := agree_pure rfl

theorem recount_throw (e : Error) : Recount (throw e : Session α) (throw e) := agree_throw rfl

theorem recount_modify {f : World → World} (hf : ∀ w, (f w).uncounted = f w.uncounted) :
    Recount (modify f) (modify f) :=
  (agree_modify fun _ _ hab => ⟨(), le_rfl, hab.map hf⟩).mono fun _ _ _ _ _ => rfl

theorem recount_set_bind {a b : World} (h : a.Recounted b) {f g : PUnit → Session β}
    (hf : Recount (f ⟨⟩) (g ⟨⟩)) : Recount (set a >>= f) (set b >>= g) :=
  (agree_set h).bind fun _ _ _ _ _ => hf

theorem recount_lift (r : Except Error α) : Recount (lift r) (lift r) := by
  cases r with
  | ok a => exact recount_pure a
  | error e => exact recount_throw e

theorem recount_eval (m : Eval α) : Recount (eval m) (eval m) := by
  intro a b hab
  refine ⟨(), le_rfl, ?_⟩
  rw [outcome_eval, outcome_eval, hab.heap]
  exact ⟨hab.map (f := fun w => { w with heap := (m.run b.heap).2 }) fun _ => rfl, results_eq _⟩

theorem recount_reading (f : Heap → Except Failure α) : Recount (reading f) (reading f) := by
  intro a b hab
  refine ⟨(), le_rfl, ?_⟩
  rw [outcome_reading_eq, outcome_reading_eq, hab.heap]
  exact ⟨hab, results_eq _⟩

theorem recount_truthy (v : Value) : Recount (truthy v) (truthy v) := by
  refine agree_get_bind fun a b hab => ?_
  rw [hab.heap]
  exact recount_pure _

theorem recount_note (e : LogEvent) : Recount (note e) (note e) := recount_modify fun _ => rfl

theorem recount_graph (f : Graph Watch → Graph Watch) :
    Recount (modify fun w => { w with graph := f w.graph } : Session PUnit)
      (modify fun w => { w with graph := f w.graph }) := recount_modify fun _ => rfl

theorem recount_setDefaults (d : Defaults) :
    Recount (modify fun w => { w with defaults := d } : Session PUnit)
      (modify fun w => { w with defaults := d }) := recount_modify fun _ => rfl

theorem recount_applyDefaults (c : DefaultsChange) :
    Recount (applyDefaults c) (applyDefaults c) := by
  refine agree_get_bind fun a b hab => ?_
  rw [hab.defaults, hab.heap]
  refine (recount_lift _).bind_eq fun r => (recount_setDefaults r.1).bind_eq fun _ => ?_
  dsimp only
  split
  · exact (recount_note _).bind_eq fun _ => recount_pure _
  · exact recount_pure _

theorem recount_applyEnvironment (start : String) (environ : Entries) :
    Recount (applyEnvironment start environ) (applyEnvironment start environ) := by
  refine agree_get_bind fun a b hab => ?_
  rw [hab.heap]
  exact (recount_lift _).bind_eq fun c => recount_applyDefaults c

theorem recount_resetDefaults : Recount resetDefaults resetDefaults :=
  (recount_setDefaults .empty).bind_eq fun _ => recount_pure _

theorem recount_cache (id : Nat) : Recount (cache id) (cache id) := by
  refine agree_get_bind fun a b hab => ?_
  rw [hab.caches]
  exact recount_pure _

theorem recount_setCache (id : Nat) (c : Cache) : Recount (setCache id c) (setCache id c) :=
  recount_modify fun _ => rfl

theorem recount_newCache (limit : Option Int) : Recount (newCache limit) (newCache limit) := by
  unfold newCache
  cases Cache.ofLimit? limit with
  | none => exact recount_throw _
  | some c =>
    refine agree_get_bind fun a b hab => ?_
    rw [hab.caches]
    exact recount_set_bind
      (hab.map (f := fun w => { w with caches := b.caches.push c }) fun _ => rfl) (recount_pure _)

theorem recount_newStore (messages : Value) : Recount (newStore messages) (newStore messages) :=
  (recount_reading _).bind_eq fun _ => recount_pure _

theorem recount_addMessages (store : Catalog) (messages : Value) :
    Recount (addMessages store messages) (addMessages store messages) :=
  (recount_reading _).bind_eq fun _ => recount_pure _

theorem recount_mergedMessages (store : Catalog) (language : Value) :
    Recount (mergedMessages store language) (mergedMessages store language) := by
  refine agree_get_bind fun a b hab => ?_
  rw [hab.defaults]
  refine (recount_reading _).bind_eq fun merged => ?_
  cases merged with
  | some c => exact recount_pure _
  | none => exact (recount_reading _).bind_eq fun _ => recount_throw _

theorem recount_template (b : Box) (text : String) :
    Recount (template b text) (template b text) := by
  have hcompile : Recount (compileText b text) (compileText b text) := by
    refine (recount_note _).bind_eq fun _ => ?_
    cases Template.compile b.markers text with
    | error e => exact recount_throw _
    | ok t =>
      cases b.cache with
      | none => exact recount_pure _
      | some id =>
        exact (recount_cache id).bind_eq fun _ => (recount_setCache id _).bind_eq fun _ =>
          recount_pure _
  unfold template
  cases b.cache with
  | none => exact hcompile
  | some id =>
    refine (recount_cache id).bind_eq fun c => ?_
    cases c.get? text b.markers with
    | none => exact hcompile
    | some t => exact recount_pure _

theorem recount_renderContext (generic : Option String) (context : Value) (fields : Entries) :
    Recount (renderContext generic context fields) (renderContext generic context fields) := by
  refine (recount_truthy context).bind_eq fun given => ?_
  dsimp only
  split
  · exact (recount_reading _).bind_eq fun _ => recount_eval _
  · rw [pure_bind]
    exact recount_eval _

theorem recount_fallback (name errorType : Value) (generic : Option String) :
    Recount (fallback name errorType generic) (fallback name errorType generic) := by
  refine agree_get_bind fun a b hab => ?_
  rw [hab.heap]
  exact (recount_note _).bind_eq fun _ => (recount_reading _).bind_eq fun _ => recount_pure _

theorem recount_answer (b : Box) (r : Request) (fields : Entries) (selected : Option Value) :
    Recount (answer b r fields selected) (answer b r fields selected) := by
  unfold answer
  dsimp only
  split
  · refine (recount_template b _).bind_eq fun t => (recount_renderContext _ _ _).bind_eq fun c => ?_
    refine agree_get_bind fun w w' hw => ?_
    rw [hw.bounds]
    exact (recount_eval _).bind_eq fun _ => recount_pure _
  · split
    · refine (recount_renderContext _ _ _).bind_eq fun c => agree_get_bind fun w w' hw => ?_
      rw [hw.bounds]
      exact recount_eval _
    · exact recount_fallback _ _ _
  · exact recount_fallback _ _ _

/-! ## Boxes that are made -/

theorem recount_newTracker (k : TrackerKind) : Recount (newTracker k) (newTracker k) := by
  cases k with
  | none => exact recount_pure _
  | recording => exact recount_pure _
  | dependency =>
    refine agree_get_bind fun a b hab => ?_
    rw [hab.graph]
    exact recount_set_bind (hab.map (f := fun w => { w with graph := b.graph.newDependency.2 })
      fun _ => rfl) (recount_pure _)

theorem recount_initialLanguage (language : Value) :
    Recount (initialLanguage language) (initialLanguage language) := by
  refine (recount_truthy language).bind_eq fun given => ?_
  cases given with
  | true => exact recount_pure _
  | false =>
    refine agree_get_bind fun a b hab => ?_
    rw [hab.defaults]
    cases b.defaults.language <;> exact recount_pure _

theorem recount_makeBox (o : BoxOptions) : Recount (makeBox o) (makeBox o) := by
  refine agree_get_bind fun a b hab => ?_
  rw [hab.defaults]
  refine (recount_initialLanguage _).bind_eq fun language => ?_
  have hrest (m : Markers) : Recount
      (do
        let messages ← newStore o.messages
        let tracker ← newTracker o.tracker
        return Box.mk language m messages tracker o.cache)
      (do
        let messages ← newStore o.messages
        let tracker ← newTracker o.tracker
        return Box.mk language m messages tracker o.cache) :=
    (recount_newStore _).bind_eq fun _ => (recount_newTracker _).bind_eq fun _ => recount_pure _
  dsimp only
  split
  · exact (recount_pure _).bind_eq hrest
  · exact (recount_throw _).bind_eq hrest

theorem recount_addBox (x : Box) : Recount (addBox x) (addBox x) := by
  refine agree_get_bind fun a b hab => ?_
  rw [hab.size_boxes]
  refine recount_set_bind (hab.setBoxes ?_) (recount_pure _)
  rw [Array.map_push, Array.map_push, hab.boxes]

theorem recount_newBox (o : BoxOptions) : Recount (newBox o) (newBox o) :=
  (recount_makeBox o).bind_eq fun b => recount_addBox b

/-! ## Boxes that are asked and changed -/

/-- The box that is found is the same but for how often it has been asked. -/
theorem agree_box (id : Nat) :
    Agree (fun _ : Unit => World.Recounted) (fun _ => Eq) (fun _ x y => ∃ t : Tracker,
      y = { x with tracker := t } ∧ x.tracker.uncounted = t.uncounted) () (box id) (box id) := by
  intro a b hab
  have hbox := hab.box id
  refine ⟨(), le_rfl, ?_⟩
  rw [outcome_box_eq, outcome_box_eq]
  generalize a.boxes[id]? = x, b.boxes[id]? = y at hbox
  cases x with
  | none =>
    cases y with
    | none => exact ⟨hab, .error rfl⟩
    | some y => cases hbox
  | some x =>
    cases y with
    | none => cases hbox
    | some y => exact ⟨hab, .ok (Box.exists_of_uncounted (Option.some.inj hbox))⟩

theorem recount_box_bind (id : Nat) {f g : Box → Session β}
    (h : ∀ (x : Box) (t : Tracker), x.tracker.uncounted = t.uncounted →
      Recount (f x) (g { x with tracker := t })) :
    Recount (box id >>= f) (box id >>= g) := by
  refine (agree_box id).bind ?_
  rintro _ - x _ ⟨t, rfl, ht⟩
  exact h x t ht

theorem recount_setBox (id : Nat) {x y : Box} (h : x.uncounted = y.uncounted) :
    Recount (setBox id x) (setBox id y) := by
  refine (agree_modify fun a b hab => ⟨(), le_rfl, hab.setBoxes ?_⟩).mono fun _ _ _ _ _ => rfl
  rw [Array.map_setIfInBounds, Array.map_setIfInBounds, hab.boxes, h]

theorem recount_cloneBox (id : Nat) : Recount (cloneBox id) (cloneBox id) := by
  refine recount_box_bind id fun x t ht => ?_
  dsimp only
  rw [Tracker.kind_eq_of_uncounted ht]
  exact (recount_makeBox _).bind_eq fun fresh => recount_addBox _

theorem recount_readLanguage (id : Nat) : Recount (readLanguage id) (readLanguage id) := by
  refine recount_box_bind id fun x t ht => ?_
  have hset (n k changes : Nat) :
      Recount (setBox id { x with tracker := .recording n changes })
        (setBox id { x with tracker := .recording k changes }) := recount_setBox id rfl
  dsimp only
  generalize x.tracker = s at ht
  cases s with
  | none =>
    cases t <;> cases ht
    exact recount_pure _
  | dependency d =>
    cases t <;> cases ht
    exact (recount_graph fun g => (g.depend d none).2).bind_eq fun _ => recount_pure _
  | recording n changes =>
    cases t <;> cases ht
    exact (hset _ _ changes).bind_eq fun _ => recount_pure _

theorem recount_boxMessages (id : Nat) (language : Value) :
    Recount (boxMessages id language) (boxMessages id language) := by
  have hmessages (l : Value) : Recount
      (do
        let b ← box id
        return (← mergedMessages b.messages l, l))
      (do
        let b ← box id
        return (← mergedMessages b.messages l, l)) := by
    refine recount_box_bind id fun x t _ => ?_
    exact (recount_mergedMessages _ _).bind_eq fun _ => recount_pure _
  cases language with
  | null => exact (recount_readLanguage id).bind_eq hmessages
  | _ => exact hmessages _

/-- **A box gives the same message however often it has been asked.** -/
theorem recount_message (id : Nat) (r : Request) : Recount (message id r) (message id r) := by
  refine (recount_reading _).bind_eq fun fields => ?_
  cases preformatted? fields with
  | some m => exact recount_pure _
  | none =>
    refine (recount_boxMessages id r.language).bind_eq fun messages => ?_
    dsimp only
    split
    · exact recount_throw _
    · refine recount_box_bind id fun x t _ => ?_
      exact recount_answer x r fields _

theorem recount_addBoxMessages (id : Nat) (messages : Value) :
    Recount (addBoxMessages id messages) (addBoxMessages id messages) := by
  refine recount_box_bind id fun x t ht => ?_
  refine (recount_addMessages _ _).bind_eq fun c => recount_setBox id ?_
  exact congrArg (fun t => Box.mk x.language x.markers c t x.cache) ht

/-! ## Watches -/

theorem recount_runWatch (c : Nat) : Recount (runWatch c) (runWatch c) := by
  refine agree_get_bind fun a b hab => ?_
  rw [hab.graph]
  cases b.graph.computations[c]? with
  | none => exact recount_pure _
  | some k =>
    dsimp only
    split
    · refine (recount_graph fun g => g.enter c).bind_eq fun _ => ?_
      refine Agree.tryFinally ?_ (fun _ _ _ _ _ h => h) (fun _ _ _ _ _ h => h)
        fun _ _ => recount_graph fun g => g.leave
      exact (recount_message _ _).bind_eq fun _ => recount_modify fun _ => rfl
    · exact recount_pure _

theorem recount_rerunAll (cs : List Nat) : Recount (rerunAll cs) (rerunAll cs) := by
  induction cs with
  | nil => exact recount_pure _
  | cons c cs ih =>
    refine agree_get_bind fun a b hab => ?_
    rw [hab.graph]
    dsimp only
    split
    · exact (recount_graph fun g => g.detach c).bind_eq fun _ =>
        (recount_runWatch c).bind_eq fun _ => ih
    · exact ih

theorem recount_newWatch (watch : Watch) : Recount (newWatch watch) (newWatch watch) := by
  refine agree_get_bind fun a b hab => ?_
  rw [hab.graph]
  refine recount_set_bind (hab.map (f := fun w =>
    { w with graph := (b.graph.newComputation watch).2 }) fun _ => rfl) ?_
  exact (recount_runWatch _).bind_eq fun _ => recount_pure _

/-- **Another language is told in the same way however often the box has been asked.** -/
theorem recount_setLanguage (id : Nat) (language : Value) :
    Recount (setLanguage id language) (setLanguage id language) := by
  refine recount_box_bind id fun x t ht => ?_
  have hset {s t : Tracker} (hst : s.uncounted = t.uncounted) :
      Recount (setBox id { x with language := language, tracker := s })
        (setBox id { x with language := language, tracker := t }) :=
    recount_setBox id
      (congrArg (fun t => Box.mk language x.markers x.messages t x.cache) hst)
  refine (hset ht).bind_eq fun _ => ?_
  dsimp only
  generalize x.tracker = s at ht
  cases s with
  | none =>
    cases t <;> cases ht
    exact recount_pure _
  | dependency d =>
    cases t <;> cases ht
    refine agree_get_bind fun a b hab => ?_
    rw [hab.graph]
    exact (recount_note _).bind_eq fun _ => recount_rerunAll _
  | recording n changes =>
    cases t <;> cases ht
    exact hset rfl

end Session

/-! ## Rooms -/

/-- An answer, but for how often a box has been asked. -/
def Answer.uncounted : Answer → Answer
  | .box b => .box { b with tracker := b.tracker.uncounted }
  | x => x

def Shown.uncounted (s : Shown) : Shown := { s with answer := s.answer.uncounted }

/-- What is shown differs at most in how often a box has been asked. -/
abbrev Shown.Recounted (s t : Shown) : Prop := s.uncounted = t.uncounted

/-- Two rooms that differ at most in how often boxes have been asked. -/
abbrev Room.Recounted (a b : Room) : Prop := a.uncounted = b.uncounted

namespace Room.Recounted

variable {a b : Room}

theorem world (h : a.Recounted b) : a.world.Recounted b.world :=
  show a.uncounted.world = b.uncounted.world from h ▸ rfl

theorem map {f : Room → Room} (hf : ∀ room, (f room).uncounted = f room.uncounted)
    (h : a.Recounted b) : (f a).Recounted (f b) := by
  rw [Recounted, hf, hf, h]

theorem setWorld (h : a.Recounted b) {w w' : World} (hw : w.Recounted w') :
    Room.Recounted { a with world := w } { b with world := w' } := by
  have hset := congrArg (fun room : Room => { room with world := w.uncounted }) h
  exact hset.trans (congrArg (fun z => { b with world := z }) hw)

end Room.Recounted

namespace Play

variable {α β : Type} {R : α → α → Prop}

/-- The same is done however often boxes have been asked. -/
abbrev Recounts (R : α → α → Prop) (m m' : Play α) : Prop :=
  Agree (fun _ : Unit => Room.Recounted) (fun _ => Eq) (fun _ => R) () m m'

theorem recounts_bind_eq {m m' : Play β} {f g : β → Play α} (h : Recounts Eq m m')
    (hf : ∀ b, Recounts R (f b) (g b)) : Recounts R (m >>= f) (m' >>= g) := by
  refine h.bind ?_
  rintro _ - b _ rfl
  exact hf b

theorem recounts_session {m m' : Session α}
    (h : Agree (fun _ : Unit => World.Recounted) (fun _ => Eq) (fun _ => R) () m m') :
    Recounts R (session m) (session m') := by
  intro a b hab
  obtain ⟨_, -, hw, hresult⟩ := h a.world b.world hab.world
  refine ⟨(), le_rfl, ?_⟩
  rw [outcome_session, outcome_session]
  refine ⟨hab.setWorld hw, ?_⟩
  dsimp only
  generalize (outcome m a.world).1 = x, (outcome m' b.world).1 = y at hresult
  cases hresult with
  | ok h => exact .ok h
  | error h => exact .error (congrArg StepError.error h)

theorem recounts_eval_bind (m : Eval β) {f : β → Play α} (hf : ∀ b, Recounts R (f b) (f b)) :
    Recounts R (session (Session.eval m) >>= f) (session (Session.eval m) >>= f) :=
  recounts_bind_eq (recounts_session (Session.recount_eval m)) hf

theorem recounts_find_bind {names : Room → List (String × β)}
    (hnames : ∀ room, names room.uncounted = names room) (name : String) {f : β → Play α}
    (hf : ∀ x, Recounts R (f x) (f x)) :
    Recounts R (find names name >>= f) (find names name >>= f) := by
  intro a b hab
  have hsame : names a = names b := by rw [← hnames a, ← hnames b, hab]
  unfold AgreeFrom
  rw [outcome_bind, outcome_bind, outcome_find, outcome_find, hsame]
  cases (names b).find? (·.1 == name) with
  | none => exact ⟨(), le_rfl, hab, .error rfl⟩
  | some e => exact hf e.2 a b hab

theorem recounts_names {f : Room → Room} (hf : ∀ room, (f room).uncounted = f room.uncounted) :
    Recounts Eq (modify f : Play PUnit) (modify f) :=
  (agree_modify fun _ _ hab => ⟨(), le_rfl, hab.map hf⟩).mono fun _ _ _ _ _ => rfl

theorem recounts_valueOf (name : String) : Recounts Eq (valueOf name) (valueOf name) := by
  refine recounts_find_bind (fun _ => rfl) name fun i => ?_
  cases i <;> exact agree_pure rfl

/-! ### What is shown -/

theorem recounts_shown {x y : Answer} (h : x.uncounted = y.uncounted) :
    Recounts Shown.Recounted (shown x) (shown y) := by
  refine agree_get_bind fun a b hab => agree_pure ?_
  rw [hab.world.heap]
  exact congrArg (Shown.mk b.world.heap) h

theorem recounts_shownThen (x : Answer) (root : Value) (m : Option Mutation) :
    Recounts Shown.Recounted (shownThen x root m) (shownThen x root m) := by
  refine (recounts_shown rfl).bind fun _ _ s t hst => ?_
  cases m with
  | none => exact agree_pure hst
  | some m =>
    exact (recounts_session (Session.recount_eval _)).bind fun _ _ _ _ _ => agree_pure hst

theorem recounts_shownDefaults (d : Defaults) :
    Recounts Shown.Recounted (shownDefaults d) (shownDefaults d) :=
  recounts_eval_bind _ fun _ => recounts_shown rfl

theorem recounts_shownStore (c : Catalog) (m : Option Mutation) :
    Recounts Shown.Recounted (perform.shownStore c m) (perform.shownStore c m) :=
  recounts_eval_bind _ fun _ => recounts_shownThen _ _ m

/-- **A box is seen alike but for how often it has been asked.** -/
theorem recounts_shownBox (id : Nat) :
    Recounts Shown.Recounted (shownBox id) (shownBox id) := by
  have hview : Agree (fun _ : Unit => World.Recounted) (fun _ => Eq)
      (fun _ v v' => (Answer.box v).uncounted = (Answer.box v').uncounted) () (boxView id)
      (boxView id) := by
    refine (Session.agree_box id).bind ?_
    rintro _ - x _ ⟨t, rfl, ht⟩
    refine (Session.recount_eval x.messages.toDict).bind ?_
    rintro _ - v _ rfl
    refine agree_get_bind fun w w' hw => agree_pure ?_
    rw [hw.graph, hw.caches]
    dsimp only [Answer.uncounted]
    generalize x.tracker = s at ht
    cases s <;> cases t <;> cases ht <;> rfl
  exact (recounts_session hview).bind fun _ _ _ _ h => recounts_shown h

/-- A box that has got a name is shown. -/
theorem recounts_placed (name : String) {made : Session Nat} (h : Session.Recount made made) :
    Recounts Shown.Recounted (placed name made) (placed name made) :=
  recounts_bind_eq (recounts_session h) fun id =>
    recounts_bind_eq (recounts_names fun _ => rfl) fun _ => recounts_shownBox id

/-- A store that has got a name is shown. -/
theorem recounts_nameStore (name : String) (c : Catalog) :
    Recounts Shown.Recounted
      (do
        modify fun room => { room with stores := (name, c) :: room.stores }
        perform.shownStore c none)
      (do
        modify fun room => { room with stores := (name, c) :: room.stores }
        perform.shownStore c none) :=
  recounts_bind_eq (recounts_names fun _ => rfl) fun _ => recounts_shownStore c none

/-! ### Steps -/

/-- **Performing a step brings about the same however often boxes have been asked.** -/
theorem recounts_perform (s : Step) : Recounts Shown.Recounted (perform s) (perform s) := by
  cases s with
  | name name value =>
    exact recounts_bind_eq (recounts_names fun _ => rfl) fun _ => recounts_shown rfl
  | mutate name m =>
    rw [perform]
    exact recounts_bind_eq (recounts_valueOf name) fun _ => recounts_eval_bind _ fun _ =>
      recounts_shown rfl
  | «show» name => exact recounts_bind_eq (recounts_valueOf name) fun _ => recounts_shown rfl
  | applyDefaults c snapshot =>
    rw [perform]
    refine recounts_bind_eq (recounts_session (Session.recount_applyDefaults c)) fun d => ?_
    cases snapshot with
    | none => exact recounts_shownDefaults d
    | some called =>
      exact recounts_bind_eq (recounts_names fun _ => rfl) fun _ => recounts_shownDefaults d
  | applyEnvironment start environ =>
    rw [perform]
    exact recounts_bind_eq (recounts_session (Session.recount_applyEnvironment start environ))
      recounts_shownDefaults
  | defaults snapshot =>
    cases snapshot with
    | none =>
      rw [perform]
      refine agree_get_bind fun a b hab => ?_
      rw [hab.world.defaults]
      exact recounts_shownDefaults _
    | some called =>
      rw [perform]
      exact recounts_find_bind (fun _ => rfl) called recounts_shownDefaults
  | resetDefaults =>
    rw [perform]
    exact recounts_bind_eq (recounts_session Session.recount_resetDefaults) recounts_shownDefaults
  | newBox name o cache =>
    have hplaced (cache : Option Nat) := recounts_placed name
      (Session.recount_newBox { o with cache := cache })
    cases cache with
    | none =>
      rw [perform_newBox]
      exact hplaced none
    | some c =>
      rw [perform]
      exact recounts_find_bind (fun _ => rfl) c hplaced
  | cloneBox name copy =>
    rw [perform_cloneBox]
    exact recounts_find_bind (fun _ => rfl) name fun id =>
      recounts_placed copy (Session.recount_cloneBox id)
  | message name r =>
    rw [perform]
    exact recounts_find_bind (fun _ => rfl) name fun id =>
      recounts_bind_eq (recounts_session (Session.recount_message id r)) fun _ => recounts_shown rfl
  | messages name language m =>
    rw [perform]
    exact recounts_find_bind (fun _ => rfl) name fun id =>
      recounts_bind_eq (recounts_session (Session.recount_boxMessages id language)) fun _ =>
        recounts_eval_bind _ fun _ => recounts_shownThen _ _ m
  | addMessages name messages =>
    rw [perform]
    exact recounts_find_bind (fun _ => rfl) name fun id =>
      recounts_bind_eq (recounts_session (Session.recount_addBoxMessages id messages)) fun _ =>
        recounts_shown rfl
  | setLanguage name language =>
    rw [perform]
    exact recounts_find_bind (fun _ => rfl) name fun id =>
      recounts_bind_eq (recounts_session (Session.recount_setLanguage id language)) fun _ =>
        recounts_shown rfl
  | state name => exact recounts_find_bind (fun _ => rfl) name recounts_shownBox
  | watch name box r =>
    rw [perform]
    refine recounts_find_bind (fun _ => rfl) box fun id =>
      recounts_bind_eq (recounts_session (Session.recount_newWatch ⟨name, id, r⟩)) fun c =>
        recounts_bind_eq (recounts_names fun _ => rfl) fun _ => agree_get_bind fun a b hab => ?_
    rw [hab.world.graph]
    exact recounts_shown rfl
  | stop name =>
    rw [perform]
    refine recounts_find_bind (fun _ => rfl) name fun c =>
      recounts_bind_eq (recounts_session (Session.recount_graph fun g => g.stop c)) fun _ =>
        agree_get_bind fun a b hab => ?_
    rw [hab.world.graph]
    exact recounts_shown rfl
  | newCache name limit idle =>
    have hrest (id : Option Nat) : Recounts Shown.Recounted
        (do
          modify fun room => { room with caches := (name, id) :: room.caches }
          shown .done)
        (do
          modify fun room => { room with caches := (name, id) :: room.caches }
          shown .done) :=
      recounts_bind_eq (recounts_names fun _ => rfl) fun _ => recounts_shown rfl
    rw [perform]
    dsimp only
    split
    · exact recounts_bind_eq (agree_pure rfl) hrest
    · rw [map_eq_pure_bind, bind_assoc]
      exact recounts_bind_eq (recounts_session (Session.recount_newCache limit)) fun id =>
        recounts_bind_eq (agree_pure rfl) hrest
  | clearCache name =>
    rw [perform]
    refine recounts_find_bind (fun _ => rfl) name fun id => ?_
    cases id with
    | none => exact recounts_shown rfl
    | some id =>
      exact recounts_bind_eq (recounts_session ((Session.recount_cache id).bind_eq fun c =>
        Session.recount_setCache id c.clear)) fun _ => recounts_shown rfl
  | cacheSize name =>
    rw [perform]
    refine recounts_find_bind (fun _ => rfl) name fun id => ?_
    cases id with
    | none => exact recounts_session (agree_throw rfl)
    | some id =>
      exact recounts_bind_eq (recounts_session (Session.recount_cache id)) fun _ =>
        recounts_shown rfl
  | newStore name messages =>
    rw [perform]
    exact recounts_bind_eq (recounts_session (Session.recount_newStore messages))
      (recounts_nameStore name)
  | addToStore name messages =>
    rw [perform]
    exact recounts_find_bind (fun _ => rfl) name fun c =>
      recounts_bind_eq (recounts_session (Session.recount_addMessages c messages))
        (recounts_nameStore name)
  | copyStore name copy =>
    rw [perform]
    exact recounts_find_bind (fun _ => rfl) name fun c => recounts_nameStore copy _
  | storeMessages name language m =>
    rw [perform]
    exact recounts_find_bind (fun _ => rfl) name fun c =>
      recounts_bind_eq (recounts_session (Session.recount_mergedMessages c language)) fun _ =>
        recounts_eval_bind _ fun _ => recounts_shownThen _ _ m
  | store name m => exact recounts_find_bind (fun _ => rfl) name fun c => recounts_shownStore c m
  | storeHas name language =>
    rw [perform]
    exact recounts_find_bind (fun _ => rfl) name fun c =>
      recounts_bind_eq (recounts_session (Session.recount_reading _)) fun _ => recounts_shown rfl

end Play

/-- **In rooms that differ in how often boxes have been asked, a step brings about the same**, and
leaves rooms that differ in nothing else. -/
theorem Room.recounted_step {a b : Room} (hab : a.Recounted b) (s : Step) :
    (a.after s).Recounted (b.after s) ∧
      (a.report s).result.map Shown.uncounted = (b.report s).result.map Shown.uncounted ∧
      (a.report s).events = (b.report s).events := by
  obtain ⟨_, -, hafter, hresult⟩ := Play.recounts_perform s a.cleared b.cleared
    (hab.map (f := Room.cleared) fun _ => rfl)
  rw [← after_eq, ← after_eq] at hafter
  refine ⟨hafter, ?_, ?_⟩
  · rw [report_eq, report_eq]
    dsimp only
    generalize (outcome (Play.perform s) a.cleared).1 = x,
      (outcome (Play.perform s) b.cleared).1 = y at hresult
    cases hresult with
    | ok h => exact congrArg Except.ok h
    | error h => exact congrArg Except.error h
  · rw [report_eq, report_eq]
    exact congrArg List.reverse hafter.world.events

end Wording
