import Wording.Proofs.Box.Layers
import Wording.Proofs.Template.Cached

/-!
# Answers of boxes

What a box answers to an issue follows from the entry that the two layers hold for it, before they
are merged.

* `lookup_given`: what a template or a callable reads
* `outcome_template`: a text becomes the template that it compiles to
* `answers_message`: a box answers with the entry of the layers
-/

namespace Wording

namespace Session

variable {α : Type} {w : World} {b : Box} {r : Request} {fields : Entries}

/-! ## Operations on the world -/

theorem outcome_eval (m : Eval α) (w : World) :
    outcome (eval m) w =
      ((m.run w.heap).1.mapError .fault, { w with heap := (m.run w.heap).2 }) := by
  rw [eval, outcome_get_bind]
  cases h : m.run w.heap with
  | mk result heap => cases result <;> rfl

theorem outcome_eval_of_ok {m : Eval α} {a : α} {k : Heap} (hm : outcome m w.heap = (.ok a, k)) :
    outcome (eval m) w = (.ok a, { w with heap := k }) := by
  have hrun : m.run w.heap = (.ok a, k) := hm
  rw [outcome_eval, hrun]
  rfl

theorem outcome_note_bind (e : LogEvent) (f : Unit → Session α) (w : World) :
    outcome (note e >>= f) w = outcome (f ()) { w with log := e :: w.log } :=
  outcome_modify_bind _ _ w

theorem outcome_reading_eq (f : Heap → Except Failure α) (w : World) :
    outcome (reading f) w = ((f w.heap).mapError fun e => .fault (.failure e), w) := by
  rw [reading, outcome_get_bind]
  cases f w.heap <;> rfl

/-! ## What is given to templates and callables -/

/-- The entries of a context; none for a context that counts as false. -/
def contextEntries (h : Heap) (context : Value) : Except Failure Entries :=
  if h.truthy context then Entries.ofValue h context else .ok []

/-- What a template or a callable is given: the fields of the issue, over the context, over the
generic name of the field. -/
def given (generic : Option String) (context fields : Entries) : Entries :=
  fields.overlay (context.overlay [(.str "genericName", (generic.map Value.str).getD .null)])

theorem lookup_overlay {new : Entries} (h : Keyed.Distinct new) (old : Entries) (k : Value) :
    (Entries.overlay new old).lookup k = (new.lookup k).or (old.lookup k) :=
  Keyed.find?_foldl_put h old k

/-- **A name is looked up in the issue, else in the context, else it is the generic name.** -/
theorem lookup_given {generic : Option String} {context fields : Entries}
    (hf : Keyed.Distinct fields) (hc : Keyed.Distinct context) (k : Value) :
    (given generic context fields).lookup k = (fields.lookup k).or ((context.lookup k).or
      (if (Value.str "genericName").keyEq k then some ((generic.map Value.str).getD .null)
        else none)) := by
  rw [given, lookup_overlay hf, lookup_overlay hc]
  unfold Entries.lookup
  rw [Keyed.find?_cons, Keyed.find?_nil]

theorem outcome_renderContext {generic : Option String} {context : Value} {entries : Entries}
    (h : contextEntries w.heap context = .ok entries) :
    outcome (renderContext generic context fields) w =
      (.ok (.dict w.heap.cells.size),
        { w with heap := ⟨w.heap.cells.push (.dict (given generic entries fields))⟩ }) := by
  have htruthy : outcome (truthy context) w = (.ok (w.heap.truthy context), w) := rfl
  rw [renderContext, outcome_bind_of_ok htruthy]
  unfold contextEntries at h
  by_cases ht : w.heap.truthy context = true
  · rw [if_pos ht] at h ⊢
    rw [outcome_bind_of_ok (outcome_reading h), outcome_eval]
    rfl
  · rw [if_neg ht] at h ⊢
    cases h
    rw [pure_bind, outcome_eval]
    rfl

/-! ## Templates -/

theorem outcome_cache (id : Nat) (w : World) :
    outcome (cache id) w = (.ok (w.caches[id]?.getD ⟨none, []⟩), w) := rfl

end Session

/-- The caches of a world hold nothing but what their texts compile to. -/
def World.CachesCompiled (w : World) : Prop := ∀ c ∈ w.caches, c.Compiled

theorem World.CachesCompiled.getD {w : World} (h : w.CachesCompiled) (id : Nat) :
    (w.caches[id]?.getD ⟨none, []⟩).Compiled := by
  cases hc : w.caches[id]? with
  | none => exact Cache.compiled_empty none
  | some c => exact h c (Array.mem_of_getElem? hc)

theorem forall_mem_setIfInBounds {α : Type} {P : α → Prop} {xs : Array α} {a : α}
    (h : ∀ x ∈ xs, P x) (ha : P a) (i : Nat) : ∀ x ∈ xs.setIfInBounds i a, P x := by
  intro x hx
  rcases Array.mem_or_eq_of_mem_setIfInBounds hx with hold | rfl
  · exact h x hold
  · exact ha

namespace Session

theorem outcome_compileText (hm : b.markers.Combined) (hc : w.CachesCompiled) (text : String) :
    ∃ w', outcome (compileText b text) w =
        ((Template.compile b.markers text).mapError .template, w') ∧
      w'.heap = w.heap ∧ w'.bounds = w.bounds ∧ w'.CachesCompiled := by
  rw [compileText, outcome_note_bind]
  cases hcompile : Template.compile b.markers text with
  | error e => exact ⟨{ w with log := .compiled text.length :: w.log }, rfl, rfl, rfl, hc⟩
  | ok t =>
    cases b.cache with
    | none => exact ⟨{ w with log := .compiled text.length :: w.log }, rfl, rfl, rfl, hc⟩
    | some id =>
      have hset := forall_mem_setIfInBounds hc (Cache.compiled_set (hc.getD id) hm hcompile) id
      exact ⟨{ w with
        log := .compiled text.length :: w.log
        caches := w.caches.setIfInBounds id
          ((w.caches[id]?.getD ⟨none, []⟩).set text b.markers t) }, rfl, rfl, rfl, hset⟩

/-- **A text becomes the template that it compiles to, with a cache or without.** -/
theorem outcome_template (hm : b.markers.Combined) (hc : w.CachesCompiled) (text : String) :
    ∃ w', outcome (template b text) w =
        ((Template.compile b.markers text).mapError .template, w') ∧
      w'.heap = w.heap ∧ w'.bounds = w.bounds ∧ w'.CachesCompiled := by
  unfold template
  cases b.cache with
  | none => exact outcome_compileText hm hc text
  | some id =>
    dsimp only
    rw [outcome_bind_of_ok (outcome_cache id w)]
    cases hget : (w.caches[id]?.getD ⟨none, []⟩).get? text b.markers with
    | none => exact outcome_compileText hm hc text
    | some t =>
      refine ⟨w, ?_, rfl, rfl, hc⟩
      rw [Cache.compile_of_get? (hc.getD id) hm hget]
      rfl

/-! ## Answering -/

/-- Without a message the name of the field is said to be invalid. -/
theorem outcome_fallback (name errorType : Value) (generic : Option String) (w : World) :
    (outcome (fallback name errorType generic) w).1 =
      ((w.heap.display name).map fun s => .str (s ++ " is invalid")).mapError
        fun e => .fault (.failure e) := by
  rw [fallback, outcome_get_bind]
  dsimp only
  rw [outcome_note_bind, outcome_bind, outcome_reading_eq]
  dsimp only
  cases w.heap.display name <;> rfl

/--
What a box answers when it has found what to say. A text is compiled with the markers of the box and
written, a callable is called; both are given a new dictionary with what is known of the issue. With
nothing to say, the field is invalid.
-/
structure Answers (w : World) (b : Box) (r : Request) (fields : Entries) (said : Option Value)
    (result : Except Error Value × World) : Prop where
  malformed : ∀ text e, said = some (.str text) → Template.compile b.markers text = .error e →
    result.1 = .error (.template e)
  text : ∀ text t context, said = some (.str text) → Template.compile b.markers text = .ok t →
    contextEntries w.heap r.context = .ok context →
    ∃ w', w'.heap = ⟨w.heap.cells.push (.dict
        (given (genericName? (fieldOf fields)) context fields))⟩ ∧
      result = outcome (Value.str <$>
        eval (renderTemplate w.bounds.machine t.nodes (some (.dict w.heap.cells.size)))) w'
  callable : ∀ v context, said = some v → v.isCallable = true →
    contextEntries w.heap r.context = .ok context →
    ∃ w', w'.heap = ⟨w.heap.cells.push (.dict
        (given (genericName? (fieldOf fields)) context fields))⟩ ∧
      result = outcome (eval (w.bounds.machine.call v ⟨[.dict w.heap.cells.size], []⟩)) w'
  nothing : said = none → result.1 =
    ((w.heap.display (fieldOf fields)).map
      fun s => .str (s ++ " is invalid")).mapError fun e => .fault (.failure e)

theorem answers_answer (hm : b.markers.Combined) (hc : w.CachesCompiled) (r : Request)
    (fields : Entries) (said : Option Value) :
    Answers w b r fields said (outcome (answer b r fields said) w) where
  malformed := by
    rintro text e rfl he
    obtain ⟨w', ht, -⟩ := outcome_template hm hc text
    rw [he] at ht
    rw [answer]
    dsimp only
    rw [outcome_bind_of_error ht]
  text := by
    rintro text t context rfl hcompile hcontext
    obtain ⟨w', ht, hheap, hbounds, -⟩ := outcome_template hm hc text
    rw [hcompile] at ht
    rw [← hheap] at hcontext
    refine ⟨{ w' with heap := ⟨w.heap.cells.push (.dict (given _ context fields))⟩ }, rfl, ?_⟩
    rw [answer]
    dsimp only
    rw [outcome_bind_of_ok ht, outcome_bind_of_ok (outcome_renderContext hcontext),
      outcome_get_bind, hbounds, hheap]
    rfl
  callable := by
    rintro v context rfl hv hcontext
    refine ⟨{ w with heap := ⟨w.heap.cells.push (.dict (given _ context fields))⟩ }, rfl, ?_⟩
    have hanswer : answer b r fields (some v) = (do
        let context ← renderContext (genericName? (fieldOf fields)) r.context fields
        let machine := (← get).bounds.machine
        eval (machine.call v ⟨[context], []⟩)) := by
      cases v <;> first | rfl | cases hv
    rw [hanswer, outcome_bind_of_ok (outcome_renderContext hcontext), outcome_get_bind]
  nothing := by
    rintro rfl
    rw [answer]
    exact outcome_fallback _ _ _ w

/-- **A box answers with what the entry of the two layers says.** -/
theorem answers_message {id : Nat} {sharedSources ownSources : List Catalog}
    (hb : w.boxes[id]? = some b) (hm : b.markers.Combined) (hc : w.CachesCompiled)
    (hs : w.defaults.messages = Catalog.mergeAll [] sharedSources)
    (ho : b.messages = Catalog.mergeAll [] ownSources)
    (hl : HoldsLanguage w.defaults.messages b.messages (requested b r.language))
    (hf : r.issue.fields w.heap = .ok fields) (hp : preformatted? fields = none)
    (ht : (typeOf fields).isKey = true) :
    Answers w b r fields
      ((CatalogNode.layered (genericName? (fieldOf fields))
        (CatalogNode.filled? (w.defaults.messages.below (requested b r.language)) (typeOf fields))
        (CatalogNode.filled? (b.messages.below (requested b r.language)) (typeOf fields))).bind
          CatalogNode.said?)
      (outcome (message id r) w) := by
  have hshared : w.defaults.messages.Clean := hs ▸ Catalog.clean_mergeAll sharedSources
  have hown : b.messages.Clean := ho ▸ Catalog.clean_mergeAll ownSources
  obtain ⟨boxes, graph, t, ha, hb'⟩ := exists_asked hb r.language
  have hmessages := outcome_boxMessages (b := { b with tracker := t }) ha hb' hl hshared
  rw [outcome_message_of_boxMessages hf hp ht hmessages hb', answer_of_said?
    (CatalogNode.select_merge (Catalog.clean_below hshared _) (Catalog.clean_below hown _)
      (genericName? (fieldOf fields)) (typeOf fields))]
  -- Neither the box that was asked nor its world differ in anything that an answer depends on.
  have h := answers_answer (w := { w with boxes := boxes, graph := graph })
    (b := { b with tracker := t }) hm hc r fields
  exact ⟨(h _).malformed, (h _).text, (h _).callable, (h _).nothing⟩

/-- The messages for missing values in one language. -/
def requiredMessages (messages : Catalog) : Catalog :=
  Catalog.mergeAll [] [[(.str "en", .node [(.str "required", .node messages)])]]

theorem requiredMessages_eq {messages : Catalog} (h : messages.Clean) :
    requiredMessages messages = [(.str "en", .node [(.str "required", .node messages)])] :=
  Catalog.merge_nil ⟨⟨h, by simp, trivial⟩, by simp, trivial⟩

def fieldMessages : Catalog := [(.str "items.$.value", .leaf (.str "Give a value"))]

def defaultMessages : Catalog := [(Catalog.defaultKey, .leaf (.str "Missing"))]

/-- A box that says something of all fields, over defaults that say something of one field. -/
def twoLayers (m : Markers) : World :=
  { World.start ⟨1, 1⟩ with
    heap := ⟨#[.dict []]⟩
    defaults := { Defaults.empty with messages := requiredMessages fieldMessages }
    boxes := #[⟨.str "en", m, requiredMessages defaultMessages, .none, none⟩] }

/-- The value of the third item is missing. -/
def missingValue : Request :=
  ⟨.descriptor ⟨.str "items.3.value", .str "required", .null, .dict 0⟩, .null, .null⟩

/-- What the defaults say of the field comes before what the box says of all fields. -/
theorem answers_missingValue : ∃ m b, (twoLayers m).boxes[0]? = some b ∧
    Answers (twoLayers m) b missingValue
      [(.str "name", .str "items.3.value"), (.str "type", .str "required")]
      (some (.str "Give a value")) (outcome (message 0 missingValue) (twoLayers m)) := by
  obtain ⟨m, hm⟩ := exists_eq_ok
    (show (Markers.ofOffers .absent .absent .absent).isOk = true by decide +kernel)
  have hname : genericName? (.str "items.3.value") = some "items.$.value" := by decide +kernel
  have hfield : requiredMessages fieldMessages = [(.str "en", .node [(.str "required",
    .node fieldMessages)])] := requiredMessages_eq ⟨nofun, by simp, trivial⟩
  have hdefault : requiredMessages defaultMessages = [(.str "en", .node [(.str "required",
    .node defaultMessages)])] := requiredMessages_eq ⟨nofun, by simp, trivial⟩
  have hbox : (twoLayers m).boxes[0]? =
    some ⟨.str "en", m, requiredMessages defaultMessages, .none, none⟩ := rfl
  have hl : HoldsLanguage (requiredMessages fieldMessages) (requiredMessages defaultMessages)
      (.str "en") := by
    rw [hfield, hdefault]
    exact ⟨rfl, fun n hn => ⟨_, (Option.some.inj hn).symm⟩,
      fun n hn => ⟨_, (Option.some.inj hn).symm⟩, .inl rfl⟩
  have hc : (twoLayers m).CachesCompiled := by
    intro c hmem
    cases hmem with
    | mk hmem => cases hmem
  have hsaid : (CatalogNode.layered (genericName? (.str "items.3.value"))
      (CatalogNode.filled? ((requiredMessages fieldMessages).below (.str "en"))
        (.str "required"))
      (CatalogNode.filled? ((requiredMessages defaultMessages).below (.str "en"))
        (.str "required"))).bind CatalogNode.said? = some (.str "Give a value") := by
    rw [hname, hfield, hdefault]
    rfl
  have h := answers_message (r := missingValue) hbox (Markers.combined_of_ofOffers hm) hc rfl rfl
    hl rfl rfl rfl
  exact ⟨m, _, hbox, hsaid ▸ h⟩

end Session

end Wording
