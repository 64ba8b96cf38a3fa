import Wording.Proofs.Paired.World

/-!
# What boxes do in worlds that go together

Each operation on worlds that go together ends in worlds that do, and both times in results that do
or in the same error. A catalog that is read off a value may have been read off another value on the
other side, if only the two catalogs go together.

* `Session.instep_message`: asking a box for a message
* `Session.instep_setLanguage`: giving a box another language, with all watches that run again
-/

namespace Wording

/-- Two operations on worlds that go together end in worlds and results that do. -/
abbrev Pairing.InStep {α α' : Type} (p : Pairing) (R : Pairing → α → α' → Prop) (m : Session α)
    (m' : Session α') : Prop := Agree World.Paired (fun q => Error.Paired q) R p m m'

/-- The same from two worlds. -/
abbrev Pairing.InStepFrom {α α' : Type} (p : Pairing) (R : Pairing → α → α' → Prop) (m : Session α)
    (m' : Session α') (a b : World) : Prop :=
  AgreeFrom World.Paired (fun q => Error.Paired q) R p m m' a b

variable {p : Pairing} {v w : Value}

namespace Session

variable {α α' β β' : Type} {R : Pairing → α → α' → Prop} {S : Pairing → β → β' → Prop}

/-! ## Reading and noting -/

theorem instep_eval {m : Eval α} {m' : Eval α'} (hm : p.Agrees R m m') :
    p.InStep R (eval m) (eval m') := by
  intro a b hab
  obtain ⟨q, hpq, hheap, hr⟩ := hm a.heap b.heap hab.heap
  refine ⟨q, hpq, ?_⟩
  rw [outcome_eval, outcome_eval]
  refine ⟨hab.setHeap hpq hheap, ?_⟩
  show Results _ _ ((outcome m a.heap).1.mapError Error.fault)
    ((outcome m' b.heap).1.mapError Error.fault)
  generalize (outcome m a.heap).1 = x, (outcome m' b.heap).1 = y at hr
  cases hr with
  | ok hr => exact .ok hr
  | error he =>
    obtain ⟨rfl, he⟩ := he
    exact .error (.fault he)

theorem instepFrom_reading {a b : World} (hab : a.Paired p b) {f g : Heap → Except Failure α}
    {T : α → α → Prop} (h : p.Alike T (f a.heap) (g b.heap)) :
    p.InStepFrom (fun _ => T) (reading f) (reading g) a b := by
  refine ⟨p, le_rfl, ?_⟩
  rw [outcome_reading_eq, outcome_reading_eq]
  refine ⟨hab, ?_⟩
  dsimp only
  generalize f a.heap = x, g b.heap = y at h
  cases h with
  | ok h => exact .ok h
  | error he =>
    obtain ⟨rfl, he⟩ := he
    exact .error (.fault he)

theorem instep_reading_bind {T : β → β' → Prop} {f : Heap → Except Failure β}
    {g : Heap → Except Failure β'} {k : β → Session α} {k' : β' → Session α'}
    (h : ∀ s t, s.Paired p t → p.Alike T (f s) (g t))
    (hk : ∀ x y, T x y → p.InStep R (k x) (k' y)) :
    p.InStep R (reading f >>= k) (reading g >>= k') := by
  intro a b hab
  have hfg := h a.heap b.heap hab.heap
  unfold AgreeFrom
  rw [outcome_bind, outcome_bind, outcome_reading_eq, outcome_reading_eq]
  dsimp only
  generalize f a.heap = x, g b.heap = y at hfg
  cases hfg with
  | ok hfg => exact hk _ _ hfg a b hab
  | error he =>
    obtain ⟨rfl, he⟩ := he
    exact ⟨p, le_rfl, hab, .error (.fault he)⟩

theorem instep_note {e e' : LogEvent} (he : e.Paired p e') :
    p.InStep (fun _ _ _ => True) (note e) (note e') :=
  agree_modify fun _ _ hab => ⟨p, le_rfl, hab.setLog (he.noted hab.log)⟩

theorem instep_truthy_bind (hv : v.Paired p w) {f : Bool → Session α} {g : Bool → Session α'}
    (h : ∀ given, p.InStep R (f given) (g given)) :
    p.InStep R (truthy v >>= f) (truthy w >>= g) := by
  refine agree_get_bind fun a b hab => ?_
  rw [hab.heap.truthy hv]
  exact h _

/-- What a result that goes together leads to. -/
theorem instepFrom_lift_bind {a b : World} {T : β → β' → Prop} {x : Except Error β}
    {y : Except Error β'} (hab : a.Paired p b) (h : Results (Error.Paired p) T x y)
    {f : β → Session α} {g : β' → Session α'}
    (hf : ∀ c d, T c d → p.InStepFrom R (f c) (g d) a b) :
    p.InStepFrom R (lift x >>= f) (lift y >>= g) a b := by
  cases h with
  | ok h => exact hf _ _ h
  | error he => exact ⟨p, le_rfl, hab, .error he⟩

end Session

/-! ## Catalogs that are read off values -/

/-- Values that say the same as catalogs, on two heaps. -/
structure Value.SameSource (p : Pairing) (h h' : Heap) (v w : Value) : Prop where
  truthy : h.truthy v = h'.truthy w
  source : p.Alike (Catalog.Paired p) (Catalog.ofSource h v) (Catalog.ofSource h' w)

theorem Value.Paired.sameSource {h h' : Heap} (hv : v.Paired p w) (hp : h.Paired p h')
    (hlevel : p.gap = 0) (hj : p.fault (.failure .attribute)) : v.SameSource p h h' w :=
  ⟨hp.truthy hv, Catalog.ofSource_paired hp hlevel hv hj⟩

/-- Where no messages are given, there are none. -/
theorem Value.sameSource_null (p : Pairing) (h h' : Heap) :
    Value.null.SameSource p h h' .null := ⟨rfl, .ok .nil⟩

/-! ## Defaults -/

theorem Defaults.Paired.offer {d d' : Defaults} (h : d.Paired p d') (r : Role) :
    d.offer r = d'.offer r := by
  cases r with
  | escape => exact congrArg MarkerOffer.ofPattern? h.escape
  | interpolate => exact congrArg MarkerOffer.ofPattern? h.interpolate
  | evaluate => exact congrArg MarkerOffer.ofPattern? h.evaluate

/-- Changes of the defaults that go together, as they are read on two heaps. -/
structure DefaultsChange.Paired (p : Pairing) (h h' : Heap) (c c' : DefaultsChange) : Prop where
  language : c.language.Paired p c'.language
  escape : c.escape = c'.escape
  interpolate : c.interpolate = c'.interpolate
  evaluate : c.evaluate = c'.evaluate
  messages : c.messages.SameSource p h h' c'.messages

section

variable {h h' : Heap} {c c' : DefaultsChange}

theorem DefaultsChange.Paired.language? (hc : c.Paired p h h' c') :
    Results (Error.Paired p) Eq c.language? c'.language? := by
  obtain ⟨hl, -, -, -, -⟩ := hc
  unfold DefaultsChange.language?
  generalize c.language = v, c'.language = w at hl
  cases hl with
  | atom ha => cases v <;> first | exact .ok rfl | exact .error .languageNotText
  | _ => exact .error .languageNotText

theorem DefaultsChange.marker?_self (r : Role) (o : MarkerOffer) :
    Results (Error.Paired p) Eq (DefaultsChange.marker? r o) (DefaultsChange.marker? r o) := by
  unfold DefaultsChange.marker?
  cases Marker.ofOffer r o with
  | ok m => exact .ok rfl
  | error e => exact .error (.marker e)

theorem DefaultsChange.Paired.messages? (hc : c.Paired p h h' c') :
    Results (Error.Paired p) (Option.Rel (Catalog.Paired p)) (c.messages? h) (c'.messages? h') := by
  unfold DefaultsChange.messages?
  rw [hc.messages.truthy]
  split
  · have hsource := hc.messages.source
    generalize Catalog.ofSource h c.messages = x, Catalog.ofSource h' c'.messages = y at hsource
    cases hsource with
    | ok hcd => exact .ok (.some hcd)
    | error he =>
      obtain ⟨rfl, he⟩ := he
      exact .error (.fault he)
  · exact .ok .none

/-- **Changes that go together make defaults that do, from defaults that do.** -/
theorem Defaults.Paired.apply {d d' : Defaults} (hd : d.Paired p d') (hc : c.Paired p h h' c') :
    Results (Error.Paired p) (fun r s => r.1.Paired p s.1 ∧ r.2 = s.2) (d.apply h c)
      (d'.apply h' c') := by
  unfold Defaults.apply
  rw [hc.escape, hc.interpolate, hc.evaluate]
  refine hc.language?.bind_eq fun language => ?_
  refine (DefaultsChange.marker?_self .escape _).bind_eq fun escape => ?_
  refine (DefaultsChange.marker?_self .interpolate _).bind_eq fun interpolate => ?_
  refine (DefaultsChange.marker?_self .evaluate _).bind_eq fun evaluate => ?_
  refine hc.messages?.bind fun messages messages' hmessages => ?_
  refine .ok ⟨⟨congrArg (language.or ·) hd.language, congrArg (escape.or ·) hd.escape,
    congrArg (interpolate.or ·) hd.interpolate, congrArg (evaluate.or ·) hd.evaluate, ?_⟩, ?_⟩
  · cases hmessages with
    | none => exact hd.messages
    | some hm => exact Catalog.mergeAll_paired .nil (.cons hd.messages (.cons hm .nil))
  · cases hmessages <;> rfl

end

namespace Session

/-! ### Changing them -/

theorem instepFrom_applyDefaults {a b : World} (hab : a.Paired p b) {c c' : DefaultsChange}
    (hc : c.Paired p a.heap b.heap c') :
    p.InStepFrom Defaults.Paired (applyDefaults c) (applyDefaults c') a b := by
  refine agreeFrom_get_bind (instepFrom_lift_bind hab (hab.defaults.apply hc) ?_)
  rintro ⟨d, changed⟩ ⟨d', changed'⟩ ⟨hd, rfl⟩
  have hset : p.InStep (fun _ _ _ => True)
      (modify fun w => { w with defaults := d } : Session PUnit)
      (modify fun w => { w with defaults := d' }) :=
    agree_modify fun _ _ hab => ⟨p, le_rfl, hab.setDefaults hd⟩
  refine (hset a b hab).bind fun q hpq _ _ _ => ?_
  have hd' := hd.imp (Pairing.into hpq)
  dsimp only
  split
  · rw [hd.language]
    refine (instep_note (.defaultsChanged _ _)).bind fun r hqr _ _ _ => ?_
    exact agree_pure (hd'.imp (Pairing.into hqr))
  · exact agree_pure hd'

theorem instep_resetDefaults : p.InStep Defaults.Paired resetDefaults resetDefaults := by
  have hempty : Defaults.empty.Paired p .empty := ⟨rfl, rfl, rfl, rfl, .nil⟩
  have hset : p.InStep (fun _ _ _ => True)
      (modify fun w => { w with defaults := .empty } : Session PUnit)
      (modify fun w => { w with defaults := .empty }) :=
    agree_modify fun _ _ hab => ⟨p, le_rfl, hab.setDefaults hempty⟩
  exact hset.bind fun q hpq _ _ _ => agree_pure (hempty.imp (Pairing.into hpq))

end Session

/-! ## The environment -/

namespace Environment

variable {h h' : Heap} {environ environ' : Entries}

theorem value_paired (he : p.Entries environ environ') (name : String) :
    (value environ name).Paired p (value environ' name) :=
  Pairing.optional_getD (Keyed.find?_paired he (k := .str name) (.atom rfl))

theorem offerOf_paired (hp : h.Paired p h') (hv : v.Paired p w) :
    offerOf h v = offerOf h' w := by
  have hunsuitable : MarkerOffer.unsuitable v.kindName (h.truthy v) =
      .unsuitable w.kindName (h'.truthy w) := by
    rw [hv.kindName, hp.truthy hv]
  cases hv with
  | atom ha =>
    cases v with
    | null => rfl
    | str s => rfl
    | _ => exact hunsuitable
  | _ => exact hunsuitable

theorem marker_paired (hp : h.Paired p h') (he : p.Entries environ environ') (start : String)
    (r : Role) :
    Results (Error.Paired p) Eq (marker h start environ r) (marker h' start environ' r) := by
  unfold marker
  rw [offerOf_paired hp (value_paired he _)]
  dsimp only
  split
  · cases Marker.ofOffer r _ with
    | ok m => exact .ok rfl
    | error e => exact .error (.environment _ e)
  · exact .ok rfl

theorem change_paired (hp : h.Paired p h') (he : p.Entries environ environ') (start : String) :
    Results (Error.Paired p) (fun c c' => c.Paired p h h' c') (change h start environ)
      (change h' start environ') := by
  have hlanguage := value_paired he (start ++ "LANGUAGE")
  have hnull : Value.null.Paired p .null := .atom rfl
  unfold change
  refine (marker_paired hp he start .escape).bind_eq fun escape => ?_
  refine (marker_paired hp he start .interpolate).bind_eq fun interpolate => ?_
  refine (marker_paired hp he start .evaluate).bind_eq fun evaluate => ?_
  refine .ok ⟨?_, rfl, rfl, rfl, Value.sameSource_null p h h'⟩
  dsimp only
  rw [hp.truthy hlanguage]
  split
  · exact hlanguage
  · exact hnull

end Environment

namespace Session

variable {α α' β β' : Type} {R : Pairing → α → α' → Prop} {S : Pairing → β → β' → Prop}

theorem instepFrom_applyEnvironment {a b : World} (hab : a.Paired p b) (start : String)
    {environ environ' : Entries} (he : p.Entries environ environ') :
    p.InStepFrom Defaults.Paired (applyEnvironment start environ) (applyEnvironment start environ')
      a b :=
  agreeFrom_get_bind (instepFrom_lift_bind hab
    (Environment.change_paired hab.heap he start) fun _ _ hc =>
      instepFrom_applyDefaults hab hc)

/-! ## Stores -/

theorem instepFrom_newStore {a b : World} (hab : a.Paired p b)
    (hs : v.SameSource p a.heap b.heap w) :
    p.InStepFrom Catalog.Paired (newStore v) (newStore w) a b :=
  (instepFrom_reading hab hs.source).bind fun _ hpq _ _ hcd =>
    agree_pure (Catalog.merge_paired .nil (hcd.mono hpq))

theorem instepFrom_addMessages {a b : World} (hab : a.Paired p b) {c d : Catalog}
    (hcd : c.Paired p d) (hs : v.SameSource p a.heap b.heap w) :
    p.InStepFrom Catalog.Paired (addMessages c v) (addMessages d w) a b :=
  (instepFrom_reading hab hs.source).bind fun _ hpq _ _ hxy =>
    agree_pure (Catalog.merge_paired (hcd.mono hpq) (hxy.mono hpq))

theorem instep_mergedMessages {c d : Catalog} (hcd : c.Paired p d) (hv : v.Paired p w) :
    p.InStep Catalog.Paired (mergedMessages c v) (mergedMessages d w) := by
  refine agree_get_bind fun a b hab => ?_
  have hlayered (s t : Heap) (hp : s.Paired p t) :=
    Catalog.layered?_paired hp hab.lacking hab.defaults.messages hcd hv
  refine instep_reading_bind hlayered fun x y hxy => ?_
  cases hxy with
  | some hxy => exact agree_pure hxy
  | none =>
    refine instep_reading_bind (fun _ _ hp => hp.display hv) ?_
    rintro text _ rfl
    exact agree_throw (.noMessages hv text)

/-! ## Making boxes -/

theorem instep_newTracker (k : TrackerKind) :
    p.InStep (fun _ => Eq) (newTracker k) (newTracker k) := by
  cases k with
  | none => exact agree_pure rfl
  | recording => exact agree_pure rfl
  | dependency =>
    refine agree_get_bind fun a b hab => ?_
    obtain ⟨hd, hg⟩ := hab.graph.newDependency
    refine (agree_set (hab.setGraph hg)).bind fun _ _ _ _ _ => ?_
    exact agree_pure (congrArg Tracker.dependency hd)

/-- What boxes are made with, as it is read on two heaps. Nothing is said of caches. -/
structure BoxOptions.Paired (p : Pairing) (h h' : Heap) (o o' : BoxOptions) : Prop where
  escape : o.escape = o'.escape
  interpolate : o.interpolate = o'.interpolate
  evaluate : o.evaluate = o'.evaluate
  language : o.language.Paired p o'.language
  messages : o.messages.SameSource p h h' o'.messages
  tracker : o.tracker = o'.tracker

theorem exists_outcome_initialLanguage {a b : World} (hab : a.Paired p b) (hv : v.Paired p w) :
    ∃ x y, outcome (initialLanguage v) a = (.ok x, a) ∧ outcome (initialLanguage w) b = (.ok y, b) ∧
      x.Paired p y := by
  have htruthy (c : World) (u : Value) : outcome (truthy u) c = (.ok (c.heap.truthy u), c) := rfl
  rw [initialLanguage, initialLanguage, outcome_bind_of_ok (htruthy a v),
    outcome_bind_of_ok (htruthy b w), hab.heap.truthy hv]
  cases b.heap.truthy w with
  | true => exact ⟨v, w, rfl, rfl, hv⟩
  | false =>
    rw [if_neg Bool.false_ne_true, if_neg Bool.false_ne_true, outcome_get_bind, outcome_get_bind,
      hab.defaults.language]
    cases b.defaults.language with
    | none => exact ⟨_, _, rfl, rfl, .atom rfl⟩
    | some s => exact ⟨_, _, rfl, rfl, .atom rfl⟩

theorem instepFrom_makeBox {a b : World} (hab : a.Paired p b) {o o' : BoxOptions}
    (ho : BoxOptions.Paired p a.heap b.heap o o') :
    p.InStepFrom Box.Paired (makeBox o) (makeBox o') a b := by
  refine agreeFrom_get_bind ?_
  obtain ⟨language, language', hl, hl', hlanguage⟩ := exists_outcome_initialLanguage hab ho.language
  refine agreeFrom_bind_of_ok hl hl' ?_
  rw [ho.escape, ho.interpolate, ho.evaluate, ho.tracker, hab.defaults.offer, hab.defaults.offer,
    hab.defaults.offer]
  dsimp only
  split
  · next m hm =>
    have hcombined := Markers.combined_of_ofOffers hm
    refine agreeFrom_bind_of_ok (outcome_pure m a) (outcome_pure m b) ?_
    refine (instepFrom_newStore hab ho.messages).bind fun q hpq c d hcd => ?_
    refine (instep_newTracker _).bind ?_
    rintro r hqr tracker _ rfl
    exact agree_pure ⟨(hlanguage.mono hpq).mono hqr, rfl, hcombined, hcd.mono hqr, rfl⟩
  · next e _ =>
    exact ⟨p, le_rfl, hab, .error (.marker e)⟩

theorem instep_addBox {x y : Box} (hxy : x.Paired p y) :
    p.InStep (fun _ => Eq) (addBox x) (addBox y) := by
  refine agree_get_bind fun a b hab => ?_
  refine (agree_set (hab.pushBox hxy)).bind fun _ _ _ _ _ => ?_
  exact agree_pure hab.sizeBoxes

theorem instepFrom_newBox {a b : World} (hab : a.Paired p b) {o o' : BoxOptions}
    (ho : BoxOptions.Paired p a.heap b.heap o o') :
    p.InStepFrom (fun _ => Eq) (newBox o) (newBox o') a b :=
  (instepFrom_makeBox hab ho).bind fun _ _ _ _ hxy => instep_addBox hxy

theorem instepFrom_box_bind {a b : World} (hab : a.Paired p b) (id : Nat) {f : Box → Session α}
    {g : Box → Session α'} (h : ∀ x y, x.Paired p y → p.InStepFrom R (f x) (g y) a b) :
    p.InStepFrom R (box id >>= f) (box id >>= g) a b := by
  have hid := hab.getBox id
  unfold Pairing.InStepFrom AgreeFrom
  rw [outcome_bind, outcome_bind, outcome_box_eq, outcome_box_eq]
  generalize a.boxes[id]? = x, b.boxes[id]? = y at hid
  cases hid with
  | none => exact ⟨p, le_rfl, hab, .error (.fault p.exhausted)⟩
  | some hxy => exact h _ _ hxy

theorem instep_box_bind (id : Nat) {f : Box → Session α} {g : Box → Session α'}
    (h : ∀ x y, x.Paired p y → p.InStep R (f x) (g y)) :
    p.InStep R (box id >>= f) (box id >>= g) :=
  fun a b hab => instepFrom_box_bind hab id fun x y hxy => h x y hxy a b hab

theorem instep_setBox (id : Nat) {x y : Box} (hxy : x.Paired p y) :
    p.InStep (fun _ _ _ => True) (setBox id x) (setBox id y) :=
  agree_modify fun _ _ hab => ⟨p, le_rfl, hab.setBox id hxy⟩

theorem instep_cloneBox (id : Nat) : p.InStep (fun _ => Eq) (cloneBox id) (cloneBox id) := by
  refine instep_box_bind id fun x y hxy => ?_
  have hmake : p.InStep Box.Paired
      (makeBox ⟨.absent, .absent, .absent, x.language, .null, x.tracker.kind, x.cache⟩)
      (makeBox ⟨.absent, .absent, .absent, y.language, .null, y.tracker.kind, y.cache⟩) := by
    intro a b hab
    have hnull : Value.null.Paired p .null := .atom rfl
    exact instepFrom_makeBox hab ⟨rfl, rfl, rfl, hxy.language, Value.sameSource_null _ _ _,
      congrArg Tracker.kind hxy.tracker⟩
  refine hmake.bind fun q hpq fresh fresh' hfresh => instep_addBox ?_
  exact ⟨hfresh.language, hxy.markers, hxy.combined,
    Catalog.merge_paired .nil (hxy.messages.mono hpq), hfresh.tracker⟩

/-! ## Messages -/

theorem instep_depend (d : Nat) : p.InStep (fun _ _ _ => True)
    (modify fun w => { w with graph := (w.graph.depend d none).2 } : Session PUnit)
    (modify fun w => { w with graph := (w.graph.depend d none).2 }) :=
  agree_modify fun _ _ hab => ⟨p, le_rfl, hab.setGraph (hab.graph.depend d none)⟩

theorem instep_readLanguage (id : Nat) :
    p.InStep Value.Paired (readLanguage id) (readLanguage id) := by
  refine instep_box_bind id fun x y hxy => ?_
  rw [hxy.tracker]
  split
  · exact agree_pure hxy.language
  · next d _ =>
    exact (instep_depend d).bind fun _ hpq _ _ _ => agree_pure (hxy.language.mono hpq)
  · refine (instep_setBox id ?_).bind fun _ hpq _ _ _ => agree_pure (hxy.language.mono hpq)
    exact ⟨hxy.language, hxy.markers, hxy.combined, hxy.messages, rfl⟩

theorem instep_boxMessages (id : Nat) (hv : v.Paired p w) :
    p.InStep (fun q x y => x.1.Paired q y.1 ∧ x.2.Paired q y.2) (boxMessages id v)
      (boxMessages id w) := by
  have hask : p.InStep Value.Paired (askLanguage id v) (askLanguage id w) := by
    have hgiven : p.InStep Value.Paired (pure v) (pure w) := agree_pure hv
    cases hv with
    | atom ha =>
      cases v with
      | null => exact instep_readLanguage id
      | _ => exact hgiven
    | _ => exact hgiven
  have hasked (u : Value) : boxMessages id u = (askLanguage id u >>= fun l => do
      let b ← box id
      return (← mergedMessages b.messages l, l)) := by
    cases u <;> rfl
  rw [hasked, hasked]
  refine hask.bind fun q hpq l l' hl => instep_box_bind id fun x y hxy => ?_
  refine (instep_mergedMessages hxy.messages hl).bind fun r hqr c d hcd => ?_
  exact agree_pure ⟨hcd, hl.mono hqr⟩

/-- What has been asked of a cache is seen in the log only. -/
theorem outcome_compileText_eq {a : World} {b : Box} (hb : b.markers.Combined)
    (ha : a.CachesCompiled) (text : String) :
    ∃ caches log, outcome (compileText b text) a =
        ((Template.compile b.markers text).mapError .template,
          { a with caches := caches, log := log }) ∧
      (∀ c ∈ caches, c.Compiled) ∧ noted log = noted a.log := by
  rw [compileText, outcome_note_bind]
  cases hcompile : Template.compile b.markers text with
  | error e => exact ⟨a.caches, _, rfl, ha, rfl⟩
  | ok t =>
    cases b.cache with
    | none => exact ⟨a.caches, _, rfl, ha, rfl⟩
    | some id =>
      have hset := forall_mem_setIfInBounds ha (Cache.compiled_set (ha.getD id) hb hcompile) id
      exact ⟨_, _, rfl, hset, rfl⟩

theorem outcome_template_eq {a : World} {b : Box} (hb : b.markers.Combined)
    (ha : a.CachesCompiled) (text : String) :
    ∃ caches log, outcome (template b text) a =
        ((Template.compile b.markers text).mapError .template,
          { a with caches := caches, log := log }) ∧
      (∀ c ∈ caches, c.Compiled) ∧ noted log = noted a.log := by
  unfold template
  cases b.cache with
  | none => exact outcome_compileText_eq hb ha text
  | some id =>
    dsimp only
    rw [outcome_bind_of_ok (outcome_cache id a)]
    cases hget : (a.caches[id]?.getD ⟨none, []⟩).get? text b.markers with
    | none => exact outcome_compileText_eq hb ha text
    | some t =>
      refine ⟨a.caches, a.log, ?_, ha, rfl⟩
      rw [Cache.compile_of_get? (ha.getD id) hb hget]
      rfl

/-- **A text becomes the same template, whatever lies in the caches.** -/
theorem instep_template {x y : Box} (hxy : x.Paired p y) (text : String) :
    p.InStep (fun _ => Eq) (template x text) (template y text) := by
  intro a b hab
  obtain ⟨caches, log, hout, hcaches, hlog⟩ := outcome_template_eq hxy.combined hab.left text
  obtain ⟨caches', log', hout', hcaches', hlog'⟩ :=
    outcome_template_eq (hxy.markers ▸ hxy.combined) hab.right text
  refine ⟨p, le_rfl, ?_⟩
  rw [hout, hout', hxy.markers]
  refine ⟨(hab.setCaches hcaches hcaches').setLog (hlog ▸ hlog' ▸ hab.log), ?_⟩
  cases Template.compile y.markers text with
  | ok t => exact .ok rfl
  | error e => exact .error (.template e)

theorem instep_renderContext (generic : Option String) (hv : v.Paired p w) {es es' : Entries}
    (he : p.Entries es es') :
    p.InStep Value.Paired (renderContext generic v es) (renderContext generic w es') := by
  have hstart : p.Entries [(.str "genericName", (generic.map Value.str).getD .null)]
      [(.str "genericName", (generic.map Value.str).getD .null)] := by
    refine .cons ⟨.atom rfl, ?_⟩ .nil
    cases generic <;> exact .atom rfl
  have hgiven {q : Pairing} (hpq : p ≤ q) {c c' : Entries} (hc : q.Entries c c') :=
    instep_eval (Pairing.agrees_newDict (Entries.foldl_insert_paired (he.mono hpq)
      (Entries.foldl_insert_paired hc (hstart.mono hpq))))
  refine instep_truthy_bind hv fun given => ?_
  dsimp only
  split
  · exact instep_reading_bind (fun _ _ hp => Entries.ofValue_paired hp hv) fun _ _ hc =>
      hgiven le_rfl hc
  · exact hgiven le_rfl .nil

theorem instep_fallback {name name' type type' : Value} (hn : name.Paired p name')
    (ht : type.Paired p type') (generic : Option String) :
    p.InStep Value.Paired (fallback name type generic) (fallback name' type' generic) := by
  have hnoted (text : String) : p.InStep Value.Paired
      (do
        note (.fallback name type text generic)
        return .str ((← reading (·.display name)) ++ " is invalid"))
      (do
        note (.fallback name' type' text generic)
        return .str ((← reading (·.display name')) ++ " is invalid")) := by
    refine (instep_note (.fallback hn ht text generic)).bind fun q hpq _ _ _ => ?_
    refine instep_reading_bind (fun _ _ hp => hp.display (hn.mono hpq)) ?_
    rintro text _ rfl
    exact agree_pure (.atom rfl)
  refine agree_get_bind fun a b hab => ?_
  have htext := hab.heap.display ht
  dsimp only
  generalize a.heap.display type = x, b.heap.display type' = y at htext
  cases htext with
  | ok h =>
    cases h
    exact hnoted _
  | error _ => exact hnoted ""

theorem genericName?_paired (hv : v.Paired p w) : genericName? v = genericName? w := by
  cases hv <;> rfl

theorem lookup_paired {es es' : Entries} (he : p.Entries es es') (name : String) :
    p.Optional (es.lookup (.str name)) (es'.lookup (.str name)) :=
  Keyed.find?_paired he (.atom rfl)

theorem instep_answer {x y : Box} (hxy : x.Paired p y) {r s : Request} (hr : r.Paired p s)
    {es es' : Entries} (he : p.Entries es es') {said said' : Option Value}
    (hs : p.Optional said said') :
    p.InStep Value.Paired (answer x r es said) (answer y s es' said') := by
  have hname := Pairing.optional_getD (lookup_paired he "name")
  have htype := Pairing.optional_getD (lookup_paired he "type")
  have hgeneric := genericName?_paired hname
  unfold answer
  dsimp only
  rw [← hgeneric]
  have hfallback := instep_fallback hname htype (genericName? ((es.lookup (.str "name")).getD .null))
  cases hs with
  | none => exact hfallback
  | @some v w hv =>
    have hcontext {q : Pairing} (hpq : p ≤ q) := instep_renderContext
      (genericName? ((es.lookup (.str "name")).getD .null)) (hr.context.mono hpq) (he.mono hpq)
    have hother : p.InStep Value.Paired
        (if v.isCallable then do
          let context ← renderContext (genericName? ((es.lookup (.str "name")).getD .null))
            r.context es
          let machine := (← get).bounds.machine
          eval (machine.call v ⟨[context], []⟩)
        else fallback ((es.lookup (.str "name")).getD .null) ((es.lookup (.str "type")).getD .null)
          (genericName? ((es.lookup (.str "name")).getD .null)))
        (if w.isCallable then do
          let context ← renderContext (genericName? ((es.lookup (.str "name")).getD .null))
            s.context es'
          let machine := (← get).bounds.machine
          eval (machine.call w ⟨[context], []⟩)
        else fallback ((es'.lookup (.str "name")).getD .null)
          ((es'.lookup (.str "type")).getD .null)
          (genericName? ((es.lookup (.str "name")).getD .null))) := by
      rw [hv.isCallable]
      split
      · refine (hcontext le_rfl).bind fun q hpq c d hcd => agree_get_bind fun a b hab => ?_
        have hm := hab.machine
        rw [hab.bounds] at hm ⊢
        exact instep_eval (hm.call.agrees (hv.mono hpq) ⟨.cons hcd .nil, .nil⟩)
      · exact hfallback
    cases hv with
    | atom ha =>
      cases v with
      | str text =>
        refine (instep_template hxy text).bind ?_
        rintro q hpq t _ rfl
        refine (hcontext hpq).bind fun q' hq c d hcd => agree_get_bind fun a b hab => ?_
        have hm := hab.machine
        rw [hab.bounds] at hm ⊢
        refine (instep_eval (agrees_renderTemplate hm t.nodes (.some hcd))).bind ?_
        rintro _ _ text _ rfl
        exact agree_pure (.atom rfl)
      | _ => exact hother
    | _ => exact hother

theorem preformatted?_paired {es es' : Entries} (he : p.Entries es es') :
    preformatted? es = preformatted? es' := by
  have hmessage := lookup_paired he "message"
  unfold preformatted?
  generalize es.lookup (.str "message") = x, es'.lookup (.str "message") = y at hmessage
  cases hmessage with
  | none => rfl
  | some hv => cases hv <;> rfl

theorem preformatted?_isText {es : Entries} {m : Value} (h : preformatted? es = some m) :
    m.isAtom = true := by
  unfold preformatted? at h
  split at h
  · split at h
    · cases h
    · cases h
      rfl
  · cases h

/-- **Boxes give the same message in worlds that go together.** -/
theorem instep_message (id : Nat) {r s : Request} (hr : r.Paired p s) :
    p.InStep Value.Paired (message id r) (message id s) := by
  refine instep_reading_bind (fun _ _ hp => Issue.fields_paired hp hr.issue) fun es es' he => ?_
  rw [preformatted?_paired he]
  cases hm : preformatted? es' with
  | some m => exact agree_pure (.atom (preformatted?_isText hm))
  | none =>
    have htype := Pairing.optional_getD (lookup_paired he "type")
    have hname := Pairing.optional_getD (lookup_paired he "name")
    refine (instep_boxMessages id hr.language).bind ?_
    rintro q hpq ⟨c, l⟩ ⟨c', l'⟩ ⟨hc, -⟩
    dsimp only
    rw [htype.isKey, genericName?_paired hname]
    have hsaid : q.Optional
        ((c.find? ((es.lookup (.str "type")).getD .null)).bind
          (CatalogNode.select (genericName? ((es'.lookup (.str "name")).getD .null))))
        ((c'.find? ((es'.lookup (.str "type")).getD .null)).bind
          (CatalogNode.select (genericName? ((es'.lookup (.str "name")).getD .null)))) := by
      have hfind := Catalog.find?_paired hc (htype.mono hpq)
      generalize c.find? _ = x, c'.find? _ = y at hfind
      cases hfind with
      | none => exact .none
      | some hn => exact CatalogNode.select_paired _ hn
    split
    · exact agree_throw (.fault (q.ordinary .type rfl))
    · exact instep_box_bind id fun x y hxy =>
        instep_answer hxy ⟨hr.issue.imp (Pairing.into hpq), hr.context.mono hpq,
          hr.language.mono hpq⟩ (he.mono hpq) hsaid

/-! ## Watches -/

theorem instep_graph {f g : World → Graph Watch}
    (h : ∀ a b, a.Paired p b → (f a).Paired (Watch.Paired p) (g b)) :
    p.InStep (fun _ _ _ => True) (modify fun w => { w with graph := f w } : Session PUnit)
      (modify fun w => { w with graph := g w }) :=
  agree_modify fun a b hab => ⟨p, le_rfl, hab.setGraph (h a b hab)⟩

theorem instep_runWatch (c : Nat) : p.InStep (fun _ _ _ => True) (runWatch c) (runWatch c) := by
  refine agree_get_bind fun a b hab => ?_
  have hc := hab.graph.getElem? c
  rw [hab.graph.canRun]
  generalize a.graph.computations[c]? = x, b.graph.computations[c]? = y at hc
  cases hc with
  | none => exact agree_pure trivial
  | @some k l hk =>
    dsimp only
    split
    · refine (instep_graph fun _ _ hab => hab.graph.enter c).bind fun q hpq _ _ _ => ?_
      refine Agree.tryFinally ?_ (fun _ _ _ _ _ h => h) (fun _ _ hjk _ _ he => he.mono hjk)
        fun r _ => instep_graph fun _ _ hab => hab.graph.leave
      rw [hk.body.box, hk.body.name]
      refine (instep_message _ (hk.body.request.imp (Pairing.into hpq))).bind fun r hqr v w hv => ?_
      exact agree_modify fun _ _ hab => ⟨r, le_rfl, hab.setEvents (.cons ⟨rfl, hv⟩ hab.events)⟩
    · exact agree_pure trivial

theorem instep_rerunAll (cs : List Nat) :
    p.InStep (fun _ _ _ => True) (rerunAll cs) (rerunAll cs) := by
  induction cs generalizing p with
  | nil => exact agree_pure trivial
  | cons c cs ih =>
    refine agree_get_bind fun a b hab => ?_
    rw [hab.graph.canRun]
    dsimp only
    split
    · exact (instep_graph fun _ _ hab => hab.graph.detach c).bind fun _ _ _ _ _ =>
        (instep_runWatch c).bind fun _ _ _ _ _ => ih
    · exact ih

theorem instep_newWatch {x y : Watch} (hxy : x.Paired p y) :
    p.InStep (fun _ => Eq) (newWatch x) (newWatch y) := by
  refine agree_get_bind fun a b hab => ?_
  obtain ⟨hc, hg⟩ := hab.graph.newComputation hxy
  dsimp only
  rw [hc]
  refine (agree_set (hab.setGraph hg)).bind fun _ _ _ _ _ => ?_
  exact (instep_runWatch _).bind fun _ _ _ _ _ => agree_pure rfl

theorem instep_stopWatch (c : Nat) : p.InStep (fun _ _ _ => True) (stopWatch c) (stopWatch c) :=
  instep_graph fun _ _ hab => hab.graph.stop c

/-- **Boxes are given another language alike, and the watches that run again get the same
messages.** -/
theorem instep_setLanguage (id : Nat) (hv : v.Paired p w) :
    p.InStep (fun _ _ _ => True) (setLanguage id v) (setLanguage id w) := by
  refine instep_box_bind id fun x y hxy => ?_
  have hfirst : p.InStep (fun _ _ _ => True) (setBox id { x with language := v })
      (setBox id { y with language := w }) :=
    instep_setBox id ⟨hv, hxy.markers, hxy.combined, hxy.messages, hxy.tracker⟩
  refine hfirst.bind fun q hpq _ _ _ => ?_
  rw [hxy.tracker]
  split
  · exact agree_pure trivial
  · exact instep_setBox id ⟨hv.mono hpq, hxy.markers, hxy.combined, hxy.messages.mono hpq, rfl⟩
  · next d _ =>
    refine agree_get_bind fun a b hab => ?_
    rw [hab.graph.dependentsOf]
    exact (instep_note (.dependencyChanged _)).bind fun _ _ _ _ _ => instep_rerunAll _

theorem instepFrom_addBoxMessages {a b : World} (hab : a.Paired p b) (id : Nat)
    (hs : v.SameSource p a.heap b.heap w) :
    p.InStepFrom (fun _ _ _ => True) (addBoxMessages id v) (addBoxMessages id w) a b := by
  refine instepFrom_box_bind hab id fun x y hxy => ?_
  refine (instepFrom_addMessages hab hxy.messages hs).bind fun q hpq c d hcd => ?_
  exact instep_setBox id ⟨hxy.language.mono hpq, hxy.markers, hxy.combined, hcd, hxy.tracker⟩

end Session

end Wording
