import Wording.Proofs.Catalog.Laid
import Wording.Proofs.Settings.Runs
import Wording.Proofs.Signup.Texts

/-!
# The messages of the form are complete

For whatever the rules find, in each language, the messages have a text for it, and its template is
written without failing.

* `Finding.select_source`: what the merged messages hold for a finding
* `exists_message`: the message of a box of the form for an issue
* `messages_complete`: all issues with a set of answers have messages
-/

namespace Wording

namespace Signup

/-! ## Selecting -/

/-- The messages in a language: those of the form over those of every form. -/
def messagesIn (l : Language) : Catalog :=
  (sharedMessages.below (.str l.code)).merge (formMessages.below (.str l.code))

theorem clean_sharedMessages : sharedMessages.Clean := by
  simp [sharedMessages, node, text, minCountMessage, Catalog.Clean, CatalogNode.Clean, CleanEntries,
    Value.keyEq_str]

theorem clean_formMessages : formMessages.Clean := by
  simp [formMessages, node, text, Catalog.Clean, CatalogNode.Clean, CleanEntries, Value.keyEq_str]

theorem holdsLanguage (l : Language) :
    Session.HoldsLanguage sharedMessages formMessages (.str l.code) := by
  cases l <;> constructor <;>
    simp [sharedMessages, formMessages, node, Language.code, Catalog.find?, Keyed.find?,
      Value.keyEq_str, Value.isKey]

/-- **What the merged messages hold for a finding.** -/
theorem Finding.select_source {f : Finding} (hf : f.Known) (l : Language) :
    ((messagesIn l).find? (.str f.type)).bind (CatalogNode.select (some f.generic)) =
      some (f.source l) := by
  rcases f with field | v | t | _ | i
  on_goal 1 => rcases requiredFields_cases hf with rfl | rfl | rfl
  all_goals
    cases l <;>
    simp [messagesIn, sharedMessages, formMessages, node, text, minCountMessage, Language.code,
      type, generic, name, source, englishSource, germanSource, Catalog.merge, Catalog.put,
      Keyed.put, Catalog.below, Catalog.find?, Keyed.find?, CatalogNode.select,
      CatalogNode.filled?, CatalogNode.leaf?, Catalog.defaultKey, Value.keyEq_str,
      Value.isCallable]

/-- No message is the one for fields that there is no message for: names begin with a small letter,
messages do not. -/
theorem Finding.message_ne {f : Finding} (hf : f.Known) (l : Language) :
    f.message l ≠ f.name ++ " is invalid" := by
  have hne {s t : String} (h : s.toList.head? ≠ t.toList.head?) : s ≠ t :=
    fun heq => h (congrArg (·.toList.head?) heq)
  rcases f with field | v | t | _ | i
  on_goal 1 => rcases requiredFields_cases hf with rfl | rfl | rfl
  all_goals cases l <;> exact hne (by simp [message, name, english, german, between])

/-! ## Answering -/

section

variable {f : Finding} {d : Descriptor} {h : Heap}

theorem fields_of_reported (hd : f.Reported h d) :
    Issue.fields h (.descriptor d) = .ok f.fields := by
  obtain ⟨r, rfl, hr⟩ := hd
  have hextra : Entries.ofValue h (.dict r) = .ok f.data := by
    rw [Entries.ofValue, Heap.entries, hr]
  rw [Issue.fields, hextra]
  rfl

theorem Finding.typeOf_fields (f : Finding) : Session.typeOf f.fields = .str f.type := by
  cases f <;> rfl

theorem Finding.fieldOf_fields (f : Finding) : Session.fieldOf f.fields = .str f.name := by
  cases f <;> rfl

/-- No message stands ready in an issue. -/
theorem Finding.preformatted?_fields (f : Finding) : Session.preformatted? f.fields = none := by
  cases f <;> rfl

end

section

variable {w : World} {id : Nat} {l : Language} {f : Finding} {b : Box}

/-- A box without a cache compiles each text. -/
theorem outcome_template_uncached {text : String} {t : Template} (hcache : b.cache = none)
    (ht : Template.compile b.markers text = .ok t) :
    outcome (Session.template b text) w =
      (.ok t, { w with log := .compiled text.length :: w.log }) := by
  unfold Session.template
  rw [hcache]
  dsimp only
  rw [Session.compileText, Session.outcome_note_bind, ht, hcache]
  rfl

/-- **A box that has found what the catalogs hold for a finding answers with its message.** -/
theorem exists_answer (hm : formMarkers = .ok b.markers) (hcache : b.cache = none)
    (hdepth : 0 < w.bounds.depth) (hf : f.Known) (l : Language) (issue : Issue) :
    ∃ k log, outcome (Session.answer b ⟨issue, .null, .null⟩ f.fields (some (f.source l))) w =
      (.ok (.str (f.message l)), { w with heap := k, log := log }) ∧ w.heap.Extends k := by
  obtain ⟨depth, hdepth⟩ := Nat.exists_eq_add_one.mpr hdepth
  have hmachine : w.bounds.machine = ⟨callTo w.bounds.rounds (depth + 1), w.bounds.rounds⟩ := by
    rw [Bounds.machine, hdepth]
  have hcontext (w : World) : outcome
      (Session.renderContext (genericName? (.str f.name)) .null f.fields) w =
        (.ok (.dict w.heap.cells.size),
          { w with heap := ⟨w.heap.cells.push (.dict f.context)⟩ }) :=
    Session.outcome_renderContext rfl
  have hcell : (w.heap.cells.push (.dict f.context))[w.heap.cells.size]? =
      some (.dict f.context) := Array.getElem?_push_size
  have hpush : w.heap.Extends ⟨w.heap.cells.push (.dict f.context)⟩ :=
    (Heap.Extends.refl w.heap).push _
  have hname : (f.fields.lookup (.str "name")).getD .null = .str f.name := f.fieldOf_fields
  obtain ⟨text, htext⟩ | ⟨rfl, rfl⟩ := Finding.source_cases l f
  · obtain ⟨k, hk, hext⟩ :=
      Finding.exists_renderTemplate (h := ⟨_⟩) hf hcell w.bounds.rounds depth l
    refine ⟨k, .compiled text.length :: w.log, ?_, hpush.trans hext⟩
    rw [htext, Session.answer]
    dsimp only
    have ht := outcome_template_uncached (w := w) hcache (Finding.compile_source hm l f htext)
    rw [hname, outcome_bind_of_ok ht, outcome_bind_of_ok (hcontext _), outcome_get_bind]
    dsimp only
    rw [hmachine, outcome_bind_of_ok (Session.outcome_eval_of_ok hk)]
    rfl
  · obtain ⟨k, hk, hext⟩ := Finding.exists_call_minCount (h := ⟨_⟩) hcell w.bounds.rounds depth
    refine ⟨k, w.log, ?_, hpush.trans hext⟩
    have hanswer : Session.answer b ⟨issue, .null, .null⟩ Finding.noTags.fields
        (some minCountMessage) = (do
          let context ← Session.renderContext (genericName? (.str Finding.noTags.name)) .null
            Finding.noTags.fields
          let machine := (← get).bounds.machine
          Session.eval (machine.call minCountMessage ⟨[context], []⟩)) := rfl
    refine (congrArg (outcome · w) hanswer).trans ?_
    rw [outcome_bind_of_ok (hcontext _), outcome_get_bind]
    dsimp only
    rw [hmachine]
    exact Session.outcome_eval_of_ok hk

/-! ## Boxes of the form -/

/-- The defaults with the messages of every form. -/
def sharedDefaults : Defaults := { Defaults.empty with messages := sharedMessages }

/-- A world has a box of the form for a language. -/
structure Ready (w : World) (id : Nat) (l : Language) : Prop where
  box : ∃ m d, formMarkers = .ok m ∧
    w.boxes[id]? = some ⟨.str l.code, m, formMessages, .dependency d, none⟩
  defaults : w.defaults = sharedDefaults
  depth : 0 < w.bounds.depth

/-- The language of a box of the form is read. -/
theorem exists_asked (hready : Ready w id l) : ∃ w',
    outcome (Session.askLanguage id .null) w = (.ok (.str l.code), w') ∧ Ready w' id l ∧
      w'.heap = w.heap := by
  obtain ⟨⟨m, t, hm, hbox⟩, hdefaults, hdepth⟩ := hready
  refine ⟨{ w with graph := (w.graph.depend t none).2 }, ?_, ⟨⟨m, t, hm, hbox⟩, hdefaults, hdepth⟩,
    rfl⟩
  rw [Session.askLanguage, Session.readLanguage, outcome_bind_of_ok (Session.outcome_box hbox)]
  rfl

/-- **A box of the form has a message for each issue that the rules report.** -/
theorem exists_message (hready : Ready w id l) (hf : f.Known) {d : Descriptor}
    (hd : f.Reported w.heap d) : ∃ w',
    outcome (Session.message id ⟨.descriptor d, .null, .null⟩) w =
        (.ok (.str (f.message l)), w') ∧
      Ready w' id l ∧ w.heap.Extends w'.heap := by
  obtain ⟨w₁, hasked, ⟨⟨m, t, hm, hbox⟩, hdefaults, hdepth⟩, hheap⟩ := exists_asked hready
  have hshared : w₁.defaults.messages = sharedMessages := by
    rw [hdefaults]
    rfl
  have hmessages : outcome (Session.boxMessages id .null) w =
      (.ok (messagesIn l, .str l.code), w₁) := by
    refine (Session.outcome_boxMessages hasked hbox ?_ ?_).trans ?_
    · exact hshared ▸ holdsLanguage l
    · exact hshared ▸ clean_sharedMessages
    · rw [hshared]
      rfl
  obtain ⟨k, log, hout, hext⟩ := exists_answer
    (b := ⟨.str l.code, m, formMessages, .dependency t, none⟩) hm rfl hdepth hf l (.descriptor d)
  refine ⟨{ w₁ with heap := k, log := log }, ?_, ⟨⟨m, t, hm, hbox⟩, hdefaults, hdepth⟩,
    hheap ▸ hext⟩
  have htype : (Session.typeOf f.fields).isKey = true := by
    rw [f.typeOf_fields]
    rfl
  rw [Session.outcome_message_of_boxMessages (fields_of_reported hd) f.preformatted?_fields htype
    hmessages hbox, f.typeOf_fields, f.fieldOf_fields, Finding.genericName?_name hf,
    Finding.select_source hf]
  exact hout

/-! ## Making boxes -/

theorem plain_sharedMessages : PlainEntries sharedMessages := by
  simp [sharedMessages, node, text, minCountMessage, PlainEntries, CatalogNode.Plain]

theorem plain_formMessages : PlainEntries formMessages := by
  simp [formMessages, node, text, PlainEntries, CatalogNode.Plain]

/-- Messages that are there already are not merged in twice. -/
theorem merge_sharedMessages : sharedMessages.merge sharedMessages = sharedMessages := by
  simp [sharedMessages, node, text, minCountMessage, Catalog.merge, Catalog.put, Keyed.put,
    Catalog.below, Catalog.find?, Keyed.find?, Value.keyEq_str]

/-- The messages of every form go into defaults that hold no more than they do. -/
theorem apply_sharedMessages {d : Defaults} (hd : d = .empty ∨ d = sharedDefaults) {h : Heap}
    {v : Value} (hv : (CatalogNode.node sharedMessages).LiesAt h v) :
    d.apply h { DefaultsChange.none with messages := v } = .ok (sharedDefaults, ["messages"]) := by
  have htruthy : h.truthy v = true := by
    obtain ⟨r, es, rfl, hr, hes⟩ := hv
    obtain ⟨_, _, rfl, -⟩ := hes
    rw [Heap.truthy, Heap.entries_of_cell hr]
    rfl
  have hmessages : ({ DefaultsChange.none with messages := v } : DefaultsChange).messages? h =
      .ok (some sharedMessages) := by
    rw [DefaultsChange.messages?]
    dsimp only
    rw [if_pos htruthy, Catalog.ofSource_eq hv]
  have hclean : d.messages.Clean := by
    rcases hd with rfl | rfl
    · exact Catalog.Clean.nil
    · exact clean_sharedMessages
  have hmerged : Catalog.mergeAll [] [d.messages, sharedMessages] = sharedMessages := by
    rw [Catalog.mergeAll, List.foldl_cons, List.foldl_cons, List.foldl_nil,
      Catalog.merge_nil hclean]
    rcases hd with rfl | rfl
    · exact Catalog.merge_nil clean_sharedMessages
    · exact merge_sharedMessages
  have hrest : d.language = none ∧ d.escape = none ∧ d.interpolate = none ∧ d.evaluate = none := by
    rcases hd with rfl | rfl <;> exact ⟨rfl, rfl, rfl, rfl⟩
  have happly : d.apply h { DefaultsChange.none with messages := v } =
      .ok ({ d with messages := Catalog.mergeAll [] [d.messages, sharedMessages] },
        ["messages"]) := by
    rw [Defaults.apply, hmessages]
    rfl
  rw [happly, hmerged]
  obtain ⟨language, escape, interpolate, evaluate, messages⟩ := d
  obtain ⟨rfl, rfl, rfl, rfl⟩ := hrest
  rfl

/-- The language that is given to a box of the form is its first one. -/
theorem outcome_initialLanguage (w : World) (l : Language) :
    outcome (Session.initialLanguage (.str l.code)) w = (.ok (.str l.code), w) := by
  cases l <;> rfl

theorem exists_formMarkers : ∃ m, formMarkers = .ok m := exists_eq_ok (by decide +kernel)

/-- **A box for the form is made over defaults that hold no more than it needs.** -/
theorem exists_newBox (hd : w.defaults = .empty ∨ w.defaults = sharedDefaults)
    (hdepth : 0 < w.bounds.depth) (l : Language) : ∃ id w',
    outcome (newBox (.str l.code)) w = (.ok id, w') ∧ Ready w' id l ∧
      w.heap.Extends w'.heap := by
  obtain ⟨shared, h₁, hshared, hext₁, hlies⟩ :=
    Catalog.exists_toDict_lies plain_sharedMessages w.heap
  obtain ⟨log, hdefaults⟩ := Session.exists_outcome_applyDefaults
    (w := { w with heap := h₁ }) (apply_sharedMessages hd hlies)
  obtain ⟨own, h₂, hown, hext₂, hliesOwn⟩ := Catalog.exists_toDict_lies plain_formMessages h₁
  obtain ⟨m, hm⟩ := exists_formMarkers
  let w₁ : World := { w with heap := h₂, defaults := sharedDefaults, log := log }
  let b : Box := ⟨.str l.code, m, formMessages, .dependency w.graph.newDependency.1, none⟩
  have hbox : outcome (Session.makeBox ⟨.absent, .absent, Marker.hashBraces, .str l.code, own,
      .dependency, none⟩) w₁ = (.ok b, { w₁ with graph := w.graph.newDependency.2 }) := by
    have hmarkers : Markers.ofOffers
        (MarkerOffer.absent.orElse ((sharedDefaults.offer .escape).orElse Marker.doubleBraces))
        (MarkerOffer.absent.orElse ((sharedDefaults.offer .interpolate).orElse Marker.tripleBraces))
        (Marker.hashBraces.orElse (sharedDefaults.offer .evaluate)) = .ok m := hm
    have hstore : outcome (Session.newStore own) w₁ = (.ok formMessages, w₁) := by
      rw [Session.newStore,
        outcome_bind_of_ok (Session.outcome_reading (Catalog.ofSource_eq hliesOwn)),
        Catalog.merge_nil clean_formMessages]
      rfl
    rw [Session.makeBox, outcome_get_bind]
    dsimp only
    rw [outcome_bind_of_ok (outcome_initialLanguage w₁ l), hmarkers]
    dsimp only
    rw [pure_bind, outcome_bind_of_ok hstore]
    rfl
  refine ⟨w.boxes.size, { w₁ with graph := w.graph.newDependency.2, boxes := w.boxes.push b }, ?_,
    ⟨⟨m, _, hm, Array.getElem?_push_size⟩, rfl, hdepth⟩, hext₁.trans hext₂⟩
  rw [newBox, outcome_bind_of_ok (Session.outcome_eval_of_ok hshared), outcome_bind_of_ok hdefaults,
    outcome_bind_of_ok (Session.outcome_eval_of_ok hown), Session.newBox, outcome_bind_of_ok hbox]
  rfl

/-! ## Messages by field -/

/-- The messages for findings by field. -/
def saidOf (l : Language) (fs : List Finding) : List (Value × List Value) :=
  fs.map fun f => (.str f.name, [.str (f.message l)])

theorem addMessage_of_new {field v : Value} {acc : List (Value × List Value)}
    (h : ∀ e ∈ acc, e.1.keyEq field = false) : addMessage field v acc = acc ++ [(field, [v])] := by
  induction acc with
  | nil => rfl
  | cons e acc ih =>
    obtain ⟨he, hacc⟩ := List.forall_mem_cons.mp h
    rw [addMessage, if_neg (Bool.eq_false_iff.mp he), ih hacc, List.cons_append]

/-- No field has the empty name. -/
theorem outcome_shownAt (hf : f.Known) {d : Descriptor} (hd : f.Reported w.heap d) :
    outcome (shownAt d) w = (.ok (.str f.name), w) := by
  obtain ⟨r, rfl, -⟩ := hd
  have htruthy : w.heap.truthy (.str f.name) = true := by
    rcases f with field | v | t | _ | i
    on_goal 1 => rcases Finding.requiredFields_cases hf with rfl | rfl | rfl
    all_goals simp [Heap.truthy, Finding.name]
  have hread : outcome (Session.truthy (.str f.name)) w = (.ok true, w) := by
    rw [← htruthy]
    rfl
  rw [shownAt, outcome_bind_of_ok hread]
  rfl

/-- **Each issue is answered at its field**, in the order of the issues. -/
theorem exists_render {fs : List Finding} {ds : List Descriptor} (hready : Ready w id l)
    (hds : List.Forall₂ (fun f d => f.Reported w.heap d) fs ds) (hknown : ∀ f ∈ fs, f.Known)
    (past : List Finding) (hnames : ((past ++ fs).map (·.name)).Nodup) : ∃ w',
    outcome (render id (saidOf l past) ds) w = (.ok (saidOf l (past ++ fs)), w') ∧ Ready w' id l ∧
      w.heap.Extends w'.heap := by
  induction fs generalizing past w ds with
  | nil =>
    cases hds
    exact ⟨w, by rw [render, List.append_nil]; rfl, hready, .refl _⟩
  | cons f fs ih =>
    obtain ⟨hf, hknown⟩ := List.forall_mem_cons.mp hknown
    cases hds with
    | @cons _ d _ ds hd hds =>
      obtain ⟨w₁, hmessage, hready₁, hext⟩ := exists_message hready hf hd
      have hnew : ∀ e ∈ saidOf l past, e.1.keyEq (.str f.name) = false := by
        intro e he
        obtain ⟨g, hg, rfl⟩ := List.mem_map.mp he
        have hne : g.name ≠ f.name := by
          rw [List.map_append, List.nodup_append] at hnames
          exact hnames.2.2 _ (List.mem_map_of_mem hg) _ (List.mem_cons_self ..)
        simpa [Value.keyEq_str] using hne
      have happend : saidOf l past ++ [(.str f.name, [.str (f.message l)])] =
          saidOf l (past ++ [f]) := by
        rw [saidOf, saidOf, List.map_append]
        rfl
      rw [List.append_cons] at hnames ⊢
      obtain ⟨w₂, hrest, hready₂, hext₂⟩ :=
        ih hready₁ (hds.imp fun _ _ h => h.mono hext) hknown _ hnames
      refine ⟨w₂, ?_, hready₂, hext.trans hext₂⟩
      rw [render, outcome_bind_of_ok (outcome_shownAt hf hd), outcome_bind_of_ok hmessage,
        addMessage_of_new hnew, happend]
      exact hrest

/-- An entry has a list of what is said of a field. -/
def Listed (h : Heap) (m : Value × List Value) (e : Value × Value) : Prop :=
  e.1 = m.1 ∧ ∃ r, e.2 = .list r ∧ h.cells[r]? = some (.list m.2.toArray)

theorem Listed.mono {h k : Heap} {m : Value × List Value} {e : Value × Value} (he : Listed h m e)
    (hk : h.Extends k) : Listed k m e := by
  obtain ⟨hkey, r, hlist, hr⟩ := he
  exact ⟨hkey, r, hlist, hk.cell hr⟩

/-- A new list for each field. -/
theorem exists_lists (ms : List (Value × List Value)) (w : World) : ∃ es k,
    outcome (ms.mapM fun (key, vs) => do
        return (key, ← Session.eval (Eval.newList vs))) w = (.ok es, { w with heap := k }) ∧
      w.heap.Extends k ∧ List.Forall₂ (Listed k) ms es := by
  induction ms generalizing w with
  | nil => exact ⟨[], w.heap, rfl, .refl _, .nil⟩
  | cons m ms ih =>
    have hpush : w.heap.Extends ⟨w.heap.cells.push (.list m.2.toArray)⟩ :=
      (Heap.Extends.refl w.heap).push _
    have hnew : outcome (Session.eval (Eval.newList m.2)) w = (.ok (.list w.heap.cells.size),
        { w with heap := ⟨w.heap.cells.push (.list m.2.toArray)⟩ }) :=
      Session.outcome_eval_of_ok rfl
    obtain ⟨es, k, hes, hext, hlists⟩ :=
      ih { w with heap := ⟨w.heap.cells.push (.list m.2.toArray)⟩ }
    refine ⟨(m.1, .list w.heap.cells.size) :: es, k, ?_, hpush.trans hext,
      .cons ⟨rfl, _, rfl, hext.cell Array.getElem?_push_size⟩ hlists⟩
    rw [List.mapM_cons, bind_assoc, outcome_bind_of_ok hnew, pure_bind, outcome_bind_of_ok hes]
    rfl

end

/-- An entry answers an issue: at the name of its field, there is a list with one text, and not the
one for fields that there is no message for. -/
structure Answered (h : Heap) (d : Descriptor) (e : Value × Value) : Prop where
  key : e.1 = d.name
  message : ∃ name r m, d.name = .str name ∧ e.2 = .list r ∧
    h.cells[r]? = some (.list #[.str m]) ∧ m ≠ name ++ " is invalid"

/-- A dictionary answers issues, in their order, and has nothing else. -/
def AllAnswered (h : Heap) (ds : List Descriptor) (v : Value) : Prop :=
  ∃ r es, v = .dict r ∧ h.cells[r]? = some (.dict es) ∧ List.Forall₂ (Answered h) ds es

section

variable {w : World} {id : Nat} {l : Language} {fs : List Finding} {ds : List Descriptor}

theorem AllAnswered.mono {h k : Heap} {v : Value} (hv : AllAnswered h ds v) (hk : h.Extends k) :
    AllAnswered k ds v := by
  obtain ⟨r, es, rfl, hr, hes⟩ := hv
  refine ⟨r, es, rfl, hk.cell hr, hes.imp fun d e hd => ⟨hd.key, ?_⟩⟩
  obtain ⟨name, r, m, hname, hr, hm, hne⟩ := hd.message
  exact ⟨name, r, m, hname, hr, hk.cell hm, hne⟩

theorem map_name_of_reported {h : Heap} (hds : List.Forall₂ (fun f d => f.Reported h d) fs ds) :
    ds.map (·.name) = (fs.map (·.name)).map .str := by
  induction hds with
  | nil => rfl
  | cons hd _ ih =>
    obtain ⟨-, rfl, -⟩ := hd
    rw [List.map_cons, List.map_cons, List.map_cons, ih]

theorem forall₂_answered {h k : Heap} {es : Entries}
    (hds : List.Forall₂ (fun f d => f.Reported h d) fs ds) (hknown : ∀ f ∈ fs, f.Known)
    (hes : List.Forall₂ (Listed k) (saidOf l fs) es) : List.Forall₂ (Answered k) ds es := by
  induction hds generalizing es with
  | nil =>
    cases hes
    exact .nil
  | @cons f d fs ds hd _ ih =>
    obtain ⟨hf, hknown⟩ := List.forall_mem_cons.mp hknown
    cases hes with
    | cons he hes =>
      obtain ⟨-, rfl, -⟩ := hd
      obtain ⟨hkey, r, hlist, hr⟩ := he
      exact .cons ⟨hkey, f.name, r, f.message l, rfl, hlist, hr, f.message_ne hf l⟩ (ih hknown hes)

/-- **A box of the form answers all issues that the rules report.** -/
theorem exists_renderToDict (hready : Ready w id l)
    (hds : List.Forall₂ (fun f d => f.Reported w.heap d) fs ds) (hknown : ∀ f ∈ fs, f.Known)
    (hnames : (fs.map (·.name)).Nodup) : ∃ v w',
    outcome (renderToDict id ds) w = (.ok v, w') ∧ Ready w' id l ∧ w.heap.Extends w'.heap ∧
      AllAnswered w'.heap ds v := by
  obtain ⟨w₁, hrender, hready₁, hext₁⟩ := exists_render hready hds hknown [] hnames
  obtain ⟨es, k, hlists, hext₂, hes⟩ := exists_lists (saidOf l fs) w₁
  have hpush : k.Extends ⟨k.cells.push (.dict es)⟩ := (Heap.Extends.refl k).push _
  have hdict : outcome (Session.eval (Eval.newDict es)) { w₁ with heap := k } =
      (.ok (.dict k.cells.size), { w₁ with heap := ⟨k.cells.push (.dict es)⟩ }) :=
    Session.outcome_eval_of_ok rfl
  have hanswered : AllAnswered ⟨k.cells.push (.dict es)⟩ ds (.dict k.cells.size) :=
    ⟨_, es, rfl, Array.getElem?_push_size,
      forall₂_answered hds hknown (hes.imp fun _ _ he => he.mono hpush)⟩
  refine ⟨_, { w₁ with heap := ⟨k.cells.push (.dict es)⟩ }, ?_,
    ⟨hready₁.box, hready₁.defaults, hready₁.depth⟩, (hext₁.trans hext₂).trans hpush, hanswered⟩
  refine (outcome_bind_of_ok hrender).trans ?_
  rw [toDict]
  exact (outcome_bind_of_ok hlists).trans hdict

/-- Boxes for any languages answer all issues, one after the other. -/
theorem exists_rendered_in (ls : List Language)
    (hdefaults : w.defaults = .empty ∨ w.defaults = sharedDefaults) (hdepth : 0 < w.bounds.depth)
    (hds : List.Forall₂ (fun f d => f.Reported w.heap d) fs ds) (hknown : ∀ f ∈ fs, f.Known)
    (hnames : (fs.map (·.name)).Nodup) : ∃ vs w',
    outcome (ls.mapM fun l => do renderToDict (← newBox (.str l.code)) ds) w = (.ok vs, w') ∧
      w.heap.Extends w'.heap ∧ vs.length = ls.length ∧ ∀ v ∈ vs, AllAnswered w'.heap ds v := by
  induction ls generalizing w with
  | nil => exact ⟨[], w, rfl, .refl _, rfl, List.forall_mem_nil _⟩
  | cons l ls ih =>
    obtain ⟨id, w₁, hbox, hready, hext₁⟩ := exists_newBox hdefaults hdepth l
    obtain ⟨v, w₂, hrender, hready₂, hext₂, hv⟩ :=
      exists_renderToDict hready (hds.imp fun _ _ h => h.mono hext₁) hknown hnames
    obtain ⟨vs, w₃, hrest, hext₃, hlength, hvs⟩ := ih (.inr hready₂.defaults) hready₂.depth
      (hds.imp fun _ _ h => h.mono (hext₁.trans hext₂))
    refine ⟨v :: vs, w₃, ?_, (hext₁.trans hext₂).trans hext₃, congrArg (· + 1) hlength,
      List.forall_mem_cons.mpr ⟨hv.mono hext₃, hvs⟩⟩
    have hhead : outcome (do renderToDict (← newBox (.str l.code)) ds) w = (.ok v, w₂) :=
      (outcome_bind_of_ok hbox).trans hrender
    rw [List.mapM_cons, outcome_bind_of_ok hhead, outcome_bind_of_ok hrest]
    rfl

/-- **The messages of the form are complete.** Over empty defaults, whatever the answers are that
the rules go through with, no two issues are about one field, and boxes for any languages, one after
the other, answer all of them. The templates make calls, but none within another: a depth of one is
enough. -/
theorem messages_complete {w w' : World} {answers : Value} {issues : List Descriptor}
    (hdefaults : w.defaults = .empty) (hdepth : 0 < w.bounds.depth) (hclosed : w.heap.Closed)
    (hanswers : answers.In fun r : Nat => r < w.heap.cells.size)
    (hvalid : outcome (Session.eval (validate answers)) w = (.ok issues, w')) :
    (issues.map (·.name)).Nodup ∧ ∀ ls : List Language, ∃ vs w'',
      outcome (ls.mapM fun l => do renderToDict (← newBox (.str l.code)) issues) w' =
          (.ok vs, w'') ∧
        vs.length = ls.length ∧ ∀ v ∈ vs, AllAnswered w''.heap issues v := by
  obtain ⟨k, hrun, rfl⟩ : ∃ k, outcome (validate answers) w.heap = (.ok issues, k) ∧
      w' = { w with heap := k } := by
    rw [Session.outcome_eval] at hvalid
    rw [outcome]
    cases hresult : (validate answers).run w.heap with
    | mk result k =>
      rw [hresult] at hvalid
      cases result <;> cases hvalid
      exact ⟨k, hresult, rfl⟩
  obtain ⟨fs, hreports, hknown, hnames⟩ := exists_findings hclosed hanswers hrun
  refine ⟨?_, fun ls => ?_⟩
  · rw [map_name_of_reported hreports.reported]
    exact hnames.map fun _ _ => Value.str.inj
  · obtain ⟨vs, w'', hout, -, hlength, hvs⟩ := exists_rendered_in (w := { w with heap := k }) ls
      (.inl hdefaults) hdepth hreports.reported hknown hnames
    exact ⟨vs, w'', hout, hlength, hvs⟩

end

/-- A world with the answers of the sample, and nothing else. -/
def sampleWorld : World :=
  { World.start ⟨1, 1⟩ with
    heap := ⟨#[.list #[.str "python", .str ""],
      .dict [(.str "username", .str "al"), (.str "email", .str "al@example"),
        (.str "tags", .list 0)]]⟩ }

theorem sampleWorld_closed : sampleWorld.heap.Closed := by
  intro r c hc
  obtain ⟨hr, rfl⟩ := Array.getElem?_eq_some_iff.mp hc
  match r, hr with
  | 0, _ =>
    refine .list fun v hv => ?_
    obtain rfl | rfl : v = .str "python" ∨ v = .str "" := by simpa [sampleWorld] using hv
    · exact .atom rfl
    · exact .atom rfl
  | 1, _ =>
    refine .dict fun e he => ?_
    obtain rfl | rfl | rfl : e = (.str "username", .str "al") ∨
        e = (.str "email", .str "al@example") ∨ e = (.str "tags", .list 0) := by
      simpa [sampleWorld] using he
    · exact ⟨.atom rfl, .atom rfl⟩
    · exact ⟨.atom rfl, .atom rfl⟩
    · exact ⟨.atom rfl, .list (by decide)⟩

/-- There are issues with four fields of the sample; both languages have messages for them. -/
theorem messages_complete_sample : ∃ issues w' vs w'',
    outcome (Session.eval (validate (.dict 1))) sampleWorld = (.ok issues, w') ∧
      issues.length = 4 ∧ (issues.map (·.name)).Nodup ∧
      outcome ([Language.en, .de].mapM fun l => do renderToDict (← newBox (.str l.code)) issues)
        w' = (.ok vs, w'') ∧
      vs.length = 2 ∧ ∀ v ∈ vs, AllAnswered w''.heap issues v := by
  have hfour : ((outcome (Session.eval (validate (.dict 1))) sampleWorld).1.toOption.map
      List.length) = some 4 := by decide +kernel
  cases hvalid : outcome (Session.eval (validate (.dict 1))) sampleWorld with
  | mk result w' =>
    rw [hvalid] at hfour
    cases result with
    | error e => cases hfour
    | ok issues =>
      obtain ⟨hnames, hall⟩ := messages_complete rfl (by decide) sampleWorld_closed
        (.dict (by decide)) hvalid
      obtain ⟨vs, w'', hout, hlength, hvs⟩ := hall [.en, .de]
      exact ⟨issues, w', vs, w'', rfl, Option.some.inj hfour, hnames, hout, hlength, hvs⟩

end Signup

end Wording
