import Wording.Box.Basic
import Wording.Proofs.Box.Answers
import Wording.Proofs.Paired.Catalog
import Wording.Proofs.Paired.Render

/-!
# Worlds that go together

Worlds go together if they have the same boxes, with the same markers and with languages and catalogs
that go together, under defaults that do, and if their reactive graphs run alike. Nothing is asked of
the caches that boxes use, but that they hold what would be compiled: whether a template lies in one
is not seen in what boxes answer, only in the log. So of the log all goes together but what has been
compiled.

* `Issue.fields_paired`: the fields of issues
* `Graph.Paired`: reactive graphs with computations that go together
* `World.Paired`: worlds, with one lemma for each change of them
-/

namespace Wording

variable {p q : Pairing} {h h' : Heap} {v w : Value}

/-! ## Issues -/

namespace Entries

variable {es es' : Entries}

theorem ofPair_paired (hp : h.Paired p h') (hv : v.Paired p w) :
    p.Alike (fun d e => d.1.Paired p e.1 ∧ d.2.Paired p e.2) (ofPair h v) (ofPair h' w) := by
  refine (hp.elements hv).bind fun vs ws hvs => ?_
  obtain _ | ⟨hk, _ | ⟨hx, _ | ⟨_, _⟩⟩⟩ := hvs
  · exact Pairing.alike_error rfl
  · exact Pairing.alike_error rfl
  · dsimp only
    rw [hk.isKey]
    split
    · exact .ok ⟨hk, hx⟩
    · exact Pairing.alike_error rfl
  · exact Pairing.alike_error rfl

theorem ofPairs_paired (hp : h.Paired p h') {acc acc' : Entries} (hacc : p.Entries acc acc')
    {vs ws : List Value} (hvs : p.Values vs ws) :
    p.Alike p.Entries (ofPairs h acc vs) (ofPairs h' acc' ws) := by
  induction hvs generalizing acc acc' with
  | nil => exact .ok hacc
  | cons hv _ ih =>
    refine (ofPair_paired hp hv).bind ?_
    rintro ⟨k, x⟩ ⟨k', x'⟩ ⟨hk, hx⟩
    exact ih (Keyed.put_paired hacc hk hx)

theorem ofValue_paired (hp : h.Paired p h') (hv : v.Paired p w) :
    p.Alike p.Entries (ofValue h v) (ofValue h' w) := by
  have hpairs : p.Alike p.Entries (do ofPairs h [] (← h.elements v))
      (do ofPairs h' [] (← h'.elements w)) :=
    (hp.elements hv).bind fun _ _ hvs => ofPairs_paired hp .nil hvs
  cases hv with
  | dict hr => exact .ok (hp.entries hr)
  | atom ha =>
    cases v with
    | dict r => cases ha
    | _ => exact hpairs
  | _ => exact hpairs

end Entries

/-- Issues with parts that go together. -/
inductive Issue.Paired (p : Pairing) : Issue → Issue → Prop
  | value {v w : Value} (h : v.Paired p w) : Paired p (.value v) (.value w)
  | descriptor {d d' : Descriptor} (hname : d.name.Paired p d'.name)
      (htype : d.type.Paired p d'.type) (hmessage : d.message.Paired p d'.message)
      (hextra : d.extra.Paired p d'.extra) : Paired p (.descriptor d) (.descriptor d')

theorem Issue.Paired.imp (hpq : p.Into q) {i j : Issue} (h : i.Paired p j) : i.Paired q j := by
  cases h with
  | value h => exact .value (h.imp hpq)
  | descriptor hname htype hmessage hextra =>
    exact .descriptor (hname.imp hpq) (htype.imp hpq) (hmessage.imp hpq) (hextra.imp hpq)

theorem Issue.fields_paired (hp : h.Paired p h') {i j : Issue} (hi : i.Paired p j) :
    p.Alike p.Entries (i.fields h) (j.fields h') := by
  cases hi with
  | value hv => exact Entries.ofValue_paired hp hv
  | @descriptor d d' hname htype hmessage hextra =>
    refine (Entries.ofValue_paired hp hextra).bind fun extra extra' hextra => ?_
    have hes := Keyed.put_paired (Keyed.put_paired hextra (k := .str "name") (.atom rfl) hname)
      (k := .str "type") (.atom rfl) htype
    have hput := Keyed.put_paired hes (k := .str "message") (.atom rfl) hmessage
    obtain ⟨name, type, message, extra⟩ := d
    obtain ⟨name', type', message', extra'⟩ := d'
    dsimp only at hmessage hput ⊢
    cases hmessage with
    | atom ha =>
      cases message with
      | null => exact .ok hes
      | _ => exact .ok hput
    | _ => exact .ok hput

/-- What is asked of boxes goes together. -/
structure Request.Paired (p : Pairing) (r s : Request) : Prop where
  issue : r.issue.Paired p s.issue
  context : r.context.Paired p s.context
  language : r.language.Paired p s.language

theorem Request.Paired.imp (hpq : p.Into q) {r s : Request} (h : r.Paired p s) : r.Paired q s :=
  ⟨h.issue.imp hpq, h.context.imp hpq, h.language.imp hpq⟩

structure Watch.Paired (p : Pairing) (a b : Watch) : Prop where
  name : a.name = b.name
  box : a.box = b.box
  request : a.request.Paired p b.request

theorem Watch.Paired.imp (hpq : p.Into q) {a b : Watch} (h : a.Paired p b) : a.Paired q b :=
  ⟨h.name, h.box, h.request.imp hpq⟩

/-! ## Reactive graphs -/

section

variable {β β' : Type} {R R' : β → β' → Prop}

theorem forall₂_modify {xs : List β} {ys : List β'} {f : β → β} {g : β' → β'}
    (h : List.Forall₂ R xs ys) (hf : ∀ a b, R a b → R (f a) (g b)) (i : Nat) :
    List.Forall₂ R (xs.modify i f) (ys.modify i g) := by
  induction h generalizing i with
  | nil =>
    rw [List.modify_nil, List.modify_nil]
    exact .nil
  | cons h hs ih =>
    cases i with
    | zero => exact .cons (hf _ _ h) hs
    | succ i =>
      rw [List.modify_succ_cons, List.modify_succ_cons]
      exact .cons h (ih i)

/-- Computations that the graph knows the same of. -/
structure Computation.Paired (R : β → β' → Prop) (k : Computation β) (l : Computation β') : Prop where
  body : R k.body l.body
  runs : k.runs = l.runs
  running : k.running = l.running
  stopped : k.stopped = l.stopped
  dependencies : k.dependencies = l.dependencies

/-- Graphs that differ in nothing but in what their computations do, which goes together. -/
structure Graph.Paired (R : β → β' → Prop) (g : Graph β) (g' : Graph β') : Prop where
  dependents : g.dependents = g'.dependents
  computations : List.Forall₂ (Computation.Paired R) g.computations.toList g'.computations.toList
  stack : g.stack = g'.stack

namespace Graph.Paired

variable {g : Graph β} {g' : Graph β'}

theorem imp (hR : ∀ b b', R b b' → R' b b') (h : g.Paired R g') : g.Paired R' g' :=
  ⟨h.dependents, h.computations.imp fun _ _ hk =>
    ⟨hR _ _ hk.body, hk.runs, hk.running, hk.stopped, hk.dependencies⟩, h.stack⟩

theorem size (h : g.Paired R g') : g.computations.size = g'.computations.size :=
  h.computations.length_eq

theorem getElem? (h : g.Paired R g') (c : Nat) :
    Option.Rel (Computation.Paired R) g.computations[c]? g'.computations[c]? := by
  have hc := getElem?_of_forall₂ h.computations c
  rwa [Array.getElem?_toList, Array.getElem?_toList] at hc

theorem dependentsOf (h : g.Paired R g') (d : Nat) : g.dependentsOf d = g'.dependentsOf d := by
  rw [Graph.dependentsOf, Graph.dependentsOf, h.dependents]

theorem dependenciesOf (h : g.Paired R g') (c : Nat) : g.dependenciesOf c = g'.dependenciesOf c := by
  have hc := h.getElem? c
  unfold Graph.dependenciesOf
  generalize g.computations[c]? = x, g'.computations[c]? = y at hc
  cases hc with
  | none => rfl
  | some hk => exact hk.dependencies

theorem runsOf (h : g.Paired R g') (c : Nat) : g.runsOf c = g'.runsOf c := by
  have hc := h.getElem? c
  unfold Graph.runsOf
  generalize g.computations[c]? = x, g'.computations[c]? = y at hc
  cases hc with
  | none => rfl
  | some hk => exact hk.runs

theorem canRun (h : g.Paired R g') (c : Nat) : g.canRun c = g'.canRun c := by
  have hc := h.getElem? c
  unfold Graph.canRun Graph.isStopped Graph.isRunning
  rw [h.size]
  generalize g.computations[c]? = x, g'.computations[c]? = y at hc
  cases hc with
  | none => rfl
  | some hk =>
    dsimp only [Option.any]
    rw [hk.stopped, hk.running]

theorem modify (h : g.Paired R g') (c : Nat) {f : Computation β → Computation β}
    {e : Computation β' → Computation β'} (hf : ∀ k l, k.Paired R l → (f k).Paired R (e l)) :
    (g.modify c f).Paired R (g'.modify c e) := by
  refine ⟨h.dependents, ?_, h.stack⟩
  show List.Forall₂ _ (g.computations.modify c f).toList (g'.computations.modify c e).toList
  rw [Array.toList_modify, Array.toList_modify]
  exact forall₂_modify h.computations hf c

theorem link (h : g.Paired R g') (d c : Nat) : (g.link d c).Paired R (g'.link d c) := by
  unfold Graph.link
  rw [h.dependentsOf, h.dependents]
  split
  · exact h
  · have hlinked : Graph.Paired R { g with dependents := g'.dependents.modify d (· ++ [c]) }
        { g' with dependents := g'.dependents.modify d (· ++ [c]) } :=
      ⟨rfl, h.computations, h.stack⟩
    exact hlinked.modify c fun _ _ hk => ⟨hk.body, hk.runs, hk.running, hk.stopped,
      congrArg (append · d) hk.dependencies⟩

theorem depend (h : g.Paired R g') (d : Nat) (c : Option Nat) :
    (g.depend d c).2.Paired R (g'.depend d c).2 := by
  unfold Graph.depend Graph.active?
  rw [h.stack]
  cases c.or g'.stack.head? with
  | none => exact h
  | some c => exact h.link d c

theorem detach (h : g.Paired R g') (c : Nat) : (g.detach c).Paired R (g'.detach c) := by
  unfold Graph.detach
  rw [h.dependenciesOf, h.dependents]
  have hdetached (ds : Array (List Nat)) :
      Graph.Paired R { g with dependents := ds } { g' with dependents := ds } :=
    ⟨rfl, h.computations, h.stack⟩
  exact (hdetached _).modify c (f := fun k => { k with dependencies := [] })
    (e := fun k => { k with dependencies := [] })
    fun _ _ hk => ⟨hk.body, hk.runs, hk.running, hk.stopped, rfl⟩

theorem stop (h : g.Paired R g') (c : Nat) : (g.stop c).Paired R (g'.stop c) :=
  (h.modify c (f := fun k => { k with stopped := true }) (e := fun k => { k with stopped := true })
    fun _ _ hk => ⟨hk.body, hk.runs, hk.running, rfl, hk.dependencies⟩).detach c

theorem enter (h : g.Paired R g') (c : Nat) : (g.enter c).Paired R (g'.enter c) := by
  have hmodify := h.modify c (f := fun k => { k with runs := k.runs + 1, running := true })
    (e := fun k => { k with runs := k.runs + 1, running := true })
    fun _ _ hk => ⟨hk.body, congrArg (· + 1) hk.runs, rfl, hk.stopped, hk.dependencies⟩
  exact ⟨hmodify.dependents, hmodify.computations, congrArg (c :: ·) h.stack⟩

theorem leave (h : g.Paired R g') : g.leave.Paired R g'.leave := by
  unfold Graph.leave
  rw [h.stack]
  cases g'.stack with
  | nil => exact h
  | cons c rest =>
    have hmodify := h.modify c (f := fun k => { k with running := false })
      (e := fun k => { k with running := false })
      fun _ _ hk => ⟨hk.body, hk.runs, rfl, hk.stopped, hk.dependencies⟩
    exact ⟨hmodify.dependents, hmodify.computations, rfl⟩

theorem newDependency (h : g.Paired R g') :
    g.newDependency.1 = g'.newDependency.1 ∧ g.newDependency.2.Paired R g'.newDependency.2 := by
  unfold Graph.newDependency
  rw [h.dependents]
  exact ⟨rfl, rfl, h.computations, h.stack⟩

theorem newComputation (h : g.Paired R g') {b : β} {b' : β'} (hb : R b b') :
    (g.newComputation b).1 = (g'.newComputation b').1 ∧
      (g.newComputation b).2.Paired R (g'.newComputation b').2 := by
  refine ⟨h.size, h.dependents, ?_, h.stack⟩
  show List.Forall₂ _ (g.computations.push _).toList (g'.computations.push _).toList
  rw [Array.toList_push, Array.toList_push]
  exact List.rel_append h.computations (.cons ⟨hb, rfl, rfl, rfl, rfl⟩ .nil)

end Graph.Paired

end

/-! ## The log -/

/-- Events of the log that go together; that a template has been compiled is no such event. -/
inductive LogEvent.Paired (p : Pairing) : LogEvent → LogEvent → Prop
  | dependencyChanged (n : Nat) : Paired p (.dependencyChanged n) (.dependencyChanged n)
  | defaultsChanged (names : List String) (language : Option String) :
      Paired p (.defaultsChanged names language) (.defaultsChanged names language)
  | fallback {f t f' t' : Value} (hf : f.Paired p f') (ht : t.Paired p t') (type : String)
      (generic : Option String) : Paired p (.fallback f t type generic) (.fallback f' t' type generic)

theorem LogEvent.Paired.imp (hpq : p.Into q) {a b : LogEvent} (h : a.Paired p b) :
    a.Paired q b := by
  cases h with
  | dependencyChanged n => exact .dependencyChanged n
  | defaultsChanged names language => exact .defaultsChanged names language
  | fallback hf ht type generic => exact .fallback (hf.imp hpq) (ht.imp hpq) type generic

def LogEvent.isCompiled : LogEvent → Bool
  | .compiled _ => true
  | _ => false

/-- What a log says besides what has been compiled. -/
def noted (log : List LogEvent) : List LogEvent := log.filter fun e => !e.isCompiled

theorem LogEvent.Paired.noted {a b : LogEvent} {l l' : List LogEvent} (h : a.Paired p b)
    (hl : List.Forall₂ (LogEvent.Paired p) (noted l) (noted l')) :
    List.Forall₂ (LogEvent.Paired p) (Wording.noted (a :: l)) (Wording.noted (b :: l')) := by
  cases h with
  | dependencyChanged n => exact .cons (.dependencyChanged n) hl
  | defaultsChanged names language => exact .cons (.defaultsChanged names language) hl
  | fallback hf ht type generic => exact .cons (.fallback hf ht type generic) hl

/-! ## Boxes and worlds -/

structure Defaults.Paired (p : Pairing) (d d' : Defaults) : Prop where
  language : d.language = d'.language
  escape : d.escape = d'.escape
  interpolate : d.interpolate = d'.interpolate
  evaluate : d.evaluate = d'.evaluate
  messages : d.messages.Paired p d'.messages

theorem Defaults.Paired.imp (hpq : p.Into q) {d d' : Defaults} (h : d.Paired p d') : d.Paired q d' :=
  ⟨h.language, h.escape, h.interpolate, h.evaluate, h.messages.imp hpq⟩

/-- Boxes with the same markers and trackers, whatever caches they use. -/
structure Box.Paired (p : Pairing) (b b' : Box) : Prop where
  language : b.language.Paired p b'.language
  markers : b.markers = b'.markers
  combined : b.markers.Combined
  messages : b.messages.Paired p b'.messages
  tracker : b.tracker = b'.tracker

theorem Box.Paired.imp (hpq : p.Into q) {b b' : Box} (h : b.Paired p b') : b.Paired q b' :=
  ⟨h.language.imp hpq, h.markers, h.combined, h.messages.imp hpq, h.tracker⟩

/-- Worlds that differ in nothing that boxes answer with. -/
structure World.Paired (p : Pairing) (a b : World) : Prop where
  bounds : a.bounds = b.bounds
  heap : a.heap.Paired p b.heap
  defaults : a.defaults.Paired p b.defaults
  boxes : List.Forall₂ (Box.Paired p) a.boxes.toList b.boxes.toList
  graph : a.graph.Paired (Watch.Paired p) b.graph
  log : List.Forall₂ (LogEvent.Paired p) (noted a.log) (noted b.log)
  events : p.Named a.events b.events
  left : a.CachesCompiled
  right : b.CachesCompiled
  lacking : p.fault (.failure .attribute)

namespace World.Paired

variable {a b : World}

/-- What worlds hold goes together on other heaps too, if its places do. -/
theorem imp (h : a.Paired p b) (hpq : p.Into q) {k k' : Heap} (hk : k.Paired q k')
    (hj : q.fault (.failure .attribute)) :
    World.Paired q { a with heap := k } { b with heap := k' } where
  bounds := h.bounds
  heap := hk
  defaults := h.defaults.imp hpq
  boxes := h.boxes.imp fun _ _ hb => hb.imp hpq
  graph := h.graph.imp fun _ _ hw => hw.imp hpq
  log := h.log.imp fun _ _ he => he.imp hpq
  events := h.events.imp fun _ _ he => ⟨he.1, he.2.imp hpq⟩
  left := h.left
  right := h.right
  lacking := hj

theorem setHeap (h : a.Paired p b) (hpq : p ≤ q) {k k' : Heap} (hk : k.Paired q k') :
    World.Paired q { a with heap := k } { b with heap := k' } :=
  h.imp (Pairing.into hpq) hk ((Pairing.grows hpq).fault ▸ h.lacking)

theorem setDefaults (h : a.Paired p b) {d d' : Defaults} (hd : d.Paired p d') :
    World.Paired p { a with defaults := d } { b with defaults := d' } :=
  ⟨h.bounds, h.heap, hd, h.boxes, h.graph, h.log, h.events, h.left, h.right, h.lacking⟩

theorem setGraph (h : a.Paired p b) {g g' : Graph Watch} (hg : g.Paired (Watch.Paired p) g') :
    World.Paired p { a with graph := g } { b with graph := g' } :=
  ⟨h.bounds, h.heap, h.defaults, h.boxes, hg, h.log, h.events, h.left, h.right, h.lacking⟩

theorem setLog (h : a.Paired p b) {l l' : List LogEvent}
    (hl : List.Forall₂ (LogEvent.Paired p) (noted l) (noted l')) :
    World.Paired p { a with log := l } { b with log := l' } :=
  ⟨h.bounds, h.heap, h.defaults, h.boxes, h.graph, hl, h.events, h.left, h.right, h.lacking⟩

theorem setEvents (h : a.Paired p b) {es es' : List (String × Value)} (he : p.Named es es') :
    World.Paired p { a with events := es } { b with events := es' } :=
  ⟨h.bounds, h.heap, h.defaults, h.boxes, h.graph, h.log, he, h.left, h.right, h.lacking⟩

theorem setCaches (h : a.Paired p b) {cs cs' : Array Cache} (hcs : ∀ c ∈ cs, c.Compiled)
    (hcs' : ∀ c ∈ cs', c.Compiled) :
    World.Paired p { a with caches := cs } { b with caches := cs' } :=
  ⟨h.bounds, h.heap, h.defaults, h.boxes, h.graph, h.log, h.events, hcs, hcs', h.lacking⟩

theorem pushBox (h : a.Paired p b) {x x' : Box} (hx : x.Paired p x') :
    World.Paired p { a with boxes := a.boxes.push x } { b with boxes := b.boxes.push x' } := by
  refine ⟨h.bounds, h.heap, h.defaults, ?_, h.graph, h.log, h.events, h.left, h.right, h.lacking⟩
  rw [Array.toList_push, Array.toList_push]
  exact List.rel_append h.boxes (.cons hx .nil)

theorem setBox (h : a.Paired p b) (id : Nat) {x x' : Box} (hx : x.Paired p x') :
    World.Paired p { a with boxes := a.boxes.setIfInBounds id x }
      { b with boxes := b.boxes.setIfInBounds id x' } := by
  refine ⟨h.bounds, h.heap, h.defaults, ?_, h.graph, h.log, h.events, h.left, h.right, h.lacking⟩
  rw [Array.toList_setIfInBounds, Array.toList_setIfInBounds, List.set_eq_modify,
    List.set_eq_modify]
  exact forall₂_modify h.boxes (fun _ _ _ => hx) id

theorem getBox (h : a.Paired p b) (id : Nat) :
    Option.Rel (Box.Paired p) a.boxes[id]? b.boxes[id]? := by
  have hid := getElem?_of_forall₂ h.boxes id
  rwa [Array.getElem?_toList, Array.getElem?_toList] at hid

/-- Templates are rendered alike. -/
theorem machine (h : a.Paired p b) : a.bounds.machine.Paired p a.bounds.machine :=
  ⟨calls_callTo h.lacking _ _, rfl⟩

theorem sizeBoxes (h : a.Paired p b) : a.boxes.size = b.boxes.size := h.boxes.length_eq

end World.Paired

/-! ## Errors -/

/-- Errors that go together, with a fault that the pairing allows. -/
inductive Error.Paired (p : Pairing) : Error → Error → Prop
  | fault {e : Fault} (h : p.fault e) : Paired p (.fault e) (.fault e)
  | template (e : TemplateError) : Paired p (.template e) (.template e)
  | marker (e : MarkerError) : Paired p (.marker e) (.marker e)
  | environment (name : String) (e : MarkerError) :
      Paired p (.environment name e) (.environment name e)
  | noMessages {v w : Value} (h : v.Paired p w) (text : String) :
      Paired p (.noMessages v text) (.noMessages w text)
  | languageNotText : Paired p .languageNotText .languageNotText
  | cacheTooSmall : Paired p .cacheTooSmall .cacheTooSmall

theorem Error.Paired.mono (hpq : p ≤ q) {e e' : Error} (h : e.Paired p e') : e.Paired q e' := by
  cases h with
  | fault h => exact .fault ((Pairing.grows hpq).fault ▸ h)
  | template e => exact .template e
  | marker e => exact .marker e
  | environment name e => exact .environment name e
  | noMessages h text => exact .noMessages (h.mono hpq) text
  | languageNotText => exact .languageNotText
  | cacheTooSmall => exact .cacheTooSmall

end Wording
