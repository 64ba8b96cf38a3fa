import Mathlib.Order.CompleteBooleanAlgebra
import Mathlib.Order.CompletePartialOrder
import Wording.Proofs.Paired.Play

/-!
# Boxes that say the same

Two boxes, in two worlds or in one, are twins for a language if they are asked about the same
language, have the same markers and the same messages, and lie over the same messages of the defaults
(`World.Twins`). Twins give the same messages and answer alike, whatever else their worlds hold: other
boxes, other settings, and other caches and trackers of the two boxes themselves.

* `Session.alike_boxMessages`: the same messages
* `Session.alike_message`: the same answer
* `Room.alike_message`, `Room.alike_messages`: boxes by their names
-/

namespace Wording

variable {language : Value} {id id' : Nat}

/-- Boxes of the same markers and messages that are about the same language when `language` is asked
for. -/
structure Box.Twin (language : Value) (b b' : Box) : Prop where
  requested : Session.requested b language = Session.requested b' language
  markers : b.markers = b'.markers
  combined : b.markers.Combined
  messages : b.messages = b'.messages

/-- Worlds that hold the same for two boxes, which are twins if they are there. -/
structure World.Twins (language : Value) (id id' : Nat) (a b : World) : Prop where
  bounds : a.bounds = b.bounds
  heap : a.heap = b.heap
  shared : a.defaults.messages = b.defaults.messages
  box : Option.Rel (Box.Twin language) a.boxes[id]? b.boxes[id']?
  left : a.CachesCompiled
  right : b.CachesCompiled

namespace World.Twins

variable {a b : World}

theorem setHeap (h : a.Twins language id id' b) (heap : Heap) :
    World.Twins language id id' { a with heap := heap } { b with heap := heap } :=
  ⟨h.bounds, rfl, h.shared, h.box, h.left, h.right⟩

theorem setCaches (h : a.Twins language id id' b) {cs cs' : Array Cache}
    (hcs : ∀ c ∈ cs, c.Compiled) (hcs' : ∀ c ∈ cs', c.Compiled) (log log' : List LogEvent) :
    World.Twins language id id' { a with caches := cs, log := log }
      { b with caches := cs', log := log' } :=
  ⟨h.bounds, h.heap, h.shared, h.box, hcs, hcs'⟩

end World.Twins

namespace Session

variable {α β : Type}

/-- The same is done with two twins. -/
abbrev Alike (language : Value) (id id' : Nat) (m m' : Session α) : Prop :=
  Agree (fun _ : Unit => World.Twins language id id') (fun _ => Eq) (fun _ => Eq) () m m'

/-- The same from two worlds. -/
abbrev AlikeFrom (language : Value) (id id' : Nat) (m m' : Session α) (a b : World) : Prop :=
  AgreeFrom (fun _ : Unit => World.Twins language id id') (fun _ => Eq) (fun _ => Eq) () m m' a b

theorem Alike.bind_eq {m m' : Session α} {f g : α → Session β} (h : Alike language id id' m m')
    (hf : ∀ a, Alike language id id' (f a) (g a)) :
    Alike language id id' (m >>= f) (m' >>= g) := by
  refine h.bind ?_
  rintro _ - a _ rfl
  exact hf a

theorem results_eq {ε : Type} (x : Except ε α) : Results Eq Eq x x := by
  cases x with
  | ok a => exact .ok rfl
  | error e => exact .error rfl

/-! ## Reading and noting -/

theorem alike_eval (m : Eval α) : Alike language id id' (eval m) (eval m) := by
  intro a b hab
  refine ⟨(), le_rfl, ?_⟩
  rw [outcome_eval, outcome_eval, hab.heap]
  exact ⟨hab.setHeap _, results_eq _⟩

theorem alike_reading (f : Heap → Except Failure α) :
    Alike language id id' (reading f) (reading f) := by
  intro a b hab
  refine ⟨(), le_rfl, ?_⟩
  rw [outcome_reading_eq, outcome_reading_eq, hab.heap]
  exact ⟨hab, results_eq _⟩

theorem alike_truthy (v : Value) : Alike language id id' (truthy v) (truthy v) := by
  refine agree_get_bind fun a b hab => ?_
  rw [hab.heap]
  exact agree_pure rfl

theorem alike_note (e : LogEvent) : Alike language id id' (note e) (note e) :=
  fun _ _ hab => ⟨(), le_rfl, hab.setCaches hab.left hab.right _ _, .ok rfl⟩

/-! ## Messages -/

/-- A box, and the state of a world in which it has been asked for its language. -/
theorem rel_twin_asked {boxes boxes' : Array Box} {b b' : Box} {t t' : Tracker}
    (h : b.Twin language b') (hb : boxes[id]? = some { b with tracker := t })
    (hb' : boxes'[id']? = some { b' with tracker := t' }) :
    Option.Rel (Box.Twin language) boxes[id]? boxes'[id']? := by
  rw [hb, hb']
  refine .some ⟨?_, h.markers, h.combined, h.messages⟩
  have hrequested (b : Box) (t : Tracker) :
      requested { b with tracker := t } language = requested b language := by
    cases language <;> rfl
  exact (hrequested b t).trans (h.requested.trans (hrequested b' t').symm)

theorem alike_askLanguage :
    Alike language id id' (askLanguage id language) (askLanguage id' language) := by
  intro a b hab
  have hbox := hab.box
  by_cases hl : language = .null
  · subst hl
    cases hx : a.boxes[id]? with
    | none =>
      -- No box is there on either side.
      rw [hx] at hbox
      cases hy : b.boxes[id']? with
      | some y =>
        rw [hy] at hbox
        cases hbox
      | none =>
        have hlacking (w : World) (i : Nat) (h : w.boxes[i]? = none) :
            outcome (askLanguage i .null) w = (.error (.fault .exhausted), w) := by
          rw [askLanguage, readLanguage]
          refine outcome_bind_of_error ?_
          rw [box, outcome_get_bind, h]
          rfl
        refine ⟨(), le_rfl, ?_⟩
        rw [hlacking a id hx, hlacking b id' hy]
        exact ⟨hab, .error rfl⟩
    | some x =>
      rw [hx] at hbox
      cases hy : b.boxes[id']? with
      | none =>
        rw [hy] at hbox
        cases hbox
      | some y =>
        rw [hy] at hbox
        have hxy : x.Twin .null y := by
          cases hbox with
          | some hxy => exact hxy
        obtain ⟨boxes, graph, t, hout, hasked⟩ := exists_asked hx .null
        obtain ⟨boxes', graph', t', hout', hasked'⟩ := exists_asked hy .null
        refine ⟨(), le_rfl, ?_⟩
        rw [hout, hout']
        exact ⟨⟨hab.bounds, hab.heap, hab.shared, rel_twin_asked hxy hasked hasked', hab.left,
          hab.right⟩, .ok hxy.requested⟩
  · have ha (i : Nat) : askLanguage i language = pure language := by
      cases language <;> first | exact absurd rfl hl | rfl
    rw [ha, ha]
    exact ⟨(), le_rfl, hab, .ok rfl⟩

theorem alike_box_bind {f g : Box → Session α}
    (h : ∀ x y, x.Twin language y → Alike language id id' (f x) (g y)) :
    Alike language id id' (box id >>= f) (box id' >>= g) := by
  intro a b hab
  have hbox := hab.box
  unfold AgreeFrom
  rw [outcome_bind, outcome_bind, outcome_box_eq, outcome_box_eq]
  generalize a.boxes[id]? = x, b.boxes[id']? = y at hbox
  cases hbox with
  | none => exact ⟨(), le_rfl, hab, .error rfl⟩
  | some hxy => exact h _ _ hxy a b hab

theorem alike_mergedMessages (c : Catalog) (l : Value) :
    Alike language id id' (mergedMessages c l) (mergedMessages c l) := by
  refine agree_get_bind fun a b hab => ?_
  rw [hab.shared]
  refine (alike_reading _).bind_eq fun merged => ?_
  cases merged with
  | some c => exact agree_pure rfl
  | none => exact (alike_reading _).bind_eq fun text => agree_throw rfl

/-- **Twins have the same messages.** -/
theorem alike_boxMessages :
    Alike language id id' (boxMessages id language) (boxMessages id' language) := by
  have hasked (i : Nat) : boxMessages i language = (askLanguage i language >>= fun l => do
      let b ← box i
      return (← mergedMessages b.messages l, l)) := by
    cases language <;> rfl
  rw [hasked, hasked]
  refine alike_askLanguage.bind_eq fun l => alike_box_bind fun x y hxy => ?_
  rw [hxy.messages]
  exact (alike_mergedMessages _ _).bind_eq fun c => agree_pure rfl

/-! ## Answers -/

theorem alike_template {x y : Box} (hxy : x.Twin language y) (text : String) :
    Alike language id id' (template x text) (template y text) := by
  intro a b hab
  obtain ⟨caches, log, hout, hcaches, -⟩ := outcome_template_eq hxy.combined hab.left text
  obtain ⟨caches', log', hout', hcaches', -⟩ :=
    outcome_template_eq (hxy.markers ▸ hxy.combined) hab.right text
  refine ⟨(), le_rfl, ?_⟩
  rw [hout, hout', hxy.markers]
  exact ⟨hab.setCaches hcaches hcaches' _ _, results_eq _⟩

theorem alike_renderContext (generic : Option String) (context : Value) (fields : Entries) :
    Alike language id id' (renderContext generic context fields)
      (renderContext generic context fields) := by
  refine (alike_truthy context).bind_eq fun given => ?_
  dsimp only
  split
  · exact (alike_reading _).bind_eq fun _ => alike_eval _
  · rw [pure_bind]
    exact alike_eval _

theorem alike_fallback (name errorType : Value) (generic : Option String) :
    Alike language id id' (fallback name errorType generic) (fallback name errorType generic) := by
  refine agree_get_bind fun a b hab => ?_
  rw [hab.heap]
  exact (alike_note _).bind_eq fun _ => (alike_reading _).bind_eq fun _ => agree_pure rfl

theorem alike_answer {x y : Box} (hxy : x.Twin language y) (r : Request) (fields : Entries)
    (selected : Option Value) :
    Alike language id id' (answer x r fields selected) (answer y r fields selected) := by
  unfold answer
  dsimp only
  split
  · refine (alike_template hxy _).bind_eq fun t => (alike_renderContext _ _ _).bind_eq fun c => ?_
    refine agree_get_bind fun a b hab => ?_
    rw [hab.bounds]
    exact (alike_eval _).bind_eq fun _ => agree_pure rfl
  · split
    · refine (alike_renderContext _ _ _).bind_eq fun c => agree_get_bind fun a b hab => ?_
      rw [hab.bounds]
      exact alike_eval _
    · exact alike_fallback _ _ _
  · exact alike_fallback _ _ _

/-- **Twins answer alike.** -/
theorem alike_message {r : Request} (hr : r.language = language) :
    Alike language id id' (message id r) (message id' r) := by
  refine (alike_reading _).bind_eq fun fields => ?_
  cases preformatted? fields with
  | some m => exact agree_pure rfl
  | none =>
    rw [hr]
    refine alike_boxMessages.bind_eq fun messages => ?_
    dsimp only
    split
    · exact agree_throw rfl
    · exact alike_box_bind fun x y hxy => alike_answer hxy r fields _

end Session

/-! ## By name -/

/-- The box of a name. -/
def Room.box? (room : Room) (name : String) : Option Box :=
  (room.boxes.find? (·.1 == name)).bind fun e => room.world.boxes[e.2]?

/-- Boxes of two rooms, or of one, are twins by their names. -/
def Room.Twins (language : Value) (name name' : String) (a b : Room) : Prop :=
  ∃ e e', a.boxes.find? (·.1 == name) = some e ∧ b.boxes.find? (·.1 == name') = some e' ∧
    a.world.Twins language e.2 e'.2 b.world

namespace Play

/-- The same comes of two computations in rooms that have the same heap, and they leave rooms that
have. -/
abbrev AlikeFrom {α : Type} (m m' : Play α) (a b : Room) : Prop :=
  AgreeFrom (fun _ : Unit => fun a b : Room => a.world.heap = b.world.heap) (fun _ => Eq)
    (fun _ => Eq) () m m' a b

/-- What is done with a named box. -/
theorem exists_outcome_find_bind {α : Type} {room : Room} {name : String} {b : Box}
    (hb : room.box? name = some b) (f : Nat → Play α) :
    ∃ x id, room.boxes.find? (·.1 == name) = some (x, id) ∧ room.world.boxes[id]? = some b ∧
      outcome (find (·.boxes) name >>= f) room = outcome (f id) room := by
  obtain ⟨⟨x, id⟩, hfind, hbox⟩ := Option.bind_eq_some_iff.mp hb
  exact ⟨x, id, hfind, hbox, outcome_bind_of_ok (outcome_find_of_eq hfind)⟩

section

variable {a b : Room}

theorem alikeFrom_session {α : Type} {m m' : Session α}
    (h : Session.AlikeFrom language id id' m m' a.world b.world) :
    AlikeFrom (session m) (session m') a b := by
  obtain ⟨_, -, htwins, hresults⟩ := h
  refine ⟨(), le_rfl, ?_⟩
  rw [outcome_session, outcome_session]
  refine ⟨htwins.heap, ?_⟩
  dsimp only
  generalize (outcome m a.world).1 = x, (outcome m' b.world).1 = y at hresults
  cases hresults with
  | ok h => exact .ok h
  | error h => exact .error (congrArg StepError.error h)

theorem alikeFrom_eval {α : Type} (m : Eval α) (hab : a.world.heap = b.world.heap) :
    AlikeFrom (session (Session.eval m)) (session (Session.eval m)) a b := by
  refine ⟨(), le_rfl, ?_⟩
  rw [outcome_session, outcome_session, Session.outcome_eval, Session.outcome_eval, hab]
  refine ⟨rfl, ?_⟩
  generalize ((m.run b.world.heap).1.mapError Error.fault) = x
  exact Session.results_eq (x.mapError StepError.error)

theorem alikeFrom_shown (x : Answer) (hab : a.world.heap = b.world.heap) :
    AlikeFrom (shown x) (shown x) a b := by
  refine ⟨(), le_rfl, hab, ?_⟩
  exact .ok (congrArg (Shown.mk · x) hab)

theorem alikeFrom_shownThen (x : Answer) (root : Value) (m : Option Mutation)
    (hab : a.world.heap = b.world.heap) :
    AlikeFrom (shownThen x root m) (shownThen x root m) a b := by
  refine (alikeFrom_shown x hab).bind ?_
  rintro _ - s _ rfl a b hab
  cases m with
  | none => exact ⟨(), le_rfl, hab, .ok rfl⟩
  | some m =>
    refine (alikeFrom_eval _ hab).bind ?_
    rintro _ - _ _ - a b hab
    exact ⟨(), le_rfl, hab, .ok rfl⟩

end

end Play

namespace Room

variable {name name' : String} {a b : Room}

/-- Steps that do alike with twins have the same result, and leave the same heap. -/
theorem alike_of_twins (h : a.Twins language name name' b) {s s' : Step} {f f' : Nat → Play Shown}
    (hs : Play.perform s = Play.find (·.boxes) name >>= f)
    (hs' : Play.perform s' = Play.find (·.boxes) name' >>= f')
    (hf : ∀ id id', a.cleared.world.Twins language id id' b.cleared.world →
      Play.AlikeFrom (f id) (f' id') a.cleared b.cleared) :
    (a.report s).result = (b.report s').result ∧
      (a.after s).world.heap = (b.after s').world.heap := by
  obtain ⟨e, e', hname, hname', htwins⟩ := h
  have hcleared : a.cleared.world.Twins language e.2 e'.2 b.cleared.world :=
    ⟨htwins.bounds, htwins.heap, htwins.shared, htwins.box, htwins.left, htwins.right⟩
  have hout : outcome (Play.perform s) a.cleared = outcome (f e.2) a.cleared := by
    rw [hs]
    exact outcome_bind_of_ok (Play.outcome_find_of_eq hname)
  have hout' : outcome (Play.perform s') b.cleared = outcome (f' e'.2) b.cleared := by
    rw [hs']
    exact outcome_bind_of_ok (Play.outcome_find_of_eq hname')
  obtain ⟨_, -, hheap, hresults⟩ := hf e.2 e'.2 hcleared
  rw [after_eq, after_eq, report_eq, report_eq, hout, hout']
  refine ⟨?_, hheap⟩
  dsimp only
  generalize (outcome (f e.2) a.cleared).1 = x, (outcome (f' e'.2) b.cleared).1 = y at hresults
  cases hresults with
  | ok h => rw [h]
  | error h => rw [h]

/-- **Twins give the same message.** -/
theorem alike_message {r : Request} (h : a.Twins r.language name name' b) :
    (a.report (.message name r)).result = (b.report (.message name' r)).result ∧
      (a.after (.message name r)).world.heap = (b.after (.message name' r)).world.heap := by
  refine alike_of_twins h (by rw [Play.perform]) (by rw [Play.perform]) fun id id' htwins => ?_
  refine (Play.alikeFrom_session (Session.alike_message rfl _ _ htwins)).bind ?_
  rintro _ - v _ rfl a b hab
  exact Play.alikeFrom_shown _ hab

/-- **Twins give out the same messages.** -/
theorem alike_messages (h : a.Twins language name name' b) (m : Option Mutation) :
    (a.report (.messages name language m)).result = (b.report (.messages name' language m)).result ∧
      (a.after (.messages name language m)).world.heap =
        (b.after (.messages name' language m)).world.heap := by
  refine alike_of_twins h (by rw [Play.perform]) (by rw [Play.perform]) fun id id' htwins => ?_
  refine (Play.alikeFrom_session (Session.alike_boxMessages _ _ htwins)).bind ?_
  rintro _ - ⟨d, l⟩ _ rfl a b hab
  refine (Play.alikeFrom_eval _ hab).bind ?_
  rintro _ - v _ rfl a b hab
  exact Play.alikeFrom_shownThen _ _ _ hab

end Room

end Wording
