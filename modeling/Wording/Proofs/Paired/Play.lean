import Wording.Box.Step
import Wording.Proofs.Paired.Session

/-!
# Steps in rooms that go together

A step in rooms that go together brings about the same, and leaves rooms that go together: what it
answers with, the messages that watches have got, and what the log says besides what has been
compiled. How many templates a cache holds is no part of this.

* `Play.playsFrom_perform`: performing a step
* `Room.Paired.step`: attempting a step, with the report on it
-/

namespace Wording

variable {p q : Pairing} {v w : Value}

/-! ## Assignments -/

theorem agrees_setItem {t t' k k' : Value} (ht : t.Paired p t') (hk : k.Paired p k')
    (hv : v.Paired p w) : p.Agrees (fun _ _ _ => True) (setItem t k v) (setItem t' k' w) := by
  cases ht with
  | dict hr =>
    unfold setItem
    dsimp only
    rw [hk.isKey]
    split
    · exact agree_modify fun s t hp =>
        ⟨p, le_rfl, hp.write hr (.dict (Keyed.put_paired (hp.entries hr) hk hv))⟩
    · exact Pairing.agrees_fail rfl
  | list hr =>
    refine Pairing.agrees_items_bind hr fun vs ws hvs => ?_
    refine Pairing.agrees_lift_bind hk.asIndex ?_
    rintro i _ rfl
    rw [hvs.length_eq]
    split
    · next i _ =>
      refine agree_modify fun s t hp => ⟨p, le_rfl, hp.setItems hr ?_⟩
      rw [List.set_eq_modify, List.set_eq_modify]
      exact forall₂_modify hvs (fun _ _ _ => hv) i
    · exact Pairing.agrees_fail rfl
  | atom ha => cases t <;> first | exact Pairing.agrees_fail rfl | cases ha
  | _ => exact Pairing.agrees_fail rfl

theorem agrees_assign {path path' : List Value} {root root' : Value} (hroot : root.Paired p root')
    (hpath : p.Values path path') (hv : v.Paired p w) :
    p.Agrees (fun _ _ _ => True) (assign root path v) (assign root' path' w) := by
  induction path generalizing p root root' path' with
  | nil =>
    cases hpath
    exact Pairing.agrees_fail rfl
  | cons k rest ih =>
    cases hpath with
    | cons hk hrest =>
      have hgo := (agrees_getItem hroot hk).bind fun q hpq x y hxy =>
        ih hxy (Pairing.Values.mono hpq hrest) (hv.mono hpq)
      cases hrest with
      | nil => exact agrees_setItem hroot hk hv
      | cons _ _ => exact hgo

/-! ## Steps and answers -/

/-- Changes of a value that go together. -/
structure Mutation.Paired (p : Pairing) (m m' : Mutation) : Prop where
  path : p.Values m.path m'.path
  value : m.value.Paired p m'.value

theorem Mutation.Paired.mono (hpq : p ≤ q) {m m' : Mutation} (h : m.Paired p m') : m.Paired q m' :=
  ⟨h.path.mono hpq, h.value.mono hpq⟩

/-- The same step twice, as it is read on two heaps: with values that go together, but for what
catalogs are read off, and for caches that may keep nothing. -/
inductive Step.Paired (p : Pairing) (h h' : Heap) : Step → Step → Prop
  | name (name : String) {i j : Issue} (hi : i.Paired p j) :
      Paired p h h' (.name name i) (.name name j)
  | mutate (name : String) {m m' : Mutation} (hm : m.Paired p m') :
      Paired p h h' (.mutate name m) (.mutate name m')
  | show (name : String) : Paired p h h' (.show name) (.show name)
  | applyDefaults {c c' : DefaultsChange} (hc : c.Paired p h h' c') (snapshot : Option String) :
      Paired p h h' (.applyDefaults c snapshot) (.applyDefaults c' snapshot)
  | applyEnvironment (start : String) {es es' : Entries} (he : p.Entries es es') :
      Paired p h h' (.applyEnvironment start es) (.applyEnvironment start es')
  | defaults (snapshot : Option String) : Paired p h h' (.defaults snapshot) (.defaults snapshot)
  | resetDefaults : Paired p h h' .resetDefaults .resetDefaults
  | newBox (box : String) {o o' : Session.BoxOptions} (ho : o.Paired p h h' o')
      (cache : Option String) : Paired p h h' (.newBox box o cache) (.newBox box o' cache)
  | cloneBox (box copy : String) : Paired p h h' (.cloneBox box copy) (.cloneBox box copy)
  | message (box : String) {r s : Request} (hr : r.Paired p s) :
      Paired p h h' (.message box r) (.message box s)
  | messages (box : String) {v w : Value} (hv : v.Paired p w) {m m' : Option Mutation}
      (hm : Option.Rel (Mutation.Paired p) m m') :
      Paired p h h' (.messages box v m) (.messages box w m')
  | addMessages (box : String) {v w : Value} (hs : v.SameSource p h h' w) :
      Paired p h h' (.addMessages box v) (.addMessages box w)
  | setLanguage (box : String) {v w : Value} (hv : v.Paired p w) :
      Paired p h h' (.setLanguage box v) (.setLanguage box w)
  | state (box : String) : Paired p h h' (.state box) (.state box)
  | watch (name box : String) {r s : Request} (hr : r.Paired p s) :
      Paired p h h' (.watch name box r) (.watch name box s)
  | stop (name : String) : Paired p h h' (.stop name) (.stop name)
  | newCache (name : String) (limit : Option Int) {idle idle' : Bool}
      (hidle : (idle || (Cache.ofLimit? limit).isSome) = (idle' || (Cache.ofLimit? limit).isSome)) :
      Paired p h h' (.newCache name limit idle) (.newCache name limit idle')
  | clearCache (name : String) : Paired p h h' (.clearCache name) (.clearCache name)
  | newStore (name : String) {v w : Value} (hs : v.SameSource p h h' w) :
      Paired p h h' (.newStore name v) (.newStore name w)
  | addToStore (name : String) {v w : Value} (hs : v.SameSource p h h' w) :
      Paired p h h' (.addToStore name v) (.addToStore name w)
  | copyStore (name copy : String) : Paired p h h' (.copyStore name copy) (.copyStore name copy)
  | storeMessages (name : String) {v w : Value} (hv : v.Paired p w) {m m' : Option Mutation}
      (hm : Option.Rel (Mutation.Paired p) m m') :
      Paired p h h' (.storeMessages name v m) (.storeMessages name w m')
  | store (name : String) {m m' : Option Mutation} (hm : Option.Rel (Mutation.Paired p) m m') :
      Paired p h h' (.store name m) (.store name m')
  | storeHas (name : String) {v w : Value} (hv : v.Paired p w) :
      Paired p h h' (.storeHas name v) (.storeHas name w)

inductive StepError.Paired (p : Pairing) : StepError → StepError → Prop
  | error {e e' : Error} (h : e.Paired p e') : Paired p (.error e) (.error e')
  | unknown : Paired p .unknown .unknown

theorem StepError.Paired.mono (hpq : p ≤ q) {e e' : StepError} (h : e.Paired p e') :
    e.Paired q e' := by
  cases h with
  | error h => exact .error (h.mono hpq)
  | unknown => exact .unknown

/-- What is seen of boxes goes together, but for the caches that they use. -/
structure BoxView.Paired (p : Pairing) (b b' : BoxView) : Prop where
  language : b.language.Paired p b'.language
  markers : b.markers = b'.markers
  tracker : b.tracker = b'.tracker
  hasDependents : b.hasDependents = b'.hasDependents
  store : b.store.Paired p b'.store

inductive Answer.Paired (p : Pairing) : Answer → Answer → Prop
  | done : Paired p .done .done
  | value {v w : Value} (h : v.Paired p w) : Paired p (.value v) (.value w)
  | defaults {d d' : Defaults} (hd : d.Paired p d') {v w : Value} (h : v.Paired p w) :
      Paired p (.defaults d v) (.defaults d' w)
  | box {b b' : BoxView} (h : b.Paired p b') : Paired p (.box b) (.box b')
  | messages {v w l l' : Value} (h : v.Paired p w) (hl : l.Paired p l') :
      Paired p (.messages v l) (.messages w l')
  | count (n : Nat) : Paired p (.count n) (.count n)
  | flag (b : Bool) : Paired p (.flag b) (.flag b)

/-- What is shown goes together in an earlier pairing. -/
def Shown.Paired (p : Pairing) (s t : Shown) : Prop :=
  ∃ q ≤ p, s.heap.Paired q t.heap ∧ s.answer.Paired q t.answer

theorem Shown.Paired.mono (hpq : p ≤ q) {s t : Shown} (h : s.Paired p t) : s.Paired q t := by
  obtain ⟨q', hq', hs⟩ := h
  exact ⟨q', hq'.trans hpq, hs⟩

theorem mutations_mono (hpq : p ≤ q) {m m' : Option Mutation}
    (h : Option.Rel (Mutation.Paired p) m m') : Option.Rel (Mutation.Paired q) m m' := by
  cases h with
  | none => exact .none
  | some h => exact .some (h.mono hpq)

/-! ## Rooms -/

/-- The same names for what goes together. -/
abbrev Pairing.Names {α α' : Type} (R : α → α' → Prop) :
    List (String × α) → List (String × α') → Prop :=
  List.Forall₂ fun m n => m.1 = n.1 ∧ R m.2 n.2

/-- Rooms with worlds that go together, where the same names stand for what goes together. -/
structure Room.Paired (p : Pairing) (a b : Room) : Prop where
  world : a.world.Paired p b.world
  values : Pairing.Names (Issue.Paired p) a.values b.values
  snapshots : Pairing.Names (Defaults.Paired p) a.snapshots b.snapshots
  boxes : Pairing.Names Eq a.boxes b.boxes
  caches : Pairing.Names (fun _ _ => True) a.caches b.caches
  stores : Pairing.Names (Catalog.Paired p) a.stores b.stores
  watches : Pairing.Names Eq a.watches b.watches

namespace Room.Paired

variable {a b : Room}

/-- What names stand for goes together in other worlds too, if its places do. -/
theorem imp (h : a.Paired p b) (hpq : p.Into q) {w w' : World} (hw : w.Paired q w') :
    Room.Paired q { a with world := w } { b with world := w' } where
  world := hw
  values := h.values.imp fun _ _ hn => ⟨hn.1, hn.2.imp hpq⟩
  snapshots := h.snapshots.imp fun _ _ hn => ⟨hn.1, hn.2.imp hpq⟩
  boxes := h.boxes
  caches := h.caches
  stores := h.stores.imp fun _ _ hn => ⟨hn.1, hn.2.imp hpq⟩
  watches := h.watches

theorem setWorld (h : a.Paired p b) (hpq : p ≤ q) {w w' : World} (hw : w.Paired q w') :
    Room.Paired q { a with world := w } { b with world := w' } := h.imp (Pairing.into hpq) hw

end Room.Paired

/-- Two plays in rooms that go together end in rooms and results that do. -/
abbrev Pairing.Plays {α α' : Type} (p : Pairing) (R : Pairing → α → α' → Prop) (m : Play α)
    (m' : Play α') : Prop := Agree Room.Paired (fun q => StepError.Paired q) R p m m'

/-- The same from two rooms. -/
abbrev Pairing.PlaysFrom {α α' : Type} (p : Pairing) (R : Pairing → α → α' → Prop) (m : Play α)
    (m' : Play α') (a b : Room) : Prop :=
  AgreeFrom Room.Paired (fun q => StepError.Paired q) R p m m' a b

namespace Play

variable {α α' β β' : Type} {R : Pairing → α → α' → Prop} {S : Pairing → β → β' → Prop}

/-! ## Sessions and names -/

theorem outcome_session (m : Session α) (room : Room) :
    outcome (session m) room =
      ((outcome m room.world).1.mapError .error,
        { room with world := (outcome m room.world).2 }) := by
  rw [session, outcome_get_bind]
  cases hrun : (ExceptT.run m).run room.world with
  | mk r w =>
    have hout : outcome m room.world = (r, w) := hrun
    rw [hout]
    cases r <;> rfl

theorem playsFrom_session {a b : Room} (hab : a.Paired p b) {m : Session α} {m' : Session α'}
    (h : p.InStepFrom R m m' a.world b.world) :
    p.PlaysFrom R (session m) (session m') a b := by
  obtain ⟨q, hpq, hw, hr⟩ := h
  refine ⟨q, hpq, ?_⟩
  rw [outcome_session, outcome_session]
  refine ⟨hab.setWorld hpq hw, ?_⟩
  dsimp only
  generalize (outcome m a.world).1 = x, (outcome m' b.world).1 = y at hr
  cases hr with
  | ok hr => exact .ok hr
  | error he => exact .error (.error he)

theorem plays_session {m : Session α} {m' : Session α'} (h : p.InStep R m m') :
    p.Plays R (session m) (session m') := fun a b hab =>
  playsFrom_session hab (h a.world b.world hab.world)

theorem outcome_find (names : Room → List (String × α)) (name : String) (room : Room) :
    outcome (find names name) room = match (names room).find? (·.1 == name) with
      | some (_, x) => (.ok x, room)
      | none => (.error .unknown, room) := by
  rw [find, outcome_get_bind]
  cases (names room).find? (·.1 == name) <;> rfl

theorem outcome_find_of_eq {names : Room → List (String × α)} {name x : String} {room : Room} {a : α}
    (h : (names room).find? (·.1 == name) = some (x, a)) :
    outcome (find names name) room = (.ok a, room) := by
  rw [outcome_find, h]

theorem find?_names {T : α → α' → Prop} {ms : List (String × α)} {ns : List (String × α')}
    (h : Pairing.Names T ms ns) (name : String) :
    Option.Rel (fun m n => m.1 = n.1 ∧ T m.2 n.2) (ms.find? (·.1 == name))
      (ns.find? (·.1 == name)) := by
  induction h with
  | nil => exact .none
  | @cons m n ms ns hmn _ ih =>
    rw [List.find?_cons, List.find?_cons, hmn.1]
    cases n.1 == name with
    | true => exact .some hmn
    | false => exact ih

theorem playsFrom_find_bind {a b : Room} (hab : a.Paired p b) {T : β → β' → Prop}
    {names : Room → List (String × β)} {names' : Room → List (String × β')}
    (h : Pairing.Names T (names a) (names' b)) (name : String) {f : β → Play α} {g : β' → Play α'}
    (hf : ∀ x y, T x y → p.PlaysFrom R (f x) (g y) a b) :
    p.PlaysFrom R (find names name >>= f) (find names' name >>= g) a b := by
  have hname := find?_names h name
  unfold Pairing.PlaysFrom AgreeFrom
  rw [outcome_bind, outcome_bind, outcome_find, outcome_find]
  generalize (names a).find? (·.1 == name) = x, (names' b).find? (·.1 == name) = y at hname
  cases hname with
  | none => exact ⟨p, le_rfl, hab, .error .unknown⟩
  | some hxy => exact hf _ _ hxy.2

theorem plays_find_bind {T : β → β' → Prop} {names : Room → List (String × β)}
    {names' : Room → List (String × β')}
    (h : ∀ a b, a.Paired p b → Pairing.Names T (names a) (names' b)) (name : String)
    {f : β → Play α} {g : β' → Play α'} (hf : ∀ x y, T x y → p.Plays R (f x) (g y)) :
    p.Plays R (find names name >>= f) (find names' name >>= g) := fun a b hab =>
  playsFrom_find_bind hab (h a b hab) name fun x y hxy => hf x y hxy a b hab

theorem playsFrom_box_bind {a b : Room} (hab : a.Paired p b) (name : String) {f : Nat → Play α}
    {g : Nat → Play α'} (hf : ∀ id, p.PlaysFrom R (f id) (g id) a b) :
    p.PlaysFrom R (find (·.boxes) name >>= f) (find (·.boxes) name >>= g) a b := by
  refine playsFrom_find_bind hab hab.boxes name ?_
  rintro id _ rfl
  exact hf id

theorem plays_box_bind (name : String) {f : Nat → Play α} {g : Nat → Play α'}
    (hf : ∀ id, p.Plays R (f id) (g id)) :
    p.Plays R (find (·.boxes) name >>= f) (find (·.boxes) name >>= g) :=
  fun a b hab => playsFrom_box_bind hab name fun id => hf id a b hab

theorem plays_valueOf (name : String) : p.Plays Value.Paired (valueOf name) (valueOf name) := by
  refine plays_find_bind (fun _ _ hab => hab.values) name fun i j hij => ?_
  cases hij with
  | value hv => exact agree_pure hv
  | descriptor _ _ _ _ => exact agree_pure (.atom rfl)

/-! ## What is shown -/

theorem plays_shown {x y : Answer} (h : x.Paired p y) :
    p.Plays Shown.Paired (shown x) (shown y) :=
  agree_get_bind fun _ _ hab => agree_pure ⟨p, le_rfl, hab.world.heap, h⟩

theorem plays_shownThen {x y : Answer} (h : x.Paired p y) (hv : v.Paired p w)
    {m m' : Option Mutation} (hm : Option.Rel (Mutation.Paired p) m m') :
    p.Plays Shown.Paired (shownThen x v m) (shownThen y w m') := by
  refine (plays_shown h).bind fun q hpq s t hst => ?_
  cases hm with
  | none => exact agree_pure hst
  | some hm =>
    have hassign := agrees_assign (hv.mono hpq) (hm.path.mono hpq) (hm.value.mono hpq)
    refine (plays_session (Session.instep_eval hassign)).bind fun r hqr _ _ _ => ?_
    exact agree_pure (hst.mono hqr)

theorem plays_shownDefaults {d d' : Defaults} (h : d.Paired p d') :
    p.Plays Shown.Paired (shownDefaults d) (shownDefaults d') := by
  refine (plays_session (Session.instep_eval (Catalog.agrees_toDict h.messages))).bind ?_
  exact fun q hpq v w hv => plays_shown (.defaults (h.imp (Pairing.into hpq)) hv)

theorem plays_shownStore {c d : Catalog} (h : c.Paired p d) {m m' : Option Mutation}
    (hm : Option.Rel (Mutation.Paired p) m m') :
    p.Plays Shown.Paired (perform.shownStore c m) (perform.shownStore d m') := by
  refine (plays_session (Session.instep_eval (Catalog.agrees_toDict h))).bind fun q hpq v w hv => ?_
  exact plays_shownThen (.value hv) hv (mutations_mono hpq hm)

theorem instep_boxView (id : Nat) : p.InStep BoxView.Paired (boxView id) (boxView id) := by
  refine Session.instep_box_bind id fun x y hxy => ?_
  refine (Session.instep_eval (Catalog.agrees_toDict hxy.messages)).bind fun q hpq v w hv => ?_
  refine agree_get_bind fun a b hab => agree_pure ?_
  refine ⟨hxy.language.mono hpq, hxy.markers, hxy.tracker, ?_, hv⟩
  rw [hxy.tracker]
  cases y.tracker with
  | dependency d => exact congrArg (fun cs => !cs.isEmpty) (hab.graph.dependentsOf d)
  | _ => rfl

theorem plays_shownBox (id : Nat) : p.Plays Shown.Paired (shownBox id) (shownBox id) :=
  (plays_session (instep_boxView id)).bind fun _ _ _ _ h => plays_shown (.box h)

/-! ## Performing -/

/-- Names are given in both rooms. -/
theorem plays_names {f g : Room → Room} (h : ∀ a b, a.Paired p b → (f a).Paired p (g b)) :
    p.Plays (fun _ _ _ => True) (modify f : Play PUnit) (modify g) :=
  agree_modify fun a b hab => ⟨p, le_rfl, h a b hab⟩

/-- A store that has got a name is shown. -/
theorem plays_nameStore (name : String) {c d : Catalog} (h : c.Paired p d) :
    p.Plays Shown.Paired
      (do
        modify fun room => { room with stores := (name, c) :: room.stores }
        perform.shownStore c none)
      (do
        modify fun room => { room with stores := (name, d) :: room.stores }
        perform.shownStore d none) := by
  refine (plays_names fun a b hab => ?_).bind fun q hpq _ _ _ => plays_shownStore (h.mono hpq) .none
  exact { hab with stores := .cons ⟨rfl, h⟩ hab.stores }

/-- A box that has got a name is shown. -/
theorem plays_nameBox (name : String) (id : Nat) :
    p.Plays Shown.Paired
      (do
        modify fun room => { room with boxes := (name, id) :: room.boxes }
        shownBox id)
      (do
        modify fun room => { room with boxes := (name, id) :: room.boxes }
        shownBox id) := by
  refine (plays_names fun a b hab => ?_).bind fun q hpq _ _ _ => plays_shownBox id
  exact { hab with boxes := .cons ⟨rfl, rfl⟩ hab.boxes }

/-- A box is made with whichever caches. -/
theorem playsFrom_newBox {a b : Room} (hab : a.Paired p b) (name : String)
    {o o' : Session.BoxOptions} (ho : o.Paired p a.world.heap b.world.heap o')
    (cache : Option String) :
    p.PlaysFrom Shown.Paired (perform (.newBox name o cache)) (perform (.newBox name o' cache))
      a b := by
  have hmake (x y : Option Nat) : p.PlaysFrom Shown.Paired
      (do
        let id ← session (Session.newBox { o with cache := x })
        modify fun room => { room with boxes := (name, id) :: room.boxes }
        shownBox id)
      (do
        let id ← session (Session.newBox { o' with cache := y })
        modify fun room => { room with boxes := (name, id) :: room.boxes }
        shownBox id) a b := by
    have hoxy : Session.BoxOptions.Paired p a.world.heap b.world.heap { o with cache := x }
        { o' with cache := y } :=
      ⟨ho.escape, ho.interpolate, ho.evaluate, ho.language, ho.messages, ho.tracker⟩
    refine (playsFrom_session hab (Session.instepFrom_newBox hab.world hoxy)).bind ?_
    rintro q hpq id _ rfl
    exact plays_nameBox name id
  cases cache with
  | none =>
    rw [perform, perform]
    exact hmake none none
  | some c =>
    rw [perform, perform]
    exact playsFrom_find_bind hab hab.caches c fun x y _ => hmake x y

/-- A cache that is made, or that keeps nothing, gets its name. -/
theorem exists_outcome_newCache {a : Room} (ha : a.world.CachesCompiled) (name : String)
    {limit : Option Int} {idle : Bool} (h : (idle || (Cache.ofLimit? limit).isSome) = true) :
    ∃ id caches, (∀ c ∈ caches, c.Compiled) ∧ outcome (perform (.newCache name limit idle)) a =
      (.ok ⟨a.world.heap, .done⟩, { a with
        world := { a.world with caches := caches }, caches := (name, id) :: a.caches }) := by
  rw [perform]
  cases idle with
  | true => exact ⟨none, a.world.caches, ha, rfl⟩
  | false =>
    obtain ⟨c, hc⟩ := Option.isSome_iff_exists.mp h
    refine ⟨some a.world.caches.size, a.world.caches.push c,
      Array.forall_mem_push.mpr ⟨Cache.compiled_ofLimit? hc, ha⟩, ?_⟩
    have hnew : outcome (Session.newCache limit) a.world =
        (.ok a.world.caches.size, { a.world with caches := a.world.caches.push c }) := by
      rw [Session.newCache, hc]
      rfl
    have hid : outcome (some <$> session (Session.newCache limit)) a =
        (.ok (some a.world.caches.size),
          { a with world := { a.world with caches := a.world.caches.push c } }) := by
      rw [outcome_map, outcome_session, hnew]
      rfl
    exact outcome_bind_of_ok hid

/-- A cache without room for a template is not made. -/
theorem outcome_newCache_refused (a : Room) (name : String) {limit : Option Int} {idle : Bool}
    (h : (idle || (Cache.ofLimit? limit).isSome) = false) :
    outcome (perform (.newCache name limit idle)) a = (.error (.error .cacheTooSmall), a) := by
  obtain ⟨rfl, hlimit⟩ := Bool.or_eq_false_iff.mp h
  have hnew : outcome (Session.newCache limit) a.world = (.error .cacheTooSmall, a.world) := by
    rw [Session.newCache, Option.isNone_iff_eq_none.mp (Option.isSome_eq_false_iff.mp hlimit)]
    rfl
  have hid : outcome (some <$> session (Session.newCache limit)) a =
      (.error (.error .cacheTooSmall), a) := by
    rw [outcome_map, outcome_session, hnew]
    rfl
  rw [perform]
  exact outcome_bind_of_error hid

/-- A cache may keep nothing in one of two rooms. -/
theorem playsFrom_newCache {a b : Room} (hab : a.Paired p b) (name : String) (limit : Option Int)
    {idle idle' : Bool}
    (hidle : (idle || (Cache.ofLimit? limit).isSome) = (idle' || (Cache.ofLimit? limit).isSome)) :
    p.PlaysFrom Shown.Paired (perform (.newCache name limit idle))
      (perform (.newCache name limit idle')) a b := by
  refine ⟨p, le_rfl, ?_⟩
  cases hmade : idle || (Cache.ofLimit? limit).isSome with
  | true =>
    obtain ⟨id, cs, hcs, hout⟩ := exists_outcome_newCache hab.world.left name hmade
    obtain ⟨id', cs', hcs', hout'⟩ := exists_outcome_newCache hab.world.right name (hidle ▸ hmade)
    rw [hout, hout']
    have hroom := hab.setWorld le_rfl (hab.world.setCaches hcs hcs')
    exact ⟨{ hroom with caches := .cons ⟨rfl, trivial⟩ hab.caches },
      .ok ⟨p, le_rfl, hab.world.heap, .done⟩⟩
  | false =>
    rw [outcome_newCache_refused a name hmade, outcome_newCache_refused b name (hidle ▸ hmade)]
    exact ⟨hab, .error (.error .cacheTooSmall)⟩

/-- A cache is emptied, if the name stands for one that keeps something. -/
def clearing : Option Nat → Play Shown
  | none => shown .done
  | some id => do
    session (do Session.setCache id (← Session.cache id).clear)
    shown .done

theorem exists_outcome_clearing {a : Room} (ha : a.world.CachesCompiled) (id : Option Nat) :
    ∃ caches, (∀ c ∈ caches, c.Compiled) ∧ outcome (clearing id) a =
      (.ok ⟨a.world.heap, .done⟩, { a with world := { a.world with caches := caches } }) := by
  cases id with
  | none => exact ⟨a.world.caches, ha, rfl⟩
  | some id =>
    exact ⟨_, forall_mem_setIfInBounds ha (Cache.compiled_empty _) id, rfl⟩

theorem playsFrom_clearCache {a b : Room} (hab : a.Paired p b) (name : String) :
    p.PlaysFrom Shown.Paired (perform (.clearCache name)) (perform (.clearCache name)) a b := by
  rw [perform]
  refine playsFrom_find_bind hab hab.caches name fun id id' _ => ⟨p, le_rfl, ?_⟩
  obtain ⟨cs, hcs, hout⟩ := exists_outcome_clearing hab.world.left id
  obtain ⟨cs', hcs', hout'⟩ := exists_outcome_clearing hab.world.right id'
  change Room.Paired p (outcome (clearing id) a).2 (outcome (clearing id') b).2 ∧
    Results _ _ (outcome (clearing id) a).1 (outcome (clearing id') b).1
  rw [hout, hout']
  exact ⟨hab.setWorld le_rfl (hab.world.setCaches hcs hcs'),
    .ok ⟨p, le_rfl, hab.world.heap, .done⟩⟩

/-- **Performing a step in rooms that go together brings about the same.** -/
theorem playsFrom_perform {a b : Room} (hab : a.Paired p b) {s s' : Step}
    (hs : s.Paired p a.world.heap b.world.heap s') :
    p.PlaysFrom Shown.Paired (perform s) (perform s') a b := by
  cases hs with
  | name name hi =>
    refine (plays_names fun a b hab => ?_).bind (fun _ _ _ _ _ => plays_shown .done) a b hab
    exact { hab with values := .cons ⟨rfl, hi⟩ hab.values }
  | mutate name hm =>
    rw [perform, perform]
    refine (plays_valueOf name).bind (fun q hpq v w hv => ?_) a b hab
    have hassign := agrees_assign hv (hm.path.mono hpq) (hm.value.mono hpq)
    exact (plays_session (Session.instep_eval hassign)).bind fun _ _ _ _ _ => plays_shown .done
  | «show» name =>
    exact (plays_valueOf name).bind (fun _ _ _ _ hv => plays_shown (.value hv)) a b hab
  | applyDefaults hc snapshot =>
    rw [perform, perform]
    refine (playsFrom_session hab (Session.instepFrom_applyDefaults hab.world hc)).bind ?_
    intro q hpq d d' hd
    cases snapshot with
    | none => exact plays_shownDefaults hd
    | some name =>
      refine (plays_names fun a b hab => ?_).bind fun r hqr _ _ _ =>
        plays_shownDefaults (hd.imp (Pairing.into hqr))
      exact { hab with snapshots := .cons ⟨rfl, hd⟩ hab.snapshots }
  | applyEnvironment start he =>
    rw [perform, perform]
    exact (playsFrom_session hab (Session.instepFrom_applyEnvironment hab.world start he)).bind
      fun _ _ _ _ hd => plays_shownDefaults hd
  | defaults snapshot =>
    cases snapshot with
    | none =>
      rw [perform]
      exact agree_get_bind (fun _ _ hab => plays_shownDefaults hab.world.defaults) a b hab
    | some name =>
      rw [perform]
      exact plays_find_bind (fun _ _ hab => hab.snapshots) name
        (fun _ _ hd => plays_shownDefaults hd) a b hab
  | resetDefaults =>
    rw [perform]
    exact (plays_session Session.instep_resetDefaults).bind
      (fun _ _ _ _ hd => plays_shownDefaults hd) a b hab
  | newBox name ho cache => exact playsFrom_newBox hab name ho cache
  | cloneBox name copy =>
    rw [perform]
    refine plays_box_bind name (fun id => ?_) a b hab
    refine (plays_session (Session.instep_cloneBox id)).bind ?_
    rintro q hpq id' _ rfl
    exact plays_nameBox copy id'
  | message name hr =>
    rw [perform, perform]
    exact plays_box_bind name (fun id => (plays_session (Session.instep_message id hr)).bind
      fun _ _ _ _ hv => plays_shown (.value hv)) a b hab
  | messages name hv hm =>
    rw [perform, perform]
    refine plays_box_bind name (fun id => ?_) a b hab
    refine (plays_session (Session.instep_boxMessages id hv)).bind ?_
    rintro q hpq ⟨c, l⟩ ⟨d, l'⟩ ⟨hcd, hl⟩
    refine (plays_session (Session.instep_eval (Catalog.agrees_toDict hcd))).bind ?_
    intro r hqr x y hxy
    exact plays_shownThen (.messages hxy (hl.mono hqr)) hxy (mutations_mono (hpq.trans hqr) hm)
  | addMessages name hs =>
    rw [perform, perform]
    refine playsFrom_box_bind hab name fun id => ?_
    exact (playsFrom_session hab (Session.instepFrom_addBoxMessages hab.world id hs)).bind
      fun _ _ _ _ _ => plays_shown .done
  | setLanguage name hv =>
    rw [perform, perform]
    exact plays_box_bind name (fun id => (plays_session (Session.instep_setLanguage id hv)).bind
      fun _ _ _ _ _ => plays_shown .done) a b hab
  | state name =>
    exact plays_box_bind name (fun id => plays_shownBox id) a b hab
  | @watch name box r s hr =>
    rw [perform, perform]
    refine plays_box_bind box (fun id => ?_) a b hab
    have hwatch : Watch.Paired p ⟨name, id, r⟩ ⟨name, id, s⟩ := ⟨rfl, rfl, hr⟩
    refine (plays_session (Session.instep_newWatch hwatch)).bind ?_
    rintro q hpq c _ rfl
    refine (plays_names fun a b hab => ?_).bind fun r hqr _ _ _ => agree_get_bind fun a b hab => ?_
    · exact { hab with watches := .cons ⟨rfl, rfl⟩ hab.watches }
    · rw [hab.world.graph.runsOf]
      exact plays_shown (.count _)
  | stop name =>
    rw [perform]
    refine plays_find_bind (fun _ _ hab => hab.watches) name ?_ a b hab
    rintro c _ rfl
    refine (plays_session (Session.instep_stopWatch c)).bind fun q hpq _ _ _ =>
      agree_get_bind fun a b hab => ?_
    rw [hab.world.graph.runsOf]
    exact plays_shown (.count _)
  | newCache name limit hidle => exact playsFrom_newCache hab name limit hidle
  | clearCache name => exact playsFrom_clearCache hab name
  | newStore name hs =>
    rw [perform, perform]
    exact (playsFrom_session hab (Session.instepFrom_newStore hab.world hs)).bind
      fun _ _ _ _ hcd => plays_nameStore name hcd
  | addToStore name hs =>
    rw [perform, perform]
    refine playsFrom_find_bind hab hab.stores name fun c d hcd => ?_
    exact (playsFrom_session hab (Session.instepFrom_addMessages hab.world hcd hs)).bind
      fun _ _ _ _ hcd => plays_nameStore name hcd
  | copyStore name copy =>
    rw [perform]
    exact plays_find_bind (fun _ _ hab => hab.stores) name
      (fun _ _ hcd => plays_nameStore copy (Catalog.merge_paired .nil hcd)) a b hab
  | storeMessages name hv hm =>
    rw [perform, perform]
    refine plays_find_bind (fun _ _ hab => hab.stores) name (fun c d hcd => ?_) a b hab
    refine (plays_session (Session.instep_mergedMessages hcd hv)).bind fun q hpq c d hcd => ?_
    refine (plays_session (Session.instep_eval (Catalog.agrees_toDict hcd))).bind ?_
    intro r hqr x y hxy
    exact plays_shownThen (.value hxy) hxy (mutations_mono (hpq.trans hqr) hm)
  | store name hm =>
    exact plays_find_bind (fun _ _ hab => hab.stores) name
      (fun _ _ hcd => plays_shownStore hcd hm) a b hab
  | @storeHas name v w hv =>
    rw [perform, perform]
    refine plays_find_bind (fun _ _ hab => hab.stores) name (fun c d hcd => ?_) a b hab
    have hread : p.InStep (fun _ => Option.Rel (CatalogNode.Paired p))
        (Session.reading fun _ => c.atLanguage v) (Session.reading fun _ => d.atLanguage w) :=
      fun a b hab => Session.instepFrom_reading hab (f := fun _ => c.atLanguage v)
        (g := fun _ => d.atLanguage w) (Catalog.atLanguage_paired hcd hv)
    refine (plays_session hread).bind fun q hpq x y hxy => plays_shown ?_
    cases hxy <;> exact .flag _

end Play

/-! ## Attempting -/

/-- A room with other values in the heap. -/
def Room.setHeap (room : Room) (heap : Heap) : Room :=
  { room with world := { room.world with heap := heap } }

/-- A room as it is when a step starts. -/
def Room.cleared (room : Room) : Room :=
  { room with world := { room.world with log := [], events := [] } }

theorem Room.Paired.cleared {a b : Room} (h : a.Paired p b) : a.cleared.Paired p b.cleared := by
  have hlog : World.Paired p { a.world with log := [] } { b.world with log := [] } :=
    h.world.setLog .nil
  exact h.setWorld le_rfl (hlog.setEvents .nil)

theorem Room.Paired.setHeap {a b : Room} (h : a.Paired p b) (hpq : p.Into q) {k k' : Heap}
    (hk : k.Paired q k') (hj : q.fault (.failure .attribute)) :
    (a.setHeap k).Paired q (b.setHeap k') := h.imp hpq (h.world.imp hpq hk hj)

/-- Reports on steps that brought about the same. -/
structure StepReport.Paired (p : Pairing) (r r' : StepReport) : Prop where
  result : Results (StepError.Paired p) (Shown.Paired p) r.result r'.result
  events : p.Named r.events r'.events
  log : List.Forall₂ (LogEvent.Paired p) (noted r.log) (noted r'.log)
  heap : r.heap.Paired p r'.heap

theorem noted_reverse (log : List LogEvent) : noted log.reverse = (noted log).reverse :=
  List.filter_reverse

/-- What is told of a step in a room. -/
def Room.report (room : Room) (s : Step) : StepReport := ((Play.attempt (pure s)).run room).1

/-- The room behind a step, whether it fails or not. -/
def Room.after (room : Room) (s : Step) : Room := ((Play.attempt (pure s)).run room).2

theorem Room.after_eq (room : Room) (s : Step) :
    room.after s = (outcome (Play.perform s) room.cleared).2 := rfl

theorem Room.report_eq (room : Room) (s : Step) :
    room.report s = ⟨(outcome (Play.perform s) room.cleared).1,
      (room.after s).world.events.reverse, (room.after s).world.log.reverse,
      (room.after s).world.heap⟩ := rfl

/-- **A step in rooms that go together brings about the same, and leaves rooms that go together.** -/
theorem Room.Paired.step {a b : Room} (hab : a.cleared.Paired p b.cleared) {s s' : Step}
    (hs : s.Paired p a.world.heap b.world.heap s') :
    ∃ q, p ≤ q ∧ (a.report s).Paired q (b.report s') ∧ (a.after s).Paired q (b.after s') := by
  obtain ⟨q, hpq, hroom, hresult⟩ := Play.playsFrom_perform hab hs
  rw [← Room.after_eq, ← Room.after_eq] at hroom
  rw [Room.report_eq, Room.report_eq]
  refine ⟨q, hpq, ⟨hresult, ?_, ?_, hroom.world.heap⟩, hroom⟩
  · exact List.forall₂_reverse_iff.mpr hroom.world.events
  · dsimp only
    rw [noted_reverse, noted_reverse]
    exact List.forall₂_reverse_iff.mpr hroom.world.log

end Wording
