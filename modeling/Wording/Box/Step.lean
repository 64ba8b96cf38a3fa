import Wording.Box.Basic
import Wording.Value.Assign

/-!
# Steps

A session is a list of steps in a world of boxes. Steps name boxes, stores, caches, watches, old
defaults and values; a step that names what is not there fails. Each step is attempted on its own.
What a step answers is shown as it was when the step had its result, before the dictionary that it
gave out is changed.
-/

namespace Wording

/-- An assignment at the end of a path. -/
structure Mutation where
  path : List Value
  value : Value

inductive Step where
  /-- Gives a value a name. -/
  | name (name : String) (value : Issue)
  | mutate (name : String) (m : Mutation)
  | show (name : String)
  | applyDefaults (change : DefaultsChange) (snapshot : Option String)
  | applyEnvironment (start : String) (environ : Entries)
  /-- The defaults as they are, or as they were when they got a name. -/
  | defaults (snapshot : Option String)
  | resetDefaults
  /-- The cache that the options name is `cache`. -/
  | newBox (box : String) (options : Session.BoxOptions) (cache : Option String)
  | cloneBox (box copy : String)
  | message (box : String) (r : Request)
  | messages (box : String) (language : Value) (m : Option Mutation)
  | addMessages (box : String) (messages : Value)
  | setLanguage (box : String) (language : Value)
  | state (box : String)
  | watch (name box : String) (r : Request)
  | stop (name : String)
  /-- With `idle`, a cache that keeps nothing. -/
  | newCache (name : String) (limit : Option Int) (idle : Bool)
  | clearCache (name : String)
  | cacheSize (name : String)
  | newStore (name : String) (messages : Value)
  | addToStore (name : String) (messages : Value)
  | copyStore (name copy : String)
  | storeMessages (name : String) (language : Value) (m : Option Mutation)
  | store (name : String) (m : Option Mutation)
  | storeHas (name : String) (language : Value)

/-! ## Answers -/

inductive StepError where
  | error (e : Error)
  /-- Something that is named is not there. -/
  | unknown

/-- What a box is like. -/
structure BoxView where
  language : Value
  markers : Markers
  tracker : Tracker
  /-- Whether anything depends on the box by its tracker. -/
  hasDependents : Bool
  store : Value
  /-- The number of templates in its cache, if it has one. -/
  cacheSize : Option Nat

inductive Answer where
  | done
  | value (v : Value)
  | defaults (d : Defaults) (messages : Value)
  | box (b : BoxView)
  | messages (messages language : Value)
  | count (n : Nat)
  | flag (b : Bool)

/-- An answer with the heap in which its values lie. -/
structure Shown where
  heap : Heap
  answer : Answer

/-- What a step has brought about. -/
structure StepReport where
  result : Except StepError Shown
  /-- The messages that watches have got, the first one first. -/
  events : List (String × Value)
  log : List LogEvent
  /-- The heap behind the step. -/
  heap : Heap

/-! ## Names -/

structure Room where
  world : World
  values : List (String × Issue)
  snapshots : List (String × Defaults)
  boxes : List (String × Nat)
  /-- Caches by name; a cache that keeps nothing has no number. -/
  caches : List (String × Option Nat)
  stores : List (String × Catalog)
  watches : List (String × Nat)

def Room.start (b : Bounds) : Room := ⟨.start b, [], [], [], [], [], []⟩

abbrev Play := ExceptT StepError (StateM Room)

namespace Play

variable {α : Type}

/-- A step in the world. -/
def session (m : Session α) : Play α := do
  let room ← get
  let (r, w) := (ExceptT.run m).run room.world
  set { room with world := w }
  match r with
  | .ok a => return a
  | .error e => throw (.error e)

/-- What a name stands for. -/
def find (names : Room → List (String × α)) (name : String) : Play α := do
  match (names (← get)).find? (·.1 == name) with
  | some (_, a) => return a
  | none => throw .unknown

/-- The answer as it is now. -/
def shown (a : Answer) : Play Shown := do return ⟨(← get).world.heap, a⟩

/-- Shows a value, and then makes the change that goes with it. -/
def shownThen (a : Answer) (root : Value) (m : Option Mutation) : Play Shown := do
  let s ← shown a
  match m with
  | none => return s
  | some m =>
    session (Session.eval (assign root m.path m.value))
    return s

def shownDefaults (d : Defaults) : Play Shown := do
  let messages ← session (Session.eval d.messages.toDict)
  shown (.defaults d messages)

/-- What a box is like now. -/
def boxView (id : Nat) : Session BoxView := do
  let b ← Session.box id
  let store ← Session.eval b.messages.toDict
  let w ← get
  let hasDependents := match b.tracker with
    | .dependency d => !(w.graph.dependentsOf d).isEmpty
    | _ => false
  return ⟨b.language, b.markers, b.tracker, hasDependents, store,
    b.cache.bind fun id => w.caches[id]?.map (·.size)⟩

def shownBox (id : Nat) : Play Shown := do
  let view ← session (boxView id)
  shown (.box view)

/-- The value of a name that stands for a value. -/
def valueOf (name : String) : Play Value := do
  match ← find (·.values) name with
  | .value v => return v
  | .descriptor _ => return .foreign "ErrorDescriptor"

/-! ## Performing -/

/-- Performs a step. -/
def perform (s : Step) : Play Shown := do
  match s with
  | .name name value =>
    modify fun room => { room with values := (name, value) :: room.values }
    shown .done
  | .mutate name m =>
    let root ← valueOf name
    session (Session.eval (assign root m.path m.value))
    shown .done
  | .show name => shown (.value (← valueOf name))
  | .applyDefaults change snapshot =>
    let d ← session (Session.applyDefaults change)
    if let some name := snapshot then
      modify fun room => { room with snapshots := (name, d) :: room.snapshots }
    shownDefaults d
  | .applyEnvironment start environ =>
    shownDefaults (← session (Session.applyEnvironment start environ))
  | .defaults snapshot =>
    match snapshot with
    | none => shownDefaults (← get).world.defaults
    | some name => shownDefaults (← find (·.snapshots) name)
  | .resetDefaults => shownDefaults (← session Session.resetDefaults)
  | .newBox name options cache =>
    let cache ← match cache with
      | none => pure none
      | some c => find (·.caches) c
    let id ← session (Session.newBox { options with cache := cache })
    modify fun room => { room with boxes := (name, id) :: room.boxes }
    shownBox id
  | .cloneBox name copy =>
    let id ← session (Session.cloneBox (← find (·.boxes) name))
    modify fun room => { room with boxes := (copy, id) :: room.boxes }
    shownBox id
  | .message name r =>
    let id ← find (·.boxes) name
    shown (.value (← session (Session.message id r)))
  | .messages name language m =>
    let id ← find (·.boxes) name
    let (c, language) ← session (Session.boxMessages id language)
    let messages ← session (Session.eval c.toDict)
    shownThen (.messages messages language) messages m
  | .addMessages name messages =>
    let id ← find (·.boxes) name
    session (Session.addBoxMessages id messages)
    shown .done
  | .setLanguage name language =>
    let id ← find (·.boxes) name
    session (Session.setLanguage id language)
    shown .done
  | .state name => shownBox (← find (·.boxes) name)
  | .watch name box r =>
    let id ← find (·.boxes) box
    let c ← session (Session.newWatch ⟨name, id, r⟩)
    modify fun room => { room with watches := (name, c) :: room.watches }
    shown (.count ((← get).world.graph.runsOf c))
  | .stop name =>
    let c ← find (·.watches) name
    session (Session.stopWatch c)
    shown (.count ((← get).world.graph.runsOf c))
  | .newCache name limit idle =>
    let id ← if idle then pure none else some <$> session (Session.newCache limit)
    modify fun room => { room with caches := (name, id) :: room.caches }
    shown .done
  | .clearCache name =>
    match ← find (·.caches) name with
    | none => shown .done
    | some id =>
      session (do Session.setCache id (← Session.cache id).clear)
      shown .done
  | .cacheSize name =>
    match ← find (·.caches) name with
    | none => session (Session.fail .type)
    | some id => shown (.count (← session (Session.cache id)).size)
  | .newStore name messages =>
    let c ← session (Session.newStore messages)
    modify fun room => { room with stores := (name, c) :: room.stores }
    shownStore c none
  | .addToStore name messages =>
    let c ← session (Session.addMessages (← find (·.stores) name) messages)
    modify fun room => { room with stores := (name, c) :: room.stores }
    shownStore c none
  | .copyStore name copy =>
    let c := Catalog.merge [] (← find (·.stores) name)
    modify fun room => { room with stores := (copy, c) :: room.stores }
    shownStore c none
  | .storeMessages name language m =>
    let c ← session (Session.mergedMessages (← find (·.stores) name) language)
    let messages ← session (Session.eval c.toDict)
    shownThen (.value messages) messages m
  | .store name m => shownStore (← find (·.stores) name) m
  | .storeHas name language =>
    let c ← find (·.stores) name
    let n ← session (Session.reading fun _ => c.atLanguage language)
    shown (.flag n.isSome)
where
  shownStore (c : Catalog) (m : Option Mutation) : Play Shown := do
    let messages ← session (Session.eval c.toDict)
    shownThen (.value messages) messages m

/-- Attempts a step, and tells what came of it. -/
def attempt (s : Play Step) : StateM Room StepReport := do
  modify fun room => { room with world := { room.world with log := [], events := [] } }
  let result ← (do perform (← s) : Play Shown).run
  let w := (← get).world
  return ⟨result, w.events.reverse, w.log.reverse, w.heap⟩

end Play

end Wording
