import Wording.Issue.Basic
import Wording.Log.Event
import Wording.Reactive.Graph
import Wording.Settings.Defaults
import Wording.Template.Cache
import Wording.Template.Render

/-!
# The world of boxes

What boxes share: the heap, the defaults, caches of templates and the reactive graph. Watches are
the computations of this graph: each asks a box for a message whenever it runs, and what it gets is
an event. A step that fails keeps what it has done before.
-/

namespace Wording

/-! ## Boxes -/

/-- How a box lets others know that its language changes. -/
inductive Tracker where
  | none
  /-- By a dependency of the reactive graph. -/
  | dependency (d : Nat)
  /-- By counting how often it was asked for its language and how often it has changed it. -/
  | recording (depends changes : Nat)
  deriving DecidableEq, Repr

/-- The kinds of trackers that boxes are made with. -/
inductive TrackerKind where
  | none
  | dependency
  | recording
  deriving DecidableEq, Repr

def Tracker.kind : Tracker → TrackerKind
  | .none => .none
  | .dependency _ => .dependency
  | .recording _ _ => .recording

/-- A box: it gives messages in a language, from its own catalog over the one of the defaults. -/
structure Box where
  language : Value
  markers : Markers
  messages : Catalog
  tracker : Tracker
  /-- The cache of templates that it uses, if it uses one. -/
  cache : Option Nat

/-- What is asked of a box. -/
structure Request where
  issue : Issue
  context : Value
  /-- Null for the language of the box. -/
  language : Value

/-- A computation that asks a box for a message. -/
structure Watch where
  name : String
  box : Nat
  request : Request

/-! ## State -/

structure World where
  bounds : Bounds
  heap : Heap
  defaults : Defaults
  caches : Array Cache
  boxes : Array Box
  graph : Graph Watch
  /-- The last event first. -/
  log : List LogEvent
  /-- The messages that watches have got, the last one first. -/
  events : List (String × Value)

namespace World

def start (b : Bounds) : World := ⟨b, .empty, .empty, #[], #[], .empty, [], []⟩

end World

/-- A step in the world. -/
abbrev Session := ExceptT Error (StateM World)

namespace Session

variable {α : Type}

/-- A computation on values. -/
def eval (m : Eval α) : Session α := do
  let w ← get
  let (r, h) := m.run w.heap
  set { w with heap := h }
  match r with
  | .ok a => return a
  | .error f => throw (.fault f)

def fail (f : Failure) : Session α := throw (.fault (.failure f))

/-- A result that depends on the heap. -/
def reading (f : Heap → Except Failure α) : Session α := do
  match f (← get).heap with
  | .ok a => return a
  | .error f => fail f

def lift : Except Error α → Session α
  | .ok a => return a
  | .error e => throw e

def note (e : LogEvent) : Session Unit := modify fun w => { w with log := e :: w.log }

def truthy (v : Value) : Session Bool := do return (← get).heap.truthy v

/-! ## Defaults -/

/-- Changes the defaults. -/
def applyDefaults (c : DefaultsChange) : Session Defaults := do
  let w ← get
  let (d, changed) ← lift (w.defaults.apply w.heap c)
  modify fun w => { w with defaults := d }
  if !changed.isEmpty then note (.defaultsChanged changed d.language)
  return d

/-- Changes the defaults to what the environment asks for. -/
def applyEnvironment (start : String) (environ : Entries) : Session Defaults := do
  let c ← lift (Environment.change (← get).heap start environ)
  applyDefaults c

def resetDefaults : Session Defaults := do
  modify fun w => { w with defaults := .empty }
  return .empty

/-! ## Caches -/

def cache (id : Nat) : Session Cache := do return (← get).caches[id]?.getD ⟨none, []⟩

def setCache (id : Nat) (c : Cache) : Session Unit :=
  modify fun w => { w with caches := w.caches.setIfInBounds id c }

def newCache (limit : Option Int) : Session Nat := do
  match Cache.ofLimit? limit with
  | none => throw .cacheTooSmall
  | some c =>
    let w ← get
    set { w with caches := w.caches.push c }
    return w.caches.size

end Session

end Wording
