import Wording.Box.Store
import Wording.Text.FieldName

/-!
# Boxes

A box turns issues into messages. The messages of a language are looked up by the type of the error
and, below it, by the generic name of the field; a default stands in where there is none for the
field. A text is compiled as a template and written with what is known of the issue; a callable is
called with it. Whoever asks for the language of a box depends on it: its watches run again when it
changes.
-/

namespace Wording

/-! ## Selecting -/

/-- The key of the message for all fields that have none of their own. -/
def Catalog.defaultKey : Value := .str "_default"

/-- The generic name of a field; only a text is a name. -/
def genericName? : Value → Option String
  | .str s => some (String.ofList (Text.FieldName.generic s.toList))
  | _ => none

namespace CatalogNode

/-- The value of a leaf. -/
def leaf? : CatalogNode → Option Value
  | .leaf .null => none
  | .leaf v => some v
  | .node _ => none

/-- What is found at a key and says something. -/
def filled? (c : Catalog) (k : Value) : Option CatalogNode :=
  match c.find? k with
  | some (.leaf .null) => none
  | n => n

/-- The message of a node for a field: the node itself if it is one; below it, that of the field or
the default. -/
def select (generic : Option String) : CatalogNode → Option Value
  | .leaf v => if v.isCallable then some v else match v with
    | .str s => some (.str s)
    | _ => none
  | .node children =>
    ((generic.bind fun g => filled? children (.str g)).or
      (filled? children Catalog.defaultKey)).bind leaf?

end CatalogNode

namespace Session

/-! ## Making boxes -/

/-- A tracker of a kind. -/
def newTracker : TrackerKind → Session Tracker
  | .none => return .none
  | .dependency => do
    let w ← get
    let (d, g) := w.graph.newDependency
    set { w with graph := g }
    return .dependency d
  | .recording => return .recording 0 0

/-- What a box is made with. -/
structure BoxOptions where
  escape : MarkerOffer
  interpolate : MarkerOffer
  evaluate : MarkerOffer
  language : Value
  messages : Value
  tracker : TrackerKind
  cache : Option Nat

/-- The language that is given, that of the defaults, or the fallback. -/
def initialLanguage (language : Value) : Session Value := do
  if ← truthy language then return language
  else
    match (← get).defaults.language with
    | some s => return .str (if s.isEmpty then Defaults.fallbackLanguage else s)
    | none => return .str Defaults.fallbackLanguage

/-- A box that is not in the world yet. -/
def makeBox (o : BoxOptions) : Session Box := do
  let d := (← get).defaults
  let language ← initialLanguage o.language
  let markers ← match Markers.ofOffers
      (o.escape.orElse ((d.offer .escape).orElse Marker.doubleBraces))
      (o.interpolate.orElse ((d.offer .interpolate).orElse Marker.tripleBraces))
      (o.evaluate.orElse (d.offer .evaluate)) with
    | .ok m => pure m
    | .error e => throw (.marker e)
  let messages ← newStore o.messages
  let tracker ← newTracker o.tracker
  return ⟨language, markers, messages, tracker, o.cache⟩

/-- Puts a box into the world. -/
def addBox (b : Box) : Session Nat := do
  let w ← get
  set { w with boxes := w.boxes.push b }
  return w.boxes.size

def newBox (o : BoxOptions) : Session Nat := do addBox (← makeBox o)

def box (id : Nat) : Session Box := do
  match (← get).boxes[id]? with
  | some b => return b
  | none => throw (.fault .exhausted)

def setBox (id : Nat) (b : Box) : Session Unit :=
  modify fun w => { w with boxes := w.boxes.setIfInBounds id b }

/-- A box like another one, with a tracker of its own. -/
def cloneBox (id : Nat) : Session Nat := do
  let b ← box id
  let fresh ← makeBox ⟨.absent, .absent, .absent, b.language, .null, b.tracker.kind, b.cache⟩
  addBox { fresh with markers := b.markers, messages := Catalog.merge [] b.messages }

/-! ## Messages -/

/-- The language of a box is read. -/
def readLanguage (id : Nat) : Session Value := do
  let b ← box id
  match b.tracker with
  | .none => return b.language
  | .dependency d =>
    modify fun w => { w with graph := (w.graph.depend d none).2 }
    return b.language
  | .recording n m =>
    setBox id { b with tracker := .recording (n + 1) m }
    return b.language

/-- The messages of a box and their language, which is that of the box if none is given. -/
def boxMessages (id : Nat) (language : Value) : Session (Catalog × Value) := do
  let language ← match language with
    | .null => readLanguage id
    | v => pure v
  let b ← box id
  return (← mergedMessages b.messages language, language)

/-- Compiles a text, and keeps the template in the cache of the box if it has one. -/
def compileText (b : Box) (text : String) : Session Template := do
  note (.compiled text.length)
  match Template.compile b.markers text with
  | .error e => throw (.template e)
  | .ok t =>
    match b.cache with
    | none => return t
    | some id =>
      setCache id ((← cache id).set text b.markers t)
      return t

/-- The template of a text, from the cache of the box if it is there. -/
def template (b : Box) (text : String) : Session Template := do
  match b.cache with
  | none => compileText b text
  | some id =>
    match (← cache id).get? text b.markers with
    | some t => return t
    | none => compileText b text

/-- What templates and callables are given: the generic name, over it the context, over it the
fields of the issue. -/
def renderContext (generic : Option String) (context : Value) (fields : Entries) :
    Session Value := do
  let start : Entries := [(.str "genericName", (generic.map Value.str).getD .null)]
  let context ← if ← truthy context then reading (Entries.ofValue · context) else pure []
  eval (Eval.newDict (Entries.overlay fields (Entries.overlay context start)))

/-- The message for a field that there is no message for. -/
def fallback (name errorType : Value) (generic : Option String) : Session Value := do
  let h := (← get).heap
  let typeText := match h.display errorType with
    | .ok s => s
    | .error _ => ""
  note (.fallback name errorType typeText generic)
  let text ← reading (·.display name)
  return .str (text ++ " is invalid")

/-- The message that stands ready in an issue. -/
def preformatted? (fields : Entries) : Option Value :=
  match fields.lookup (.str "message") with
  | some (.str s) => if s.isEmpty then none else some (.str s)
  | _ => none

/-- The answer for the fields of an issue, given what has been selected for them: a text is a
template, a callable is called, and anything else is no message. -/
def answer (b : Box) (r : Request) (fields : Entries) (selected : Option Value) :
    Session Value := do
  let name := (fields.lookup (.str "name")).getD .null
  let errorType := (fields.lookup (.str "type")).getD .null
  let generic := genericName? name
  match selected with
  | some (.str text) =>
    let t ← template b text
    let context ← renderContext generic r.context fields
    let machine := (← get).bounds.machine
    return .str (← eval (renderTemplate machine t.nodes (some context)))
  | some v =>
    if v.isCallable then
      let context ← renderContext generic r.context fields
      let machine := (← get).bounds.machine
      eval (machine.call v ⟨[context], []⟩)
    else fallback name errorType generic
  | none => fallback name errorType generic

/-- The message of a box for an issue. -/
def message (id : Nat) (r : Request) : Session Value := do
  let fields ← reading r.issue.fields
  match preformatted? fields with
  | some m => return m
  | none =>
    let errorType := (fields.lookup (.str "type")).getD .null
    let generic := genericName? ((fields.lookup (.str "name")).getD .null)
    let (messages, _) ← boxMessages id r.language
    if !errorType.isKey then fail .type
    answer (← box id) r fields ((messages.find? errorType).bind (CatalogNode.select generic))

/-! ## Watches -/

/-- Runs a watch that can run: the message that it gets is an event. -/
def runWatch (c : Nat) : Session Unit := do
  let w ← get
  match w.graph.computations[c]? with
  | none => return
  | some k =>
    if w.graph.canRun c then
      modify fun w => { w with graph := w.graph.enter c }
      try
        let v ← message k.body.box k.body.request
        modify fun w => { w with events := (k.body.name, v) :: w.events }
      finally modify fun w => { w with graph := w.graph.leave }

/-- Runs watches again that a change concerns. -/
def rerunAll : List Nat → Session Unit
  | [] => return
  | c :: cs => do
    if (← get).graph.canRun c then
      modify fun w => { w with graph := w.graph.detach c }
      runWatch c
    rerunAll cs

/-- A watch, which runs at once. -/
def newWatch (watch : Watch) : Session Nat := do
  let w ← get
  let (c, g) := w.graph.newComputation watch
  set { w with graph := g }
  runWatch c
  return c

def stopWatch (c : Nat) : Session Unit :=
  modify fun w => { w with graph := w.graph.stop c }

/-- Gives a box another language, and lets its watches know. -/
def setLanguage (id : Nat) (language : Value) : Session Unit := do
  let b ← box id
  setBox id { b with language := language }
  match b.tracker with
  | .none => return
  | .recording n m => setBox id { b with language := language, tracker := .recording n (m + 1) }
  | .dependency d =>
    let watches := (← get).graph.dependentsOf d
    note (.dependencyChanged watches.length)
    rerunAll watches

/-- Adds messages to those of a box. -/
def addBoxMessages (id : Nat) (messages : Value) : Session Unit := do
  let b ← box id
  setBox id { b with messages := ← addMessages b.messages messages }

end Session

end Wording
