import Wording.Reactive.Graph
import Wording.Value.Failure

/-!
# Scripts

Acts on a reactive graph, and computations whose bodies are lists of acts. The acts tell what
happens in a trace. An act that fails ends the body it stands in, and all that was under way around
it, up to the innermost `attempt`.

Acts are performed along their structure. How a computation is run is a parameter, `run`; `runTo`
runs computations within each other at most `depth` deep.
-/

namespace Wording

/-! ## Acts -/

inductive ReactiveAct where
  | dependency (name : String)
  /-- A computation that runs at once. -/
  | autorun (name : String) (body : List ReactiveAct)
  | computation (name : String) (body : List ReactiveAct)
  /-- Reads a dependency, for the active computation unless another one is named. -/
  | depend (dependency : String) (computation : Option String)
  | changed (dependency : String)
  /-- Without a name, the computation whose body it is. -/
  | stop (computation : Option String)
  | run (computation : Option String)
  | invalidate (computation : Option String)
  | say (text : String)
  /-- Only in run number `count`. -/
  | onRun (count : Int) (acts : List ReactiveAct)
  | attempt (acts : List ReactiveAct)
  | fail (failure : Failure)

/-- Why an act fails. -/
inductive ReactiveError where
  | failure (f : Failure)
  | unknown (name : Option String)
  /-- Runs within runs are too deep. -/
  | exhausted
  deriving DecidableEq, Repr

inductive ReactiveEvent where
  | run (computation : String) (count : Nat)
  | depend (dependency : String) (linked : Bool)
  | changing (dependency : String)
  | changed (dependency : String)
  | said (text : String)
  | caught (e : ReactiveError)
  deriving DecidableEq, Repr

/-! ## States -/

/-- A computation's name and its acts. -/
structure ScriptBody where
  name : String
  acts : List ReactiveAct

structure ReactiveState where
  graph : Graph ScriptBody
  /-- The names of dependencies with their numbers, the last one first. -/
  dependencies : List (String × Nat)
  /-- What has happened, the last event first. -/
  trace : List ReactiveEvent

namespace ReactiveState

def empty : ReactiveState := ⟨.empty, [], []⟩

/-- The computations with their names. -/
def computationNames (s : ReactiveState) : List String :=
  (s.graph.computations.map (·.body.name)).toList

def dependency? (s : ReactiveState) (name : String) : Option Nat :=
  (s.dependencies.find? (·.1 == name)).map (·.2)

def computation? (s : ReactiveState) (name : String) : Option Nat :=
  s.computationNames.idxOf? name

/-- The name of a dependency by its number. -/
def dependencyName (s : ReactiveState) (d : Nat) : String :=
  ((s.dependencies.find? (·.2 == d)).map (·.1)).getD ""

/-- The name of a computation by its number. -/
def computationName (s : ReactiveState) (c : Nat) : String :=
  (s.graph.computations[c]?.map (·.body.name)).getD ""

/-- The name itself, or the first of the numbered names behind it that is not taken. -/
def freeName (taken : List String) (name : String) : String :=
  if taken.contains name then
    ((List.range (taken.length + 1)).map fun i => name ++ "#" ++ toString (i + 2)).find?
      (fun n => !taken.contains n) |>.getD name
  else name

end ReactiveState

/-! ## Performing -/

abbrev Reactive := ExceptT ReactiveError (StateM ReactiveState)

namespace Reactive

def tell (e : ReactiveEvent) : Reactive Unit := modify fun s => { s with trace := e :: s.trace }

def onGraph (f : Graph ScriptBody → Graph ScriptBody) : Reactive Unit :=
  modify fun s => { s with graph := f s.graph }

def dependency (name : String) : Reactive Nat := do
  match (← get).dependency? name with
  | some d => return d
  | none => throw (.unknown (some name))

/-- The computation of a name, or the one whose body is performed. -/
def computation (owner : Option Nat) (name : Option String) : Reactive Nat := do
  match name, owner with
  | some name, _ =>
    match (← get).computation? name with
    | some c => return c
    | none => throw (.unknown (some name))
  | none, some c => return c
  | none, none => throw (.unknown none)

def newComputation (name : String) (body : List ReactiveAct) : Reactive Nat := do
  let s ← get
  let (c, g) := s.graph.newComputation ⟨ReactiveState.freeName s.computationNames name, body⟩
  set { s with graph := g }
  return c

/-- Runs a computation again that has been taken off its dependencies. -/
def invalidate (run : Nat → Reactive Unit) (c : Nat) : Reactive Unit := do
  if (← get).graph.canRun c then
    onGraph (·.detach c)
    run c

def invalidateAll (run : Nat → Reactive Unit) : List Nat → Reactive Unit
  | [] => return
  | c :: cs => do
    invalidate run c
    invalidateAll run cs

/-- Runs all computations again that depend on a dependency, those that do so now. -/
def notify (run : Nat → Reactive Unit) (d : Nat) : Reactive Unit := do
  invalidateAll run ((← get).graph.dependentsOf d)

mutual

/-- Performs an act in the body of `owner`. -/
def perform (run : Nat → Reactive Unit) (owner : Option Nat) : ReactiveAct → Reactive Unit
  | .dependency name => modify fun s =>
    let (d, g) := s.graph.newDependency
    { s with graph := g, dependencies := (name, d) :: s.dependencies }
  | .autorun name body => do
    let c ← newComputation name body
    run c
  | .computation name body => do
    let _ ← newComputation name body
  | .depend name reader => do
    let d ← dependency name
    let c ← match reader with
      | none => pure none
      | some _ => some <$> computation owner reader
    let (linked, g) := (← get).graph.depend d c
    onGraph fun _ => g
    tell (.depend name linked)
  | .changed name => do
    let d ← dependency name
    tell (.changing name)
    notify run d
    tell (.changed name)
  | .stop name => do
    let c ← computation owner name
    onGraph (·.stop c)
  | .run name => do
    let c ← computation owner name
    run c
  | .invalidate name => do
    let c ← computation owner name
    invalidate run c
  | .say text => tell (.said text)
  | .onRun count acts => do
    let runs := (owner.map (← get).graph.runsOf).getD 0
    if (runs : Int) = count then performAll run owner acts
  | .attempt acts => do
    try performAll run owner acts
    catch e => tell (.caught e)
  | .fail f => throw (.failure f)

def performAll (run : Nat → Reactive Unit) (owner : Option Nat) :
    List ReactiveAct → Reactive Unit
  | [] => return
  | a :: acts => do
    perform run owner a
    performAll run owner acts

end

/-- Runs a computation that can run: its body is performed, and whether it fails or not the run is
over then. -/
def runWith (body : Nat → Reactive Unit) (c : Nat) : Reactive Unit := do
  if (← get).graph.canRun c then
    onGraph (·.enter c)
    try body c
    finally onGraph (·.leave)

/-- The body of a computation: its acts. -/
def script (run : Nat → Reactive Unit) (c : Nat) : Reactive Unit := do
  let s ← get
  tell (.run (s.computationName c) (s.graph.runsOf c))
  performAll run (some c) ((s.graph.computations[c]?.map (·.body.acts)).getD [])

/-- Runs computations within each other at most `depth` deep. -/
def runTo : Nat → Nat → Reactive Unit
  | 0 => fun _ => throw .exhausted
  | depth + 1 => runWith (script (runTo depth))

/-- Performs an act outside of all computations. -/
def act (depth : Nat) (a : ReactiveAct) : Reactive Unit := perform (runTo depth) none a

end Reactive

end Wording
