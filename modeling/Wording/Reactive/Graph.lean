/-!
# Reactive graphs

Computations depend on dependencies: a computation that runs is put down by every dependency that it
reads, and runs again when one of them changes. The graph keeps both directions of this relation, in
the order in which they came about, and the computations that are running, the innermost one first.

The operations here change the graph only; what a computation does is left to those who run it, in
between `enter` and `leave`.
-/

namespace Wording

/-- A computation: what it does, and what the graph knows of it. -/
structure Computation (β : Type) where
  body : β
  runs : Nat
  /-- It has begun a run that has not ended. -/
  running : Bool
  stopped : Bool
  /-- The dependencies that it has read in its last run, the first one first. -/
  dependencies : List Nat

structure Graph (β : Type) where
  /-- The computations to run again, for each dependency. -/
  dependents : Array (List Nat)
  computations : Array (Computation β)
  /-- The computations that are running, the innermost one first. -/
  stack : List Nat

namespace Graph

variable {β : Type}

def empty : Graph β := ⟨#[], #[], []⟩

/-! ## Making -/

def newDependency (g : Graph β) : Nat × Graph β :=
  (g.dependents.size, { g with dependents := g.dependents.push [] })

/-- A computation that has not run yet. -/
def newComputation (g : Graph β) (body : β) : Nat × Graph β :=
  (g.computations.size, { g with computations := g.computations.push ⟨body, 0, false, false, []⟩ })

/-! ## Reading -/

def dependentsOf (g : Graph β) (d : Nat) : List Nat := g.dependents[d]?.getD []

def dependenciesOf (g : Graph β) (c : Nat) : List Nat :=
  (g.computations[c]?.map (·.dependencies)).getD []

def runsOf (g : Graph β) (c : Nat) : Nat := (g.computations[c]?.map (·.runs)).getD 0

def isStopped (g : Graph β) (c : Nat) : Bool := g.computations[c]?.any (·.stopped)

def isRunning (g : Graph β) (c : Nat) : Bool := g.computations[c]?.any (·.running)

/-- A computation that is stopped or running does not run. -/
def canRun (g : Graph β) (c : Nat) : Bool :=
  c < g.computations.size && !g.isStopped c && !g.isRunning c

/-- The computation that reads. -/
def active? (g : Graph β) : Option Nat := g.stack.head?

/-! ## Changing -/

def modify (g : Graph β) (c : Nat) (f : Computation β → Computation β) : Graph β :=
  { g with computations := g.computations.modify c f }

/-- Puts a value at the end of a list that does not have it. -/
def append (xs : List Nat) (x : Nat) : List Nat := if xs.contains x then xs else xs ++ [x]

/-- Puts down that a computation reads a dependency. -/
def link (g : Graph β) (d c : Nat) : Graph β :=
  if (g.dependentsOf d).contains c then g
  else
    { g with dependents := g.dependents.modify d (· ++ [c]) }.modify c fun k =>
      { k with dependencies := append k.dependencies d }

/-- A dependency is read, by the active computation unless another one is named. Tells whether there
is one. -/
def depend (g : Graph β) (d : Nat) (c : Option Nat) : Bool × Graph β :=
  match c.or g.active? with
  | none => (false, g)
  | some c => (true, g.link d c)

/-- Takes a computation off all its dependencies. -/
def detach (g : Graph β) (c : Nat) : Graph β :=
  { g with dependents :=
      (g.dependenciesOf c).foldl (fun ds d => ds.modify d (·.erase c)) g.dependents }.modify c
    fun k => { k with dependencies := [] }

/-- A computation is taken off its dependencies and never runs again. -/
def stop (g : Graph β) (c : Nat) : Graph β :=
  (g.modify c fun k => { k with stopped := true }).detach c

/-- A run begins. -/
def enter (g : Graph β) (c : Nat) : Graph β :=
  { g.modify c fun k => { k with runs := k.runs + 1, running := true } with stack := c :: g.stack }

/-- The innermost run ends. -/
def leave (g : Graph β) : Graph β :=
  match g.stack with
  | [] => g
  | c :: rest => { g.modify c fun k => { k with running := false } with stack := rest }

end Graph

end Wording
