import Wording.Template.Node
import Wording.Value.Method
import Wording.Value.Failure

/-!
# Values

The values that contexts hold and expressions compute. Lists, dictionaries and records have an
identity: a value only refers to them, and what they hold lies in a heap. All other values are what
they look like.

A computation on values may read the heap, allocate in it, change a list in it, and fail. What it
has changed before it fails stays changed.
-/

namespace Wording

/-! ## Types of values -/

/-- A place in the heap. -/
abbrev Ref := Nat

/-- The functions that every template can use. -/
inductive Helper where
  | abs
  | float
  | int
  | join
  | len
  | lower
  | max
  | min
  | round
  | sorted
  | str
  | upper
  deriving DecidableEq, Repr

inductive Value where
  | null
  | ellipsis
  | bool (b : Bool)
  | int (n : Int)
  | float (x : Float)
  | complex (re im : Float)
  | str (s : String)
  | bytes (bs : List UInt8)
  | tuple (items : List Value)
  | slice (lower upper step : Value)
  | list (ref : Ref)
  | dict (ref : Ref)
  | record (ref : Ref)
  | helper (h : Helper)
  /-- A method of a value. -/
  | method (target : Value) (m : Method)
  /-- A method of a kind of values, which takes the value as its first argument. -/
  | unbound (kind : Receiver) (m : Method)
  /-- A method of a kind that takes no value of it. -/
  | static (kind : Receiver) (m : Method)
  /-- A value of a kind with which templates can do nothing. -/
  | foreign (kind : String)
  /-- Gives `v` whatever the arguments. -/
  | constant (v : Value)
  /-- Gives its arguments back. -/
  | echo
  /-- Gives the sorted keys of its argument, joined with commas. -/
  | keyNames
  /-- Gives the entry at `key` of its argument between angle brackets. -/
  | entryAt (key : Value)
  /-- Fails. -/
  | failing (fault : Fault)
  /-- Writes a compiled template with its argument as the context. -/
  | renderer (template : String) (nodes : List Node)

namespace Value

/-- The name of the kind of a value, as messages show it. -/
def kindName : Value → String
  | null => "NoneType"
  | ellipsis => "ellipsis"
  | bool _ => "bool"
  | int _ => "int"
  | float _ => "float"
  | complex _ _ => "complex"
  | str _ => "str"
  | bytes _ => "bytes"
  | tuple _ => "tuple"
  | slice _ _ _ => "slice"
  | list _ => "list"
  | dict _ => "dict"
  | record _ => "SimpleNamespace"
  | helper .int | helper .float | helper .str => "type"
  | helper .join | helper .lower | helper .upper => "function"
  | helper _ => "builtin_function_or_method"
  | method _ _ | static _ _ => "builtin_function_or_method"
  | unbound _ _ => "method_descriptor"
  | foreign kind => kind
  | constant _ | echo | keyNames | entryAt _ | failing _ => "function"
  | renderer _ _ => "Renderer"

def isCallable : Value → Bool
  | helper _ | method _ _ | unbound _ _ | static _ _ | constant _ | echo | keyNames
  | entryAt _ | failing _ | renderer _ _ => true
  | _ => false

/-- The value that a literal writes. -/
def ofLiteral : Literal → Value
  | .null => null
  | .bool b => bool b
  | .int n => int n
  | .float x => float x
  | .imaginary x => complex 0 x
  | .text s _ => str s
  | .bytes bs => bytes bs
  | .ellipsis => ellipsis

end Value

/-! ## The heap -/

/-- Entries in the order in which their keys first came. -/
abbrev Entries := List (Value × Value)

/-- What a place in the heap holds. -/
inductive Cell where
  | list (items : Array Value)
  | dict (entries : Entries)
  /-- The attributes of a record. -/
  | record (attributes : List (String × Value))

structure Heap where
  cells : Array Cell

namespace Heap

def empty : Heap := ⟨#[]⟩

/-- The items of a list; none for a place that holds no list. -/
def items (h : Heap) (r : Ref) : Array Value :=
  match h.cells[r]? with
  | some (.list items) => items
  | _ => #[]

def entries (h : Heap) (r : Ref) : Entries :=
  match h.cells[r]? with
  | some (.dict entries) => entries
  | _ => []

def attributes (h : Heap) (r : Ref) : List (String × Value) :=
  match h.cells[r]? with
  | some (.record attributes) => attributes
  | _ => []

/-- Puts a cell into a new place. -/
def alloc (h : Heap) (c : Cell) : Ref × Heap := (h.cells.size, ⟨h.cells.push c⟩)

def write (h : Heap) (r : Ref) (c : Cell) : Heap := ⟨h.cells.setIfInBounds r c⟩

/-- Gives a list other items; a place that holds no list stays as it is. -/
def setItems (h : Heap) (r : Ref) (items : Array Value) : Heap :=
  match h.cells[r]? with
  | some (.list _) => h.write r (.list items)
  | _ => h

end Heap

/-! ## Computations -/

/-- A computation on values. -/
abbrev Eval := ExceptT Fault (StateM Heap)

namespace Eval

def fail {α : Type} (f : Failure) : Eval α := throw (.failure f)

/-- What `f` reads off the heap. -/
def reading {α : Type} (f : Heap → α) : Eval α := do return f (← get)

/-- The result of a computation that does not touch the heap. -/
def lift {α : Type} : Except Failure α → Eval α
  | .ok a => return a
  | .error f => fail f

def alloc (c : Cell) : Eval Ref := modifyGet fun h => h.alloc c

/-- A new list. -/
def newList (items : List Value) : Eval Value := do return .list (← alloc (.list items.toArray))

/-- A new dictionary. -/
def newDict (entries : Entries) : Eval Value := do return .dict (← alloc (.dict entries))

def items (r : Ref) : Eval (List Value) := do return ((← get).items r).toList

def setItems (r : Ref) (items : List Value) : Eval Unit :=
  modify fun h => h.setItems r items.toArray

/-- Runs a computation from a heap. -/
def run {α : Type} (m : Eval α) (h : Heap) : Except Fault α × Heap := ExceptT.run m h

end Eval

end Wording
