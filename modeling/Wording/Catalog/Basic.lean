import Wording.Value.Compare

/-!
# Catalogs

A catalog holds messages under languages, types of errors and names of fields: a tree with values at
its leaves. A catalog is a plain value of its own: it is copied out of the dictionaries it was given
in (`Catalog.ofSource`) and into those that are given out (`Catalog.toDict`), so that a change to a
dictionary never reaches a catalog.

Merging follows the structure of the catalog that is merged in.
-/

namespace Wording

inductive CatalogNode where
  | leaf (v : Value)
  | node (children : List (Value × CatalogNode))

/-- The nodes of a catalog by key, in the order in which the keys first came. -/
abbrev Catalog := List (Value × CatalogNode)

namespace Catalog

/-- The node at a key. -/
def find? (c : Catalog) (k : Value) : Option CatalogNode := Keyed.find? c k

/-- The children of the node at a key; none for a leaf. -/
def below (c : Catalog) (k : Value) : Catalog :=
  match find? c k with
  | some (.node children) => children
  | _ => []

/-- Gives a key its node. -/
def put (k : Value) (n : CatalogNode) (c : Catalog) : Catalog := Keyed.put k n c

/-- Merges the second catalog into the first: what it says wins, at every depth. Leaves without a
value say nothing. -/
def merge (target : Catalog) : Catalog → Catalog
  | [] => target
  | (_, .leaf .null) :: rest => merge target rest
  | (k, .leaf v) :: rest => merge (put k (.leaf v) target) rest
  | (k, .node children) :: rest =>
    merge (put k (.node (merge (below target k) children)) target) rest

/-- Merges catalogs one after the other. -/
def mergeAll (target : Catalog) (sources : List Catalog) : Catalog := sources.foldl merge target

end Catalog

/-! ## Dictionaries -/

/-- The tree of a value, with dictionaries at most `fuel` deep. -/
def CatalogNode.ofValue (h : Heap) : Nat → Value → CatalogNode
  | 0, v => .leaf v
  | fuel + 1, v =>
    match v with
    | .dict r => .node ((h.entries r).map fun e => (e.1, ofValue h fuel e.2))
    | v => .leaf v

namespace Catalog

/-- The catalog that a value gives: none for a value that counts as false, nothing else but a
dictionary. -/
def ofSource (h : Heap) (v : Value) : Except Failure Catalog :=
  if h.truthy v then
    match CatalogNode.ofValue h h.depth v with
    | .node children => .ok children
    | .leaf _ => .error .attribute
  else .ok []

/-- The catalog of what lies at a key: nothing if there is no such key or its value counts as false.
A leaf is no dictionary. -/
def ofNode? (h : Heap) : Option CatalogNode → Except Failure Catalog
  | none => .ok []
  | some (.node children) => .ok children
  | some (.leaf v) => if h.truthy v then .error .attribute else .ok []

mutual

/-- The entries of a new dictionary for a catalog. -/
def toEntries : Catalog → Eval Entries
  | [] => return []
  | (k, n) :: rest => do
    let v ← nodeValue n
    let es ← toEntries rest
    return (k, v) :: es

/-- The value of a node: a leaf itself, a new dictionary for all else. -/
def nodeValue : CatalogNode → Eval Value
  | .leaf v => return v
  | .node children => do
    let es ← toEntries children
    Eval.newDict es

end

/-- A new dictionary that holds what the catalog holds. -/
def toDict (c : Catalog) : Eval Value := do
  let es ← toEntries c
  Eval.newDict es

/-- Merges the dictionaries `sources` into the value `target`, which has to be a dictionary if there
is anything to merge in. -/
def mergeInto (target : Value) (sources : List Value) : Eval Value := do
  let h ← get
  let sources ← Eval.lift (sources.mapM (ofSource h))
  match CatalogNode.ofValue h h.depth target with
  | .node children => toDict (mergeAll children sources)
  | .leaf v => if (mergeAll [] sources).isEmpty then return v else Eval.fail .attribute

end Catalog

end Wording
