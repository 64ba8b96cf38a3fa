import Wording.Template.Basic

/-!
# Template caches

A cache keeps compiled templates by the text and the markers they were compiled for, in the order in
which they first came. A cache with a limit that is full gives up its oldest entry before it takes
one.
-/

namespace Wording

/-- A compiled template with the text and the markers it is found under. -/
structure CacheEntry where
  text : String
  markers : Markers
  template : Template

def CacheEntry.isFor (e : CacheEntry) (text : String) (m : Markers) : Bool :=
  e.text == text && e.markers.same m

/-- The entries, the oldest first. -/
structure Cache where
  limit : Option Nat
  entries : List CacheEntry

namespace Cache

/-- An empty cache; a limit leaves room for one entry at least. -/
def ofLimit? (limit : Option Int) : Option Cache :=
  match limit with
  | none => some ⟨none, []⟩
  | some n => if n < 1 then none else some ⟨some n.toNat, []⟩

def size (c : Cache) : Nat := c.entries.length

/-- The template under a text and markers. -/
def get? (c : Cache) (text : String) (m : Markers) : Option Template :=
  (c.entries.find? (·.isFor text m)).map (·.template)

/-- Whether there is no room for another entry. -/
def isFull (c : Cache) : Bool := c.limit.any (· ≤ c.size)

/-- Puts an entry in the place of the one for the same text and markers, or behind all others. -/
def put (new : CacheEntry) : List CacheEntry → List CacheEntry
  | [] => [new]
  | e :: es =>
    if e.isFor new.text new.markers then { e with template := new.template } :: es
    else e :: put new es

/-- Keeps a template under a text and markers. -/
def set (c : Cache) (text : String) (m : Markers) (t : Template) : Cache :=
  { c with entries := put ⟨text, m, t⟩ (if c.isFull then c.entries.tail else c.entries) }

def clear (c : Cache) : Cache := { c with entries := [] }

end Cache

end Wording
