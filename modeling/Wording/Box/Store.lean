import Wording.Box.World

/-!
# Stores of messages

The catalog of a box lies over the catalog of the defaults: for a language, both are merged, and
what the box says wins at every depth. What is given out is always a copy.
-/

namespace Wording

namespace Catalog

/-- The node at a language, which has to be something that can be a key. -/
def atLanguage (c : Catalog) (language : Value) : Except Failure (Option CatalogNode) :=
  if language.isKey then .ok (c.find? language) else .error .type

/-- The messages of a language: those of `own` over those of `shared`. None if neither has any. -/
def layered? (h : Heap) (shared own : Catalog) (language : Value) :
    Except Failure (Option Catalog) := do
  let below ← shared.atLanguage language
  let above ← own.atLanguage language
  if below.isNone && above.isNone then return none
  return some (mergeAll [] [← ofNode? h below, ← ofNode? h above])

end Catalog

namespace Session

/-- A new catalog with the messages of a value. -/
def newStore (messages : Value) : Session Catalog := do
  return Catalog.merge [] (← reading (Catalog.ofSource · messages))

/-- Adds the messages of a value to a catalog. -/
def addMessages (store : Catalog) (messages : Value) : Session Catalog := do
  return store.merge (← reading (Catalog.ofSource · messages))

/-- The messages of a language, from a catalog over that of the defaults. -/
def mergedMessages (store : Catalog) (language : Value) : Session Catalog := do
  let w ← get
  match ← reading (Catalog.layered? · w.defaults.messages store language) with
  | some c => return c
  | none =>
    let text ← reading (·.display language)
    throw (.noMessages language text)

end Session

end Wording
