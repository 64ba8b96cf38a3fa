import Wording.Catalog.Basic
import Wording.Error

/-!
# Defaults

The settings that every box shares: a language, a marker for each role and a catalog. A change gives
new defaults and leaves the old ones as they were; what a change does not mention stays, and
catalogs are merged. A change that cannot be made changes nothing.
-/

namespace Wording

structure Defaults where
  language : Option String
  escape : Option Pattern.Compiled
  interpolate : Option Pattern.Compiled
  evaluate : Option Pattern.Compiled
  messages : Catalog

namespace Defaults

def empty : Defaults := ⟨none, none, none, none, []⟩

/-- The language of those who name none, where the defaults name none either. -/
def fallbackLanguage : String := "en"

/-- The offer that the defaults make for a role. -/
def offer (d : Defaults) : Role → MarkerOffer
  | .escape => .ofPattern? d.escape
  | .interpolate => .ofPattern? d.interpolate
  | .evaluate => .ofPattern? d.evaluate

end Defaults

/-! ## Changes -/

/-- A change of the defaults; null and absent offers leave things as they are. -/
structure DefaultsChange where
  language : Value
  escape : MarkerOffer
  interpolate : MarkerOffer
  evaluate : MarkerOffer
  messages : Value

namespace DefaultsChange

def none : DefaultsChange := ⟨.null, .absent, .absent, .absent, .null⟩

/-- The language to set, if one is. -/
def language? (c : DefaultsChange) : Except Error (Option String) :=
  match c.language with
  | .null => .ok .none
  | .str s => .ok (some s)
  | _ => .error .languageNotText

/-- The marker to set, if one is. -/
def marker? (role : Role) (offer : MarkerOffer) : Except Error (Option Pattern.Compiled) :=
  match Marker.ofOffer role offer with
  | .ok p => .ok p
  | .error e => .error (.marker e)

/-- The catalog to merge in, if the messages count as true. -/
def messages? (h : Heap) (c : DefaultsChange) : Except Error (Option Catalog) :=
  if h.truthy c.messages then
    match Catalog.ofSource h c.messages with
    | .ok source => .ok (some source)
    | .error f => .error f
  else .ok .none

end DefaultsChange

/-- The defaults after a change, and the names of what has changed, in alphabetical order. -/
def Defaults.apply (h : Heap) (d : Defaults) (c : DefaultsChange) :
    Except Error (Defaults × List String) := do
  let language ← c.language?
  let escape ← DefaultsChange.marker? .escape c.escape
  let interpolate ← DefaultsChange.marker? .interpolate c.interpolate
  let evaluate ← DefaultsChange.marker? .evaluate c.evaluate
  let messages ← c.messages? h
  let changed := fun (name : String) (isSet : Bool) => if isSet then [name] else []
  let new : Defaults :=
    { language := language.or d.language
      escape := escape.or d.escape
      interpolate := interpolate.or d.interpolate
      evaluate := evaluate.or d.evaluate
      messages := match messages with
        | some source => Catalog.mergeAll [] [d.messages, source]
        | none => d.messages }
  return (new, changed "escape" escape.isSome ++ changed "evaluate" evaluate.isSome
    ++ changed "interpolate" interpolate.isSome ++ changed "language" language.isSome
    ++ changed "messages" messages.isSome)

/-! ## The environment -/

namespace Environment

def defaultPrefix : String := "MESSAGEBOX_"

/-- The name of the variable that holds the marker of a role. -/
def roleVariable (start : String) (r : Role) : String := start ++ r.name.toUpper

/-- The value of a variable, null for one that is not set. -/
def value (environ : Entries) (name : String) : Value := (environ.lookup (.str name)).getD .null

/-- What a value offers as a marker. -/
def offerOf (h : Heap) (v : Value) : MarkerOffer :=
  match v with
  | .null => .absent
  | .str s => .source s
  | v => .unsuitable v.kindName (h.truthy v)

/-- The marker in the variable of a role; empty variables count as not set. -/
def marker (h : Heap) (start : String) (environ : Entries) (r : Role) : Except Error MarkerOffer :=
  let offer := offerOf h (value environ (roleVariable start r))
  if offer.isGiven then
    match Marker.ofOffer r offer with
    | .ok p => .ok (.ofPattern? p)
    | .error e => .error (.environment (roleVariable start r) e)
  else .ok .absent

/-- The change that the variables of the environment ask for. -/
def change (h : Heap) (start : String) (environ : Entries) : Except Error DefaultsChange := do
  let language := value environ (start ++ "LANGUAGE")
  let escape ← marker h start environ .escape
  let interpolate ← marker h start environ .interpolate
  let evaluate ← marker h start environ .evaluate
  return ⟨if h.truthy language then language else .null, escape, interpolate, evaluate, .null⟩

end Environment

end Wording
