import Wording.Pattern.Matcher
import Wording.Pattern.Reader
import Wording.Text.Quoted

/-!
# Markers

A marker is a pattern that says which spans of a template are dynamic; its only group is the inner
text of the span. There is one marker for each role: values that are escaped, values that are
written as they are, and statements. Markers are matched together, the roles in this order; a role
without a marker takes a pattern that matches nowhere, and behind all of them the end of the text
matches.

Only the written form of a marker takes part in the pattern of all of them, so a marker may not have
flags of its own.
-/

namespace Wording

open Pattern (Regex)

/-! ## Roles and offers -/

/-- What a dynamic span does. -/
inductive Role where
  | escape
  | interpolate
  | evaluate
  deriving DecidableEq, Repr

namespace Role

def name : Role → String
  | escape => "escape"
  | interpolate => "interpolate"
  | evaluate => "evaluate"

def all : List Role := [escape, interpolate, evaluate]

/-- The group of a role in the pattern of all markers. -/
def group : Role → Nat
  | escape => 1
  | interpolate => 2
  | evaluate => 3

end Role

/-- What somebody gives as a marker. -/
inductive MarkerOffer where
  | absent
  | source (s : String)
  | pattern (p : Pattern.Compiled)
  /-- A value of a kind that cannot be a marker, and whether it counts as true. -/
  | unsuitable (kind : String) (truthy : Bool)
  deriving DecidableEq, Repr

namespace MarkerOffer

/-- Whether something is given that counts as true. -/
def isGiven : MarkerOffer → Bool
  | absent => false
  | source s => s != ""
  | pattern _ => true
  | unsuitable _ truthy => truthy

/-- The first of two offers that is given. -/
def orElse (a b : MarkerOffer) : MarkerOffer := if a.isGiven then a else b

/-- A marker that has been accepted before, or none. -/
def ofPattern? : Option Pattern.Compiled → MarkerOffer
  | none => absent
  | some p => pattern p

end MarkerOffer

/-- Why an offer is no marker, or why markers do not go together. -/
inductive MarkerError where
  | malformed (role : Role) (source : String)
  | unsuitable (role : Role) (kind : String)
  | groupCount (role : Role) (source : String)
  | flagged (role : Role) (source : String)
  | notCombinable
  /-- A pattern that cannot be made for another reason than its form. -/
  | unreadable (e : Pattern.ReadError)
  deriving DecidableEq, Repr

def MarkerError.message : MarkerError → String
  | malformed role source => "Invalid " ++ role.name ++ " marker " ++ Text.Quoted.quote source
  | unsuitable role kind =>
    role.name ++ " marker must be a string or compiled pattern, got " ++ kind
  | groupCount role source =>
    role.name ++ " marker " ++ Text.Quoted.quote source
      ++ " must define exactly one capture group"
  | flagged role source =>
    role.name ++ " marker " ++ Text.Quoted.quote source
      ++ " must not set pattern-wide flags; use a scoped group such as (?s:...)"
  | notCombinable => "Markers cannot be combined"
  | unreadable _ => "Pattern out of range"

/-! ## One marker -/

namespace Marker

open Pattern (Compiled ReadError)

/-- Reads a pattern; what is wrong with its form is reported as `e`. -/
def readPattern (e : MarkerError) (source : String) : Except MarkerError Compiled :=
  match Compiled.read source {} with
  | .ok p => .ok p
  | .error .malformed => .error e
  | .error other => .error (.unreadable other)

/-- Flags that do not come with every pattern. -/
def hasFlags (p : Compiled) : Bool := !({ p.flags with unicode := false }).isEmpty

/-- A pattern that may serve as a marker. -/
def accept (role : Role) (p : Compiled) : Except MarkerError Compiled :=
  if p.groupCount ≠ 1 then .error (.groupCount role p.source)
  else if hasFlags p then .error (.flagged role p.source)
  else .ok p

/-- The marker that is offered for a role, if any is. -/
def ofOffer (role : Role) : MarkerOffer → Except MarkerError (Option Compiled)
  | .absent => .ok none
  | .source s => do return some (← accept role (← readPattern (.malformed role s) s))
  | .pattern p => do return some (← accept role p)
  | .unsuitable kind _ => .error (.unsuitable role kind)

/-! ## Known markers -/

/-- Values that are written as they are stand between three braces. -/
def tripleBraces : MarkerOffer :=
  .source "\\\x7b\\\x7b\\\x7b([^\x7b\x7d#][\\s\\S]+?)\\\x7d\\\x7d\\\x7d"

/-- Values that are escaped stand between two braces. -/
def doubleBraces : MarkerOffer := .source "\\\x7b\\\x7b([^\x7b\x7d#][\\s\\S]+?)\\\x7d\\\x7d"

/-- Statements stand between two braces, the first two with a number sign behind them. -/
def hashBraces : MarkerOffer := .source "\\\x7b\\\x7b#([^\x7b\x7d].*?)\\\x7d\\\x7d"

/-- A character in front of the start of the text: matches nowhere. -/
def nowhereSource : String := "(.)^"

def nowhere : MarkerOffer := .source nowhereSource

end Marker

/-! ## All markers of a template -/

/-- The markers of a template with the pattern of all of them. -/
structure Markers where
  escape : Option Pattern.Compiled
  interpolate : Option Pattern.Compiled
  evaluate : Option Pattern.Compiled
  matcher : Pattern.Compiled
  deriving DecidableEq, Repr

namespace Markers

def get? (m : Markers) : Role → Option Pattern.Compiled
  | .escape => m.escape
  | .interpolate => m.interpolate
  | .evaluate => m.evaluate

/-- The written form of the marker of a role, if it has one. -/
def source? (m : Markers) (r : Role) : Option String := (m.get? r).map (·.source)

/-- The written form of the pattern of all markers. -/
def matcherSource (escape interpolate evaluate : Option Pattern.Compiled) : String :=
  let part := fun (p : Option Pattern.Compiled) =>
    "(?:" ++ (p.map (·.source)).getD Marker.nowhereSource ++ ")"
  part escape ++ "|" ++ part interpolate ++ "|" ++ part evaluate ++ "|\\Z"

/-- Puts markers together. -/
def combine (escape interpolate evaluate : Option Pattern.Compiled) :
    Except MarkerError Markers := do
  let source := matcherSource escape interpolate evaluate
  let matcher ← Marker.readPattern .notCombinable source
  return ⟨escape, interpolate, evaluate, matcher⟩

/-- The markers that are offered for the three roles. -/
def ofOffers (escape interpolate evaluate : MarkerOffer) : Except MarkerError Markers := do
  let escape ← Marker.ofOffer .escape escape
  let interpolate ← Marker.ofOffer .interpolate interpolate
  let evaluate ← Marker.ofOffer .evaluate evaluate
  combine escape interpolate evaluate

/-- Markers are the same if each role has the same marker or none. -/
def same (m n : Markers) : Bool := Role.all.all fun r => m.get? r == n.get? r

/-- A match of the pattern of all markers: its place, and the inner text of each role. -/
structure Hit where
  start : Nat
  stop : Nat
  escape : Option (List Char)
  interpolate : Option (List Char)
  evaluate : Option (List Char)
  deriving DecidableEq, Repr

/-- A match of the pattern of all markers, by roles. -/
def Hit.ofMatch (text : Array Char) (found : Pattern.Match) : Hit :=
  ⟨found.start, found.stop, found.group? text Role.escape.group,
    found.group? text Role.interpolate.group, found.group? text Role.evaluate.group⟩

/-- All matches in a text, from left to right. -/
def hits (m : Markers) (text : Array Char) : List Hit :=
  (m.matcher.regex.scan text).map (Hit.ofMatch text)

end Markers

end Wording
