import Wording.Expr.Eval
import Wording.Text.Html

/-!
# Rendering

The text that a template gives in a context. Statements bind names in front of the context; what
they bind is gone when the template ends. A loop over a list walks over the list as it is at each
round, so a body that lengthens the list makes the loop longer: `limit` bounds the rounds of such a
loop.

Rendering follows the structure of the template. Calls are bounded by their depth: a template that
is called from an expression of another one is one call deeper.
-/

namespace Wording

/-! ## Text of values -/

/-- The text of a value, nothing for null. -/
def plainText (v : Value) : Eval String := do
  match v with
  | .null => return ""
  | v => Eval.lift ((← get).display v)

/-- The text of a value, escaped for HTML. -/
def escapedText (v : Value) : Eval String := do
  return String.ofList (Text.Html.escape (← plainText v).toList)

/-! ## Loops -/

/-- The names that statements have bound, and the text written so far. -/
structure Page where
  bound : List (String × Value)
  text : String

def Page.write (p : Page) (s : String) : Page := { p with text := p.text ++ s }

def Page.bind (p : Page) (name : String) (v : Value) : Page :=
  { p with bound := (Scope.bind ⟨p.bound, none⟩ name v).bound }

/-- One round after the other for each of the items. -/
def eachOf (round : Value → Page → Eval Page) : List Value → Page → Eval Page
  | [], p => return p
  | v :: vs, p => do
    let p ← round v p
    eachOf round vs p

/-- One round after the other while the list has an item at the position. -/
def eachIn (round : Value → Page → Eval Page) (r : Ref) : Nat → Nat → Page → Eval Page
  | 0, _, _ => throw .exhausted
  | limit + 1, i, p => do
    match ((← get).items r)[i]? with
    | none => return p
    | some v =>
      let p ← round v p
      eachIn round r limit (i + 1) p

/-- One round after the other for each of the items of a value. -/
def eachItem (limit : Nat) (round : Value → Page → Eval Page) (items : Value) (p : Page) :
    Eval Page := do
  match items with
  | .null => return p
  | .list r => eachIn round r limit 0 p
  | items =>
    let vs ← Eval.elements items
    eachOf round vs p

/-! ## Nodes -/

/-- How templates are rendered: how values are called, and the bound on the rounds of a loop. -/
structure Machine where
  call : Caller
  limit : Nat

/-- The value of an expression where the page has come to. -/
def Page.eval (m : Machine) (context : Option Value) (p : Page) (e : Expression) : Eval Value :=
  e.eval m.call ⟨p.bound, context⟩

mutual

def Node.render (m : Machine) (context : Option Value) : Node → Page → Eval Page
  | .text s, p => return p.write s
  | .escape e, p => do
    let v ← p.eval m context e
    return p.write (← escapedText v)
  | .interpolate e, p => do
    let v ← p.eval m context e
    return p.write (← plainText v)
  | .emit e, p => do
    let v ← p.eval m context e
    return p.write (← plainText v)
  | .set name e, p => do
    let v ← p.eval m context e
    return p.bind name v
  | .cond test body rest, p => do
    let v ← p.eval m context test
    if (← get).truthy v then Node.renderAll m context body p else rest.render m context p
  | .loop name items body, p => do
    let v ← p.eval m context items
    eachItem m.limit (fun w q => Node.renderAll m context body (q.bind name w)) v p

def Node.renderAll (m : Machine) (context : Option Value) : List Node → Page → Eval Page
  | [], p => return p
  | n :: ns, p => do
    let p ← n.render m context p
    Node.renderAll m context ns p

def Branches.render (m : Machine) (context : Option Value) : Branches → Page → Eval Page
  | .done, p => return p
  | .otherwise body, p => Node.renderAll m context body p
  | .elseIf test body rest, p => do
    let v ← p.eval m context test
    if (← get).truthy v then Node.renderAll m context body p else rest.render m context p

end

/-! ## Templates -/

/-- The context that names are looked up in: none if what is given counts as false. -/
def contextOf (v : Option Value) : Eval (Option Value) := do
  let h ← get
  return v.filter h.truthy

/-- The text that a template gives. -/
def renderTemplate (m : Machine) (nodes : List Node) (context : Option Value) : Eval String := do
  let context ← contextOf context
  return (← Node.renderAll m context nodes ⟨[], ""⟩).text

/-- Calls a value; a compiled template is rendered with the way to call things that `sub` gives. -/
def callWith (limit : Nat) (sub : Caller) : Caller := fun f a => do
  match f with
  | .renderer _ nodes =>
    match ← Eval.bind ⟨["context"], 1, 0⟩ a with
    | [context] => return .str (← renderTemplate ⟨sub, limit⟩ nodes context)
    | _ => Eval.fail .type
  | f => invoke sub f a

/-- Calls values at most `depth` deep. -/
def callTo (limit : Nat) : Nat → Caller
  | 0 => fun _ _ => throw .exhausted
  | depth + 1 => callWith limit (callTo limit depth)

/-- Bounds on the depth of calls and on the rounds of a loop. -/
structure Bounds where
  depth : Nat
  rounds : Nat

def Bounds.machine (b : Bounds) : Machine := ⟨callTo b.rounds b.depth, b.rounds⟩

end Wording
