import Wording.Value.Access

/-!
# Assigning

A value is put into a dictionary or a list that is reached by a path of keys and positions.
-/

namespace Wording

/-- Puts a value at a key of a dictionary or at a position of a list. -/
def setItem (target key v : Value) : Eval Unit := do
  match target with
  | .dict r =>
    if key.isKey then modify fun h => h.write r (.dict ((h.entries r).insert key v))
    else Eval.fail .type
  | .list r =>
    let items ← Eval.items r
    match Sequence.index? items.length (← Eval.lift key.asIndex) with
    | some i => Eval.setItems r (items.set i v)
    | none => Eval.fail .index
  | _ => Eval.fail .type

/-- Puts a value at the end of a path. -/
def assign (root : Value) (path : List Value) (v : Value) : Eval Unit := do
  match path with
  | [] => Eval.fail .index
  | [key] => setItem root key v
  | key :: rest => assign (← getItem root key) rest v

end Wording
