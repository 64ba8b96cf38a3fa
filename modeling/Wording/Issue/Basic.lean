import Wording.Value.Sequence
import Wording.Value.Call

/-!
# Issues

An issue is a failure of validation as it is reported: a descriptor with the field's name, the type
of the error, a message that stands ready, and further data; or a value that can be read as entries.
-/

namespace Wording

/-! ## Entries of values -/

namespace Entries

/-- An entry from a pair. -/
def ofPair (h : Heap) (v : Value) : Except Failure (Value × Value) := do
  match ← h.elements v with
  | [k, w] => if k.isKey then return (k, w) else throw .type
  | _ => throw .value

def ofPairs (h : Heap) (acc : Entries) : List Value → Except Failure Entries
  | [] => .ok acc
  | v :: vs => do
    let (k, w) ← ofPair h v
    ofPairs h (acc.insert k w) vs

/-- The entries of a dictionary, or of a sequence of pairs. -/
def ofValue (h : Heap) (v : Value) : Except Failure Entries :=
  match v with
  | .dict r => .ok (h.entries r)
  | v => do ofPairs h [] (← h.elements v)

/-- Puts entries over others. -/
def overlay (new old : Entries) : Entries := new.foldl (fun acc e => acc.insert e.1 e.2) old

end Entries

/-! ## Issues -/

/-- A single failure of validation. -/
structure Descriptor where
  name : Value
  type : Value
  message : Value
  /-- Further data for the templates. -/
  extra : Value

inductive Issue where
  | descriptor (d : Descriptor)
  | value (v : Value)

namespace Issue

/-- The fields of an issue. -/
def fields (h : Heap) : Issue → Except Failure Entries
  | .value v => Entries.ofValue h v
  | .descriptor d => do
    let extra ← Entries.ofValue h d.extra
    let es := (extra.insert (.str "name") d.name).insert (.str "type") d.type
    return match d.message with
      | .null => es
      | m => es.insert (.str "message") m

end Issue

end Wording
