import Wording.Value.Arguments
import Wording.Value.Sequence
import Wording.Value.Shown

/-!
# Attributes and subscripts

An attribute of a dictionary is its entry under that name; an attribute that is not there is null. A
subscript takes an entry, an item or a slice.
-/

namespace Wording

namespace Value

/-- The kind whose methods a value has. -/
def receiver? : Value → Option Receiver
  | .str _ => some .str
  | .bytes _ => some .bytes
  | .list _ => some .list
  | .tuple _ => some .tuple
  | .int _ | .bool _ => some .int
  | .float _ => some .float
  | .complex _ _ => some .complex
  | _ => none

/-- The kind that a helper stands for. -/
def kind? : Value → Option Receiver
  | .helper .str => some .str
  | .helper .int => some .int
  | .helper .float => some .float
  | _ => none

/-- The attributes of numbers that are data. -/
def numberData? (v : Value) (name : String) : Option Value :=
  match v with
  | .complex re im =>
    if name = "real" then some (.float re) else if name = "imag" then some (.float im) else none
  | .float x =>
    if name = "real" then some (.float x) else if name = "imag" then some (.float 0) else none
  | v =>
    match v.asIndex with
    | .ok n =>
      if name = "real" ∨ name = "numerator" then some (.int n)
      else if name = "imag" then some (.int 0)
      else if name = "denominator" then some (.int 1)
      else none
    | .error _ => none

/-- An attribute of a value that is not looked up in the heap. -/
def attr (v : Value) (name : String) : Value :=
  match v.receiver?, v.kind? with
  | some k, _ =>
    match v.numberData? name, k.method? name with
    | some w, _ => w
    | none, some m => if m.isStatic k then .static k m else .method v m
    | none, none => .null
  | none, some k =>
    match k.method? name with
    | some m => if m.isStatic k then .static k m else .unbound k m
    | none => if k.data.contains name then .foreign "getset_descriptor" else .null
  | none, none =>
    match v with
    | .renderer template _ =>
      if name = "template" then .str template
      else if name = "markers" then .foreign "Markers"
      else .null
    | _ => .null

end Value

namespace Heap

/-- The attribute of a value under a name; null where there is none. -/
def attr (h : Heap) (v : Value) (name : String) : Value :=
  match v with
  | .dict r => (h.lookup r (.str name)).getD .null
  | .record r => ((h.attributes r).find? (·.1 == name)).elim .null (·.2)
  | v => v.attr name

end Heap

/-- The bounds and the step of a slice. -/
def sliceBounds (lower upper step : Value) :
    Except Failure (Option Int × Option Int × Int) := do
  let step := (← Value.asPosition? (some step)).getD 1
  if step = 0 then throw .value
  let lower ← Value.asPosition? (some lower)
  let upper ← Value.asPosition? (some upper)
  return (lower, upper, step)

/-- An item or a slice of a sequence. -/
def selectFrom {α β : Type} (xs : List α) (one : α → β) (many : List α → β) (key : Value) :
    Except Failure β :=
  match key with
  | .slice lower upper step => do
    let (lower, upper, step) ← sliceBounds lower upper step
    return many (Sequence.select xs (Sequence.positions xs.length lower upper step))
  | key => do
    match Sequence.index? xs.length (← key.asIndex) with
    | none => throw .index
    | some i => match xs[i]? with
      | some x => return one x
      | none => throw .index

/-- The entry, item or slice of a value at a key. -/
def getItem (v key : Value) : Eval Value := do
  match v with
  | .dict r =>
    if !key.isKey then Eval.fail .type
    else match (← get).lookup r key with
      | some w => return w
      | none => Eval.fail .key
  | .str s => Eval.lift (selectFrom s.toList (fun c => .ofChars [c]) .ofChars key)
  | .bytes bs => Eval.lift (selectFrom bs (fun b => .ofNat b.toNat) .bytes key)
  | .tuple items => Eval.lift (selectFrom items id .tuple key)
  | .list r =>
    let items ← Eval.items r
    match ← Eval.lift (selectFrom items Sum.inl Sum.inr key) with
    | .inl w => return w
    | .inr ws => Eval.newList ws
  | _ => Eval.fail .type

/-- The entry at a key, or null where the key or the position is not there. -/
def getItemOrNull (v key : Value) : Eval Value := do
  try getItem v key
  catch
    | .failure .key | .failure .index => return .null
    | e => throw e

end Wording
