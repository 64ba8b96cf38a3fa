import Wording.Value.Access
import Wording.Value.Operators
import Wording.Value.NumberMethods
import Wording.Value.Sorting

/-!
# Calling

What the helpers, the methods and the callables from outside do with their arguments. A callable may
call another one, for the keys of a comparison: `invoke` is given the way to do so as `call`.
-/

namespace Wording

/-- How a value is called. -/
abbrev Caller := Value → Arguments → Eval Value

namespace Eval

def bind (p : Parameters) (a : Arguments) : Eval (List (Option Value)) := lift (p.bind a)

def elements (v : Value) : Eval (List Value) := do lift ((← get).elements v)

/-- The value that decides the place of `v`. -/
def sortKey (call : Caller) (key : Value) (v : Value) : Eval Value :=
  match key with
  | .null => return v
  | key => do
    if key.isCallable then call key ⟨[v], []⟩ else fail .type

/-- Items with the values that decide their places. -/
def sortKeys (call : Caller) (key : Value) : List Value → Eval (List (Value × Value))
  | [] => return []
  | v :: vs => do
    let k ← sortKey call key v
    return (k, v) :: (← sortKeys call key vs)

/-- Sorts by keys: the items as far as they have been sorted, and the failure that stopped it. -/
def sortBy (call : Caller) (key : Value) (down : Bool) (vs : List Value) :
    Eval (List Value × Option Failure) := do
  let keyed ← sortKeys call key vs
  let h ← get
  let less := fun (x y : Value × Value) => h.order .lt x.1 y.1
  let (sorted, e) := if down then Sorting.sortDown less keyed else Sorting.sort less keyed
  return (sorted.map (·.2), e)

end Eval

/-! ## Methods of lists and tuples -/

/-- The position of an item between two bounds. -/
def indexIn (h : Heap) (items : List Value) (a : Arguments) : Except Failure Value := do
  match ← (Parameters.byPosition 1 3).bind a with
  | some v :: start :: stop :: _ =>
    let bound := fun (i : Option Value) (default : Nat) => match i with
      | none => .ok default
      | some i => (Sequence.clamp items.length) <$> i.asIndex
    let low ← bound start 0
    let high ← bound stop items.length
    match ((items.take high).drop low).findIdx? fun x => h.itemEq x v with
    | some i => return .ofNat (low + i)
    | none => throw .value
  | _ => throw .type

def countIn (h : Heap) (items : List Value) (a : Arguments) : Except Failure Value := do
  match ← (Parameters.byPosition 1 1).bind a with
  | [some v] => return .ofNat (items.countP fun x => h.itemEq x v)
  | _ => throw .type

def listPop (r : Ref) (items : List Value) (a : Arguments) : Eval Value := do
  let i ← match ← Eval.bind (.byPosition 0 1) a with
    | [some v] => Eval.lift v.asSize
    | _ => pure (-1)
  match Sequence.index? items.length i with
  | none => Eval.fail .index
  | some i =>
    Eval.setItems r (items.eraseIdx i)
    return items[i]?.getD .null

def listSort (call : Caller) (r : Ref) (items : List Value) (a : Arguments) : Eval Value := do
  let values ← Eval.bind ⟨["key", "reverse"], 0, 0⟩ a
  let down ← Eval.lift (Value.asFlag (values[1]?.join))
  let (sorted, e) ← Eval.sortBy call ((values[0]?.join).getD .null) down items
  Eval.setItems r sorted
  match e with
  | none => return .null
  | some f => Eval.fail f

def callListMethod (call : Caller) (r : Ref) (m : Method) (a : Arguments) : Eval Value := do
  let items ← Eval.items r
  let alone := Eval.bind (.byPosition 0 0) a
  let one : Eval Value := do
    match ← Eval.bind (.byPosition 1 1) a with
    | [some v] => return v
    | _ => Eval.fail .type
  match m with
  | .append =>
    Eval.setItems r (items ++ [← one])
    return .null
  | .clear =>
    let _ ← alone
    Eval.setItems r []
    return .null
  | .copy =>
    let _ ← alone
    Eval.newList items
  | .count => Eval.lift (countIn (← get) items a)
  | .extend =>
    Eval.setItems r (items ++ (← Eval.elements (← one)))
    return .null
  | .index => Eval.lift (indexIn (← get) items a)
  | .insert =>
    match ← Eval.bind (.byPosition 2 2) a with
    | [some i, some v] =>
      let i := Sequence.clamp items.length (← Eval.lift i.asSize)
      Eval.setItems r (items.take i ++ v :: items.drop i)
      return .null
    | _ => Eval.fail .type
  | .pop => listPop r items a
  | .remove =>
    let v ← one
    let h ← get
    match items.findIdx? fun x => h.itemEq x v with
    | some i =>
      Eval.setItems r (items.eraseIdx i)
      return .null
    | none => Eval.fail .value
  | .reverse =>
    let _ ← alone
    Eval.setItems r items.reverse
    return .null
  | .sort => listSort call r items a
  | _ => Eval.fail .type

/-! ## Methods by receiver -/

/-- Makes the value that a method of a text gives. -/
def answerValue : Value.Answer → Eval Value
  | .value v => return v
  | .items vs => Eval.newList vs
  | .entries es => Eval.newDict es

def callText (k : TextKind) (cs : List Char) (m : Method) (a : Arguments) : Eval Value := do
  answerValue (← Eval.lift (Value.callTextMethod (← get) k cs m a))

def callMethod (call : Caller) (v : Value) (m : Method) (a : Arguments) : Eval Value := do
  match v with
  | .str s => callText .text s.toList m a
  | .bytes bs => callText .bytes (Percent.charsOfBytes bs) m a
  | .list r => callListMethod call r m a
  | .tuple items =>
    match m with
    | .count => Eval.lift (countIn (← get) items a)
    | .index => Eval.lift (indexIn (← get) items a)
    | _ => Eval.fail .type
  | v => Eval.lift (callNumberMethod (← get) v m a)

/-- Methods that belong to a kind. -/
def callStatic (k : Receiver) (m : Method) (a : Arguments) : Eval Value := do
  match k, m with
  | .int, _ => Eval.lift (intOfBytes (← get) a)
  | .float, _ =>
    match ← Eval.bind (.byPosition 1 1) a with
    | [some v] => Eval.lift (v.asText >>= floatOfHex)
    | _ => Eval.fail .type
  | .bytes, m => callText .bytes [] m a
  | _, m => callText .text [] m a

/-! ## Helpers -/

/-- A whole number from a text: too many digits are refused unless the base is a power of two. -/
def readWhole (base : Nat) (cs : List Char) : Except Failure Value :=
  match Decimal.readInt? base cs with
  | none => .error .value
  | some n =>
    let digits := (cs.filter fun c => (Decimal.digitValue? c).isSome).length
    if digits > maxDigits ∧ ¬[2, 4, 8, 16, 32].contains base then .error .value else .ok (.int n)

/-- The characters of a text, or of bytes that are to be read as one. -/
def digitsOf? : Value → Option (List Char)
  | .str s => some s.toList
  | .bytes bs => some (bs.map fun b => if b < 0x80 then Char.ofNat b.toNat else '?')
  | _ => none

def helperInt (a : Arguments) : Except Failure Value := do
  match ← Parameters.bind ⟨["", "base"], 2, 0⟩ a with
  | [none, none] => return .int 0
  | [some v, none] =>
    match v with
    | .float x =>
      match Decimal.Parts.ofFloat x with
      | .nan => throw .value
      | .infinite _ => throw .overflow
      | .finite d => return .int d.truncate
    | v =>
      match digitsOf? v with
      | some cs => readWhole 10 cs
      | none => return .int (← v.asIndex)
  | [some v, some base] =>
    let base ← base.asIndex
    if base ≠ 0 ∧ (base < 2 ∨ 36 < base) then throw .value
    match digitsOf? v with
    | none => throw .type
    | some cs => readWhole base.toNat cs
  | _ => throw .type

def helperFloat (a : Arguments) : Except Failure Value := do
  match ← (Parameters.byPosition 0 1).bind a with
  | [some v] =>
    match digitsOf? v with
    | some cs =>
      match Decimal.readFloat? cs with
      | some x => return .float x
      | none => throw .value
    | none =>
      match Number.ofValue? v with
      | some n => return .float (← n.toFloat)
      | none => throw .type
  | _ => return .float 0

def helperStr (h : Heap) (a : Arguments) : Except Failure Value := do
  match ← Parameters.bind ⟨["object", "encoding", "errors"], 3, 0⟩ a with
  | [none, _, _] => return .str ""
  | [some v, none, none] => return .str (← h.display v)
  | [some (.bytes bs), name, handler] =>
    TextKind.decodedBy bs (← TextKind.nameArgument "utf-8" name)
      (← TextKind.nameArgument "strict" handler)
  | _ => throw .type

def helperLen (h : Heap) (v : Value) : Except Failure Value :=
  match v with
  | .str _ | .bytes _ | .tuple _ | .list _ | .dict _ =>
    (h.elements v).map fun vs => .ofNat vs.length
  | _ => .error .type

/-- The items that the largest or smallest is sought among, and what stands in for none. -/
def contenders (a : Arguments) (default : Option Value) : Eval (List Value) := do
  match a.positional with
  | [] => Eval.fail .type
  | [v] => Eval.elements v
  | vs => if default.isSome then Eval.fail .type else return vs

/-- The item with the extreme key, the first one among equals; `best` comes with its key. -/
def extreme (call : Caller) (key : Value) (op : CompareOp) :
    Value × Value → List Value → Eval Value
  | best, [] => return best.2
  | best, v :: vs => do
    let k ← Eval.sortKey call key v
    if ← Eval.lift ((← get).order op k best.1) then extreme call key op (k, v) vs
    else extreme call key op best vs

def helperExtreme (call : Caller) (op : CompareOp) (a : Arguments) : Eval Value := do
  if a.named.any fun n => n.1 != "key" && n.1 != "default" then Eval.fail .type
  else
    let named := fun (k : String) => (a.named.find? fun n => n.1 == k).map (·.2)
    let key := (named "key").getD .null
    match ← contenders a (named "default"), named "default" with
    | v :: vs, _ => extreme call key op (← Eval.sortKey call key v, v) vs
    | [], some v => return v
    | [], none => Eval.fail .value

def helperSorted (call : Caller) (a : Arguments) : Eval Value := do
  match ← Eval.bind ⟨["", "key", "reverse"], 1, 1⟩ a with
  | [some v, key, down] =>
    let items ← Eval.elements v
    let down ← Eval.lift (Value.asFlag down)
    match ← Eval.sortBy call (key.getD .null) down items with
    | (sorted, none) => Eval.newList sorted
    | (_, some f) => Eval.fail f
  | _ => Eval.fail .type

/-- The texts of items, nothing for null. -/
def itemTexts (h : Heap) (items : List Value) : Except Failure (List (List Char)) :=
  items.mapM fun v =>
    match v with
    | .null => .ok []
    | v => do return (← h.display v).toList

/-- The texts of the items with a separator between them. Only a text can separate texts; bytes can
separate nothing, and other values have no way to join. -/
def helperJoin (h : Heap) (a : Arguments) : Except Failure Value := do
  match ← Parameters.bind ⟨["items", "separator"], 2, 1⟩ a with
  | [some items, separator] =>
    match separator.getD (.str ", ") with
    | .str s => return .ofChars (s.toList.intercalate (← itemTexts h (← h.elements items)))
    | .bytes _ =>
      match ← itemTexts h (← h.elements items) with
      | [] => return .bytes []
      | _ => throw .type
    | _ => throw .attribute
  | _ => throw .type

/-- The text of a value in another case. -/
def helperCase (h : Heap) (change : List Char → List Char) (a : Arguments) :
    Except Failure Value := do
  match ← Parameters.bind ⟨["value"], 1, 1⟩ a with
  | [some v] => return .ofChars (change (← h.display v).toList)
  | _ => throw .type

def callHelper (call : Caller) (f : Helper) (a : Arguments) : Eval Value := do
  let one : Eval Value := do
    match ← Eval.bind (.byPosition 1 1) a with
    | [some v] => return v
    | _ => Eval.fail .type
  match f with
  | .abs =>
    match Number.ofValue? (← one) with
    | some n => Eval.lift (n.abs.map Number.toValue)
    | none => Eval.fail .type
  | .float => Eval.lift (helperFloat a)
  | .int => Eval.lift (helperInt a)
  | .join => Eval.lift (helperJoin (← get) a)
  | .len => Eval.lift (helperLen (← get) (← one))
  | .lower => Eval.lift (helperCase (← get) Text.toLower a)
  | .upper => Eval.lift (helperCase (← get) Text.toUpper a)
  | .max => helperExtreme call .gt a
  | .min => helperExtreme call .lt a
  | .round => Eval.lift (round a)
  | .sorted => helperSorted call a
  | .str => Eval.lift (helperStr (← get) a)

/-! ## Callables from outside -/

/-- Order of names by code points. -/
def nameBefore (a b : String) : Bool :=
  compareCodes (a.toList.map Char.toNat) (b.toList.map Char.toNat) != .gt

def callEcho (a : Arguments) : Eval Value := do
  let positional ← Eval.newList a.positional
  let named ← Eval.newDict ((a.named.mergeSort fun x y => nameBefore x.1 y.1).map fun n =>
    (.str n.1, n.2))
  Eval.newList [positional, named]

def callKeyNames (a : Arguments) : Eval Value := do
  match ← Eval.bind (.byPosition 1 1) a with
  | [some v] =>
    let keys ← Eval.elements v
    let h ← get
    match Sorting.sort (h.order .lt) keys with
    | (_, some f) => Eval.fail f
    | (sorted, none) =>
      let names ← Eval.lift (sorted.mapM Value.asText)
      return .ofChars ([','].intercalate names)
  | _ => Eval.fail .type

def callEntryAt (key : Value) (a : Arguments) : Eval Value := do
  match ← Eval.bind (.byPosition 1 1) a with
  | [some v] =>
    let entry ← getItem v key
    let text ← Eval.lift ((← get).display entry)
    return .str ("<" ++ text ++ ">")
  | _ => Eval.fail .type

/-! ## All callables -/

/-- Calls a value that is no compiled template. -/
def invoke (call : Caller) (f : Value) (a : Arguments) : Eval Value := do
  match f with
  | .helper f => callHelper call f a
  | .method v m => callMethod call v m a
  | .unbound k m =>
    match a.positional with
    | v :: rest =>
      if v.receiver? = some k then callMethod call v m { a with positional := rest }
      else Eval.fail .type
    | [] => Eval.fail .type
  | .static k m => callStatic k m a
  | .constant v => return v
  | .echo => callEcho a
  | .keyNames => callKeyNames a
  | .entryAt key => callEntryAt key a
  | .failing e => throw e
  | _ => Eval.fail .type

end Wording
