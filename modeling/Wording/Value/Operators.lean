import Wording.Value.Percent
import Wording.Value.TextMethods

/-!
# Operators

What the operators of expressions do with two values, or with one. Sums join sequences, products
with a whole number repeat them, and a remainder with a text on the left fills a format.
-/

namespace Wording

/-- A sequence of this many items or more is not built. -/
def maxItems : Int := Int.pow 2 40

/-- Checks the size of a repeated sequence. -/
def checkRepeat (size : Nat) (count : Int) : Except Failure Nat := do
  if count < -Value.maxSize - 1 ∨ Value.maxSize < count then throw .overflow
  if count > 0 ∧ (size : Int) * count ≥ maxItems then throw .memory
  return count.toNat

def repeatItems {α : Type} (xs : List α) (count : Nat) : List α :=
  (List.replicate count xs).flatten

/-- A sequence, repeated. -/
def repeatValue (v : Value) (count : Int) : Eval Value := do
  match v with
  | .str s =>
    let n ← Eval.lift (checkRepeat s.length count)
    return .ofChars (repeatItems s.toList n)
  | .bytes bs =>
    let n ← Eval.lift (checkRepeat bs.length count)
    return .bytes (repeatItems bs n)
  | .tuple items =>
    let n ← Eval.lift (checkRepeat items.length count)
    return .tuple (repeatItems items n)
  | .list r =>
    let items ← Eval.items r
    let n ← Eval.lift (checkRepeat items.length count)
    Eval.newList (repeatItems items n)
  | _ => Eval.fail .type

/-- Two sequences of one kind, one behind the other. -/
def joinValues (v w : Value) : Eval Value := do
  match v, w with
  | .str s, .str t => return .str (s ++ t)
  | .bytes s, .bytes t => return .bytes (s ++ t)
  | .tuple s, .tuple t => return .tuple (s ++ t)
  | .list a, .list b => Eval.newList ((← Eval.items a) ++ (← Eval.items b))
  | _, _ => Eval.fail .type

/-- Arithmetic on two numbers. -/
def Number.apply : BinaryOp → Number → Number → Except Failure Number
  | .add => Number.add
  | .sub => Number.sub
  | .mul => Number.mul
  | .div => Number.div
  | .floorDiv => Number.floorDiv
  | .mod => Number.mod

/-- The binary operators where at least one operand is no number. -/
def applyToSequences (op : BinaryOp) (v w : Value) : Eval Value := do
  match op, v, w with
  | .add, v, w => joinValues v w
  | .mul, v, .int n => repeatValue v n
  | .mul, v, .bool b => repeatValue v (if b then 1 else 0)
  | .mul, .int n, w => repeatValue w n
  | .mul, .bool b, w => repeatValue w (if b then 1 else 0)
  | .mod, .str s, w => do
    let h ← get
    return .str (← Eval.lift (Percent.text h s w))
  | .mod, .bytes bs, w => do
    let h ← get
    return .bytes (← Eval.lift (Percent.bytes h bs w))
  | _, _, _ => Eval.fail .type

def BinaryOp.apply (op : BinaryOp) (v w : Value) : Eval Value :=
  match Number.ofValue? v, Number.ofValue? w with
  | some m, some n => Eval.lift ((Number.apply op m n).map Number.toValue)
  | _, _ => applyToSequences op v w

def UnaryOp.apply (op : UnaryOp) (v : Value) : Eval Value := do
  match op with
  | .not => return .bool (!(← get).truthy v)
  | .plus =>
    match Number.ofValue? v with
    | some n => return n.toValue
    | none => Eval.fail .type
  | .minus =>
    match Number.ofValue? v with
    | some n => return n.neg.toValue
    | none => Eval.fail .type

namespace Heap

/-- Whether `w` holds `v`. -/
def holds (h : Heap) (v w : Value) : Except Failure Bool :=
  match w with
  | .str s => do return Sequence.contains (← v.asText) s.toList
  | .bytes bs => do
    let pat ← TextKind.bytes.pattern v
    return Sequence.contains pat (Percent.charsOfBytes bs)
  | .tuple items => .ok (items.any fun x => h.itemEq x v)
  | .list r => .ok ((h.items r).any fun x => h.itemEq x v)
  | .dict r => if v.isKey then .ok (h.lookup r v).isSome else .error .type
  | _ => .error .type

end Heap

/-- Whether a comparison holds; `made` tells that an operand was made for it. -/
def CompareOp.apply (op : CompareOp) (made : Bool) (v w : Value) : Eval Bool := do
  let h ← get
  match op with
  | .eq => return h.eq v w
  | .ne => return !h.eq v w
  | .is => return v.isOne made w
  | .isNot => return !v.isOne made w
  | .isIn => Eval.lift (h.holds v w)
  | .notIn => return !(← Eval.lift (h.holds v w))
  | op => Eval.lift (h.order op v w)

end Wording
