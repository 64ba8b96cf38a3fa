import Wording.Value.Key

/-!
# Comparing values

Identity, equality, order and truth of values. Numbers of all kinds compare by what they stand for,
exactly. Equality and order look into lists, dictionaries and records; everything else decides
without the heap.

The comparisons follow the structure of the left value. Each pair of references they follow spends
one unit of fuel, and there are only so many pairs of places to follow without coming back to one.
-/

namespace Wording

/-! ## Numbers -/

/-- A value as a number; truth values count as 0 and 1. -/
inductive Number where
  | int (n : Int)
  | float (x : Float)
  | complex (re im : Float)

namespace Number

def ofValue? : Value → Option Number
  | .bool b => some (.int (if b then 1 else 0))
  | .int n => some (.int n)
  | .float x => some (.float x)
  | .complex re im => some (.complex re im)
  | _ => none

/-- Order of a whole number and a double, exactly; `none` for a double that is not a number. -/
def compareIntFloat (n : Int) (x : Float) : Option Ordering :=
  match Decimal.Parts.ofFloat x with
  | .nan => none
  | .infinite negative => some (if negative then .gt else .lt)
  | .finite d => some (Decimal.compareInt n d)

/-- Order of two doubles; `none` if one of them is not a number. -/
def compareFloats (x y : Float) : Option Ordering :=
  if x < y then some .lt else if x > y then some .gt else if x == y then some .eq else none

/-- Order of two real numbers; `none` if there is none. -/
def compareReal : Number → Number → Option Ordering
  | .int m, .int n => some (compare m n)
  | .int m, .float y => compareIntFloat m y
  | .float x, .int n => (compareIntFloat n x).map Ordering.swap
  | .float x, .float y => compareFloats x y
  | _, _ => none

def isReal : Number → Bool
  | .complex _ _ => false
  | _ => true

/-- Real and imaginary part. -/
def parts : Number → Number × Float
  | .complex re im => (.float re, im)
  | n => (n, 0)

def eq (a b : Number) : Bool :=
  compareReal a.parts.1 b.parts.1 == some .eq && a.parts.2 == b.parts.2

end Number

/-! ## Identity and equality -/

namespace Value

mutual

/-- Whether two values cannot be told apart. -/
def same : Value → Value → Bool
  | .null, w => match w with | .null => true | _ => false
  | .ellipsis, w => match w with | .ellipsis => true | _ => false
  | .bool a, w => match w with | .bool b => a == b | _ => false
  | .int a, w => match w with | .int b => a == b | _ => false
  | .float a, w => match w with | .float b => a.toBits == b.toBits | _ => false
  | .complex a b, w => match w with
    | .complex c d => a.toBits == c.toBits && b.toBits == d.toBits
    | _ => false
  | .str a, w => match w with | .str b => a == b | _ => false
  | .bytes a, w => match w with | .bytes b => a == b | _ => false
  | .tuple a, w => match w with | .tuple b => sameAll a b | _ => false
  | .slice _ _ _, _ => false
  | .list a, w => match w with | .list b => a == b | _ => false
  | .dict a, w => match w with | .dict b => a == b | _ => false
  | .record a, w => match w with | .record b => a == b | _ => false
  | .helper a, w => match w with | .helper b => a == b | _ => false
  | .method a m, w => match w with | .method b n => m == n && same a b | _ => false
  | .unbound k m, w => match w with | .unbound l n => k == l && m == n | _ => false
  | .static k m, w => match w with | .static l n => k == l && m == n | _ => false
  | .foreign a, w => match w with | .foreign b => a == b | _ => false
  | .constant a, w => match w with | .constant b => same a b | _ => false
  | .echo, w => match w with | .echo => true | _ => false
  | .keyNames, w => match w with | .keyNames => true | _ => false
  | .entryAt a, w => match w with | .entryAt b => same a b | _ => false
  | .failing e, w => match w with | .failing f => e == f | _ => false
  | .renderer a _, w => match w with | .renderer b _ => a == b | _ => false

def sameAll : List Value → List Value → Bool
  | [], ys => ys.isEmpty
  | x :: xs, ys => match ys with
    | y :: ys => same x y && sameAll xs ys
    | [] => false

end

/-- Whether equal values of its kind are always one value: small numbers, texts of at most one small
character, bytes of at most one byte, the empty tuple and whatever has only one form. -/
def isShared : Value → Bool
  | .int n => -5 ≤ n && n ≤ 256
  | .float _ | .complex _ _ | .method _ _ => false
  | .str s => match s.toList with
    | [] => true
    | [c] => c.toNat < 256
    | _ => false
  | .bytes bs => bs.length ≤ 1
  | .tuple items => items.isEmpty
  | _ => true

/-- Whether two operands are one value. If one of them was made for the comparison (`made`), only a
shared value is. -/
def isOne (made : Bool) (v w : Value) : Bool := v.same w && (!made || v.isShared)

mutual

/-- Equality, given how references compare. -/
def eqWith (deep : Value → Value → Bool) : Value → Value → Bool
  | .tuple xs, w => match w with | .tuple ys => eqAllWith deep xs ys | _ => false
  | .list a, w => match w with | .list b => deep (.list a) (.list b) | _ => false
  | .dict a, w => match w with | .dict b => deep (.dict a) (.dict b) | _ => false
  | .record a, w => match w with | .record b => deep (.record a) (.record b) | _ => false
  | v, w =>
    match Number.ofValue? v, Number.ofValue? w with
    | some m, some n => m.eq n
    | _, _ => same v w

/-- Equality item by item; an item is equal to itself whatever its kind says. -/
def eqAllWith (deep : Value → Value → Bool) : List Value → List Value → Bool
  | [], ys => ys.isEmpty
  | x :: xs, ys => match ys with
    | y :: ys => (same x y || eqWith deep x y) && eqAllWith deep xs ys
    | [] => false

end

end Value

namespace Heap

/-! ## Equality and order of structured values -/

/-- Equality of entries: as many of them, and each key with an equal value. -/
def eqEntries (eq : Value → Value → Bool) (a b : Entries) : Bool :=
  a.length == b.length && a.all fun e =>
    match b.lookup e.1 with
    | some v => e.2.same v || eq e.2 v
    | none => false

/-- The attributes of a record as entries. -/
def named (h : Heap) (r : Ref) : Entries := (h.attributes r).map fun e => (Value.str e.1, e.2)

/-- Equality of what references refer to, given that of what lies there. -/
def eqRefs (h : Heap) (eq : Value → Value → Bool) (v w : Value) : Bool :=
  match v, w with
  | .list a, .list b => a == b || Value.eqAllWith eq (h.items a).toList (h.items b).toList
  | .dict a, .dict b => a == b || eqEntries eq (h.entries a) (h.entries b)
  | .record a, .record b => a == b || eqEntries eq (h.named a) (h.named b)
  | _, _ => false

/-- Equality with at most `fuel` pairs of references followed one after the other. -/
def eqAt (h : Heap) : Nat → Value → Value → Bool
  | 0 => fun _ _ => false
  | fuel + 1 => Value.eqWith (h.eqRefs (eqAt h fuel))

/-- A bound on the pairs of references that can be followed one after the other. -/
def depth (h : Heap) : Nat := h.cells.size * h.cells.size + 1

def eq (h : Heap) (v w : Value) : Bool := h.eqAt h.depth v w

/-- Equality of items: an item is equal to itself whatever its kind says. -/
def itemEq (h : Heap) (v w : Value) : Bool := v.same w || h.eq v w

end Heap

/-- Whether an ordering comparison accepts an outcome. -/
def CompareOp.accepts : CompareOp → Ordering → Bool
  | .lt, o => o == .lt
  | .le, o => o != .gt
  | .gt, o => o == .gt
  | .ge, o => o != .lt
  | _, _ => false

/-- Lexicographic order of two lists of numbers. -/
def compareCodes : List Nat → List Nat → Ordering
  | [], [] => .eq
  | [], _ :: _ => .lt
  | _ :: _, [] => .gt
  | x :: xs, y :: ys => (compare x y).then (compareCodes xs ys)

namespace Value

/-- Order of values without parts: of numbers, of texts and of bytes. -/
def orderAtoms (op : CompareOp) (v w : Value) : Except Failure Bool :=
  match Number.ofValue? v, Number.ofValue? w with
  | some m, some n =>
    if m.isReal && n.isReal then .ok ((m.compareReal n).any op.accepts) else .error .type
  | _, _ =>
    match v, w with
    | .str a, .str b =>
      .ok (op.accepts (compareCodes (a.toList.map Char.toNat) (b.toList.map Char.toNat)))
    | .bytes a, .bytes b => .ok (op.accepts (compareCodes (a.map UInt8.toNat) (b.map UInt8.toNat)))
    | _, _ => .error .type

mutual

/-- Order of values, given equality and how lists compare. -/
def orderWith (eq : Value → Value → Bool) (deep : Value → Value → Except Failure Bool)
    (op : CompareOp) : Value → Value → Except Failure Bool
  | .tuple xs, w => match w with
    | .tuple ys => orderAllWith eq deep op xs ys
    | _ => .error .type
  | .list a, w => match w with
    | .list b => deep (.list a) (.list b)
    | _ => .error .type
  | v, w => orderAtoms op v w

/-- Order by the first items that differ, else by length. -/
def orderAllWith (eq : Value → Value → Bool) (deep : Value → Value → Except Failure Bool)
    (op : CompareOp) : List Value → List Value → Except Failure Bool
  | [], ys => .ok (op.accepts (if ys.isEmpty then .eq else .lt))
  | x :: xs, ys => match ys with
    | [] => .ok (op.accepts .gt)
    | y :: ys =>
      if same x y || eq x y then orderAllWith eq deep op xs ys else orderWith eq deep op x y

end

end Value

namespace Heap

/-- Order of what references refer to, given that of what lies there. -/
def orderRefs (h : Heap) (op : CompareOp) (order : Value → Value → Except Failure Bool)
    (v w : Value) : Except Failure Bool :=
  match v, w with
  | .list a, .list b =>
    Value.orderAllWith h.eq order op (h.items a).toList (h.items b).toList
  | _, _ => .error .type

/-- Order with at most `fuel` pairs of references followed one after the other. -/
def orderAt (h : Heap) (op : CompareOp) : Nat → Value → Value → Except Failure Bool
  | 0 => fun _ _ => .error .runtime
  | fuel + 1 => Value.orderWith h.eq (h.orderRefs op (orderAt h op fuel)) op

def order (h : Heap) (op : CompareOp) (v w : Value) : Except Failure Bool :=
  h.orderAt op h.depth v w

/-- Whether a value counts as true. -/
def truthy (h : Heap) : Value → Bool
  | .null => false
  | .bool b => b
  | .int n => n != 0
  | .float x => x != 0
  | .complex re im => re != 0 || im != 0
  | .str s => s != ""
  | .bytes bs => !bs.isEmpty
  | .tuple items => !items.isEmpty
  | .list r => (h.items r).size != 0
  | .dict r => !(h.entries r).isEmpty
  | _ => true

end Heap

end Wording
