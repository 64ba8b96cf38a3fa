import Wording.Decimal.Binary
import Wording.Value.Basic

/-!
# Keys

Two values are the same key of a dictionary if their `key` is the same: a list of parts in which
numbers of all kinds are written as what they stand for. Entries are kept in the order in which
their keys first came, and a key keeps its first form.

The parts of a value follow its structure; those of a tuple begin with its length.
-/

namespace Wording

/-! ## Parts -/

/-- A part of a key. -/
inductive KeyPart where
  /-- A real number, in lowest terms. -/
  | quotient (num : Int) (den : Nat)
  | infinite (negative : Bool)
  /-- What is not a number is the same only bit by bit. -/
  | notNumber (bits : Nat)
  | text (s : String)
  | bytes (bs : List UInt8)
  /-- Something that is told by its name. -/
  | word (w : String)
  | ref (r : Ref)
  | fault (f : Fault)
  /-- Something of `size` parts that follow. -/
  | group (w : String) (size : Nat)
  deriving DecidableEq

/-- What tells a key from others. -/
abbrev Key := List KeyPart

namespace Decimal.Double

/-- The number as a quotient in lowest terms. -/
def lowestTerms (d : Double) : Int × Nat :=
  let (n, m) := d.ratio
  let g := Nat.gcd n m
  (if d.negative then -((n / g : Nat) : Int) else ((n / g : Nat) : Int), m / g)

end Decimal.Double

namespace KeyPart

def ofInt (n : Int) : KeyPart := .quotient n 1

def ofFloat (x : Float) : KeyPart :=
  match Decimal.Parts.ofFloat x with
  | .nan => .notNumber x.toBits.toNat
  | .infinite negative => .infinite negative
  | .finite d => .quotient d.lowestTerms.1 d.lowestTerms.2

end KeyPart

namespace Value

/-- A name for each kind of callable that has no parts. -/
def helperWord (h : Helper) : String := "helper " ++ reprStr h

mutual

/-- The key of a value. -/
def key : Value → Key
  | .null => [.word "null"]
  | .ellipsis => [.word "ellipsis"]
  | .bool b => [.ofInt (if b then 1 else 0)]
  | .int n => [.ofInt n]
  | .float x => [.ofFloat x]
  | .complex re im =>
    if KeyPart.ofFloat im = .ofInt 0 then [.ofFloat re]
    else [.group "complex" 2, .ofFloat re, .ofFloat im]
  | .str s => [.text s]
  | .bytes bs => [.bytes bs]
  | .tuple items => .group "tuple" items.length :: keyAll items
  | .slice a b c => .group "slice" 3 :: (key a ++ key b ++ key c)
  | .list r => [.group "list" 1, .ref r]
  | .dict r => [.group "dict" 1, .ref r]
  | .record r => [.group "record" 1, .ref r]
  | .helper h => [.word (helperWord h)]
  | .method v m => .group "method" 2 :: .word (reprStr m) :: key v
  | .unbound k m => [.group "unbound" 2, .word (reprStr k), .word (reprStr m)]
  | .static k m => [.group "static" 2, .word (reprStr k), .word (reprStr m)]
  | .foreign kind => [.group "foreign" 1, .word kind]
  | .constant v => .group "constant" 1 :: key v
  | .echo => [.word "echo"]
  | .keyNames => [.word "key names"]
  | .entryAt v => .group "entry" 1 :: key v
  | .failing f => [.fault f]
  | .renderer template _ => [.group "renderer" 1, .text template]

def keyAll : List Value → Key
  | [] => []
  | v :: vs => key v ++ keyAll vs

end

/-- Whether two values are the same key. -/
def keyEq (a b : Value) : Bool := a.key == b.key

theorem keyEq_refl (a : Value) : a.keyEq a = true := by simp [keyEq]

theorem keyEq_comm (a b : Value) : a.keyEq b = b.keyEq a := by
  simp [keyEq, Bool.beq_comm]

theorem keyEq_trans {a b c : Value} (h : a.keyEq b = true) (h' : b.keyEq c = true) :
    a.keyEq c = true := by
  simp only [keyEq, beq_iff_eq] at *
  exact h.trans h'

mutual

/-- Whether a value can be a key. -/
def isKey : Value → Bool
  | .list _ | .dict _ | .record _ | .slice _ _ _ => false
  | .tuple items => areKeys items
  | _ => true

def areKeys : List Value → Bool
  | [] => true
  | v :: vs => isKey v && areKeys vs

end

end Value

/-! ## Entries -/

namespace Keyed

variable {β : Type}

/-- What lies at a key. -/
def find? (es : List (Value × β)) (k : Value) : Option β :=
  (es.find? fun e => e.1.keyEq k).map (·.2)

/-- Gives `k` what `v` is; a key that is there keeps its place and its first form. -/
def put (k : Value) (v : β) : List (Value × β) → List (Value × β)
  | [] => [(k, v)]
  | e :: es => if e.1.keyEq k then (e.1, v) :: es else e :: put k v es

end Keyed

namespace Entries

def lookup (k : Value) (es : Entries) : Option Value := Keyed.find? es k

/-- Gives `k` the value `v`. -/
def insert (k v : Value) (es : Entries) : Entries := Keyed.put k v es

def ofList (es : List (Value × Value)) : Entries := es.foldl (fun acc e => insert e.1 e.2 acc) []

end Entries

namespace Heap

/-- The value at a key. -/
def lookup (h : Heap) (r : Ref) (k : Value) : Option Value := (h.entries r).lookup k

end Heap

end Wording
