import Wording.Value.Compare

/-!
# Arguments

What a callable is given: values by position and values by name. A callable takes them apart by the
names of its parameters, of which the first few may be given by position and some must be given.
-/

namespace Wording

structure Arguments where
  positional : List Value
  named : List (String × Value)

/-- The parameters of a callable: their names (empty where only a position gives them), how many of
them a position may give, and how many of the first ones are required. -/
structure Parameters where
  names : List String
  positional : Nat
  required : Nat

namespace Parameters

/-- Parameters that only positions give. -/
def byPosition (required most : Nat) : Parameters := ⟨List.replicate most "", most, required⟩

/-- The value of each parameter, `none` where it is left out. -/
def bind (p : Parameters) (a : Arguments) : Except Failure (List (Option Value)) :=
  let given := a.positional.length
  let known := fun (k : String) => k != "" && ((p.names.drop given).contains k)
  if given > p.positional then .error .type
  else if !(a.named.all fun n => known n.1) then .error .type
  else
    let values := a.positional.map some ++
      (p.names.drop given).map fun k => (a.named.find? fun n => k != "" && n.1 == k).map (·.2)
    if (values.take p.required).all Option.isSome then .ok values else .error .type

end Parameters

namespace Value

/-- A value that can stand for a position or a count. -/
def asIndex : Value → Except Failure Int
  | .bool b => .ok (if b then 1 else 0)
  | .int n => .ok n
  | _ => .error .type

/-- The largest count. -/
def maxSize : Int := Int.pow 2 63 - 1

/-- A count within the range of sizes. -/
def asSize (v : Value) : Except Failure Int := do
  let n ← v.asIndex
  if n < -maxSize - 1 ∨ maxSize < n then throw .overflow
  return n

/-- A whole number within 32 bits. -/
def asInt (v : Value) : Except Failure Int := do
  let n ← v.asIndex
  if n < -Int.pow 2 31 ∨ Int.pow 2 31 ≤ n then throw .overflow
  return n

/-- A position that may be left out, explicitly too. -/
def asPosition? (v : Option Value) : Except Failure (Option Int) :=
  match v with
  | none | some .null => .ok none
  | some v => some <$> v.asIndex

/-- A count that is without limit if negative or left out. -/
def asLimit? (v : Option Value) : Except Failure (Option Nat) :=
  match v with
  | none => .ok none
  | some v => do
    let n ← v.asSize
    return if n < 0 then none else some n.toNat

/-- An optional flag that is a whole number. -/
def asFlag (v : Option Value) : Except Failure Bool :=
  match v with
  | none => .ok false
  | some v => do return (← v.asInt) != 0

def asText : Value → Except Failure (List Char)
  | .str s => .ok s.toList
  | _ => .error .type

def ofChars (cs : List Char) : Value := .str (String.ofList cs)

def ofNat (n : Nat) : Value := .int n

end Value

end Wording
