import Wording.Value.Arith
import Wording.Value.Arguments
import Wording.Value.Percent
import Wording.Decimal.Reading

/-!
# Methods of numbers, and rounding

Whole numbers as bytes and back, doubles in hexadecimal, ratios, and rounding to decimal places.
-/

namespace Wording

open Decimal (Double Parts)

/-! ## Whole numbers -/

/-- The number of binary digits. -/
def bitLength (n : Nat) : Nat := if n = 0 then 0 else Nat.log2 n + 1

/-- The number of ones among the binary digits. -/
def bitCount (n : Nat) : Nat := (Nat.toDigits 2 n).count '1'

/-- Which end comes first, by its name. -/
def bigEnd (v : Option Value) : Except Failure Bool :=
  match v with
  | none => .ok true
  | some (.str "big") => .ok true
  | some (.str "little") => .ok false
  | some (.str _) => .error .value
  | some _ => .error .type

/-- Whether a flag is given and true. -/
def isSigned (h : Heap) (v : Option Value) : Bool := v.any h.truthy

/-- A whole number as bytes. -/
def intBytes (h : Heap) (n : Int) (a : Arguments) : Except Failure Value := do
  let values ← Parameters.bind ⟨["length", "byteorder", "signed"], 2, 0⟩ a
  let length ← match values[0]?.join with
    | none => pure 1
    | some v => v.asSize
  let big ← bigEnd (values[1]?.join)
  let signed := isSigned h (values[2]?.join)
  if length < 0 then throw .value
  let size : Nat := Nat.pow 256 length.toNat
  let fits := if signed then -(size : Int) ≤ 2 * n + 1 ∧ 2 * n < size else 0 ≤ n ∧ n < size
  if ¬fits then throw .overflow
  let m := (if n < 0 then n + size else n).toNat
  let little := (List.range length.toNat).map fun i => UInt8.ofNat (m / Nat.pow 256 i % 256)
  return .bytes (if big then little.reverse else little)

/-- The whole number that bytes stand for. -/
def intOfBytes (h : Heap) (a : Arguments) : Except Failure Value := do
  let values ← Parameters.bind ⟨["bytes", "byteorder", "signed"], 2, 1⟩ a
  match values with
  | some v :: order :: signed :: _ =>
    let big ← bigEnd order
    let signed := isSigned h signed
    let items ← match v with
      | .bytes bs => pure (bs.map fun b => Value.ofNat b.toNat)
      | .list r => pure (h.items r).toList
      | .tuple items => pure items
      | .dict r => pure ((h.entries r).map (·.1))
      | _ => throw .type
    let bs ← items.mapM fun v => do
      let n ← v.asIndex
      if n < 0 ∨ 256 ≤ n then throw Failure.value
      return n.toNat
    let n : Nat := (if big then bs else bs.reverse).foldl (fun acc b => 256 * acc + b) 0
    let size : Nat := Nat.pow 256 bs.length
    return .int (if signed && bs != [] && 2 * n ≥ size then (n : Int) - size else n)
  | _ => throw .type

/-! ## Doubles -/

/-- Numerator and denominator in lowest terms. -/
def floatRatio (x : Float) : Except Failure Value :=
  match Parts.ofFloat x with
  | .nan => .error .value
  | .infinite _ => .error .overflow
  | .finite d =>
    let (n, m) := d.ratio
    let g := Nat.gcd n m
    let n : Int := if d.negative then -((n / g : Nat) : Int) else ((n / g : Nat) : Int)
    .ok (.tuple [.int n, .ofNat (m / g)])

/-- A double in hexadecimal, with a power of two behind it. -/
def floatHex (x : Float) : String :=
  match Parts.ofFloat x with
  | .nan => "nan"
  | .infinite negative => if negative then "-inf" else "inf"
  | .finite d =>
    let sign := if d.negative then "-" else ""
    if d.mantissa = 0 then sign ++ "0x0.0p+0"
    else
      let lead := d.mantissa / Nat.pow 2 52
      let places := String.ofList (Text.Quoted.hex 13 (d.mantissa % Nat.pow 2 52))
      let power : Int := d.exponent + 52
      sign ++ "0x" ++ Nat.repr lead ++ "." ++ places ++ "p" ++ (if power < 0 then "-" else "+")
        ++ Nat.repr power.natAbs

def isHexChar (c : Char) : Bool :=
  Text.isAsciiDigit c || ('a' ≤ c && c ≤ 'f') || ('A' ≤ c && c ≤ 'F')

/-- The power of two behind a hexadecimal number. -/
def readPower? : List Char → Option Int
  | [] => some 0
  | c :: cs =>
    if c = 'p' ∨ c = 'P' then
      let (negative, cs) := Decimal.readSign cs
      if cs ≠ [] ∧ cs.all Text.isAsciiDigit then
        let n : Nat := cs.foldl (fun n c => 10 * n + (c.toNat - 48)) 0
        some (if negative then -(n : Int) else n)
      else none
    else none

/-- The double that a hexadecimal text writes. -/
def floatOfHex (cs : List Char) : Except Failure Value :=
  let (negative, cs) := Decimal.readSign (Text.trimBoth Text.isAsciiBlank cs)
  let word := String.ofList (cs.map Char.toLower)
  if word = "inf" ∨ word = "infinity" then .ok (.float (Decimal.pack negative (Nat.pow 2 52) 972))
  else if word = "nan" then .ok (.float (0.0 / 0.0))
  else
    let cs := match cs with
      | '0' :: 'x' :: r | '0' :: 'X' :: r => r
      | r => r
    let whole := cs.takeWhile isHexChar
    let rest := cs.dropWhile isHexChar
    let (places, rest) := match rest with
      | '.' :: r => (r.takeWhile isHexChar, r.dropWhile isHexChar)
      | r => ([], r)
    if whole.isEmpty ∧ places.isEmpty then .error .value
    else match readPower? rest with
      | none => .error .value
      | some power =>
        let digits := Text.readHex (whole ++ places)
        let power := power - 4 * places.length
        if digits = 0 then .ok (.float (Decimal.pack negative 0 0))
        else if power > 2000 then .error .overflow
        else if power + 4 * (whole ++ places).length < -2000 then
          .ok (.float (Decimal.pack negative 0 0))
        else
          let x := if 0 ≤ power then Decimal.nearest negative (digits * Nat.pow 2 power.toNat) 1
            else Decimal.nearest negative digits (Nat.pow 2 (-power).toNat)
          if x.isInf then .error .overflow else .ok (.float x)

/-! ## Rounding -/

/-- A whole number rounded to a multiple of a power of ten, a half to the even multiple. -/
def roundInt (n : Int) (places : Int) : Int :=
  if 0 ≤ places then n
  else
    let unit := Nat.pow 10 (-places).toNat
    let m := Decimal.roundDiv n.natAbs unit * unit
    if n < 0 then -(m : Int) else m

/-- A double rounded to decimal places; places beyond what doubles can hold change nothing, or leave
nothing. -/
def roundFloat (x : Float) (places : Int) : Except Failure Float :=
  match Parts.ofFloat x with
  | .nan | .infinite _ => .ok x
  | .finite d =>
    if places > 323 then .ok x
    else if places < -308 then .ok (copySign 0.0 x)
    else
      let m := d.roundTo places
      let y := if 0 ≤ places then Decimal.nearest d.negative m (Nat.pow 10 places.toNat)
        else Decimal.nearest d.negative (m * Nat.pow 10 (-places).toNat) 1
      if y.isInf then .error .overflow else .ok y

/-- A double rounded to a whole number. -/
def roundToInt (x : Float) : Except Failure Int :=
  match Parts.ofFloat x with
  | .nan => .error .value
  | .infinite _ => .error .overflow
  | .finite d =>
    let m := d.roundTo 0
    .ok (if d.negative then -(m : Int) else m)

def round (a : Arguments) : Except Failure Value := do
  match ← Parameters.bind ⟨["number", "ndigits"], 2, 1⟩ a with
  | some v :: places :: _ =>
    let places ← match v with
      | .bool _ | .int _ | .float _ => Value.asPosition? places
      | _ => throw .type
    match v, places with
    | .float x, none => return .int (← roundToInt x)
    | .float x, some n => return .float (← roundFloat x n)
    | v, places => return .int (roundInt (← v.asIndex) (places.getD 0))
  | _ => throw .type

/-! ## Calling -/

/-- Calls a method of a number. -/
def callNumberMethod (h : Heap) (v : Value) (m : Method) (a : Arguments) : Except Failure Value :=
  let alone := fun (r : Except Failure Value) =>
    (Parameters.byPosition 0 0).bind a >>= fun _ => r
  match v, m with
  | .float x, .conjugate => alone (.ok (.float x))
  | .float x, .asIntegerRatio => alone (floatRatio x)
  | .float x, .isInteger =>
    alone (.ok (.bool (match Parts.ofFloat x with
      | .finite d => d.ratio.1 % d.ratio.2 == 0
      | _ => false)))
  | .float x, .hex => alone (.ok (.str (floatHex x)))
  | .complex re im, .conjugate => alone (.ok (.complex re (-im)))
  | v, m => do
    let n ← v.asIndex
    match m with
    | .conjugate => alone (.ok (.int n))
    | .asIntegerRatio => alone (.ok (.tuple [.int n, .int 1]))
    | .bitLength => alone (.ok (.ofNat (bitLength n.natAbs)))
    | .bitCount => alone (.ok (.ofNat (bitCount n.natAbs)))
    | .toBytes => intBytes h n a
    | _ => throw .type

end Wording
