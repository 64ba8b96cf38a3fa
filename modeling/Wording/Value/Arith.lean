import Wording.Value.Compare

/-!
# Arithmetic

Sums, differences, products and quotients of numbers. Whole numbers are exact; with a double in play
the result is a double, with a complex number it is complex. Division by zero and results beyond the
largest double fail. Floor division and remainder fit together: `a = (a // b) * b + a % b`, and the
remainder has the sign of `b`.
-/

namespace Wording

open Decimal (Double Parts)

/-! ## Doubles -/

/-- The double nearest to a whole number. -/
def floatOfInt (n : Int) : Except Failure Float :=
  match Decimal.ofInt? n with
  | some x => .ok x
  | none => .error .overflow

/-- `x` with the sign of `y`. -/
def copySign (x y : Float) : Float :=
  let magnitude := x.toBits &&& 0x7FFFFFFFFFFFFFFF
  Float.ofBits (magnitude ||| (y.toBits &&& 0x8000000000000000))

/-- The remainder of the division that cuts the fraction off. -/
def truncatedRemainder (x y : Float) : Float :=
  match Parts.ofFloat x, Parts.ofFloat y with
  | .finite a, .finite b => if b.mantissa = 0 then 0.0 / 0.0 else Decimal.remainder a b
  | .finite _, .infinite _ => x
  | _, _ => 0.0 / 0.0

/-- Floor quotient and remainder of doubles, for a nonzero divisor. -/
def floatDivMod (x y : Float) : Float × Float :=
  let r := truncatedRemainder x y
  let q := (x - r) / y
  let (q, r) :=
    if r != 0 then if (y < 0) != (r < 0) then (q - 1.0, r + y) else (q, r)
    else (q, copySign 0.0 y)
  if q != 0 then
    let f := q.floor
    (if q - f > 0.5 then f + 1.0 else f, r)
  else (copySign 0.0 (x / y), r)

/-! ## Complex numbers -/

/-- The quotient of complex numbers, scaled by the larger part of the divisor. -/
def complexDiv (a b c d : Float) : Except Failure (Float × Float) :=
  if c.abs >= d.abs then
    if c.abs == 0 then .error .zeroDivision
    else
      let ratio := d / c
      let denom := c + d * ratio
      .ok ((a + b * ratio) / denom, (b - a * ratio) / denom)
  else if d.abs >= c.abs then
    let ratio := c / d
    let denom := c * ratio + d
    .ok ((a * ratio + b) / denom, (b * ratio - a) / denom)
  else .ok (0.0 / 0.0, 0.0 / 0.0)

/-- The largest whole number whose square is at most `n`. -/
def natSqrt (n : Nat) : Nat :=
  go (Nat.log2 n / 2 + 1) 0
where
  /-- Settles one binary digit after the other, from the top. -/
  go : Nat → Nat → Nat
    | 0, acc => if (acc + 1) * (acc + 1) ≤ n then acc + 1 else acc
    | k + 1, acc =>
      let next := acc + Nat.pow 2 (k + 1)
      go k (if next * next ≤ n then next else acc)

/-- The absolute value of a complex number. -/
def complexAbs (re im : Float) : Except Failure Float :=
  match Parts.ofFloat re, Parts.ofFloat im with
  | .infinite _, _ | _, .infinite _ => .ok (1.0 / 0.0)
  | .nan, _ | _, .nan => .ok (0.0 / 0.0)
  | .finite a, .finite b =>
    let (n₁, d₁) := a.ratio
    let (n₂, d₂) := b.ratio
    let square := Nat.pow (n₁ * d₂) 2 + Nat.pow (n₂ * d₁) 2
    let shift := 128
    let root := natSqrt (square * Nat.pow 2 (2 * shift))
    let exact := root * root == square * Nat.pow 2 (2 * shift)
    let num := 2 * root + if exact then 0 else 1
    let x := Decimal.nearest false num (2 * d₁ * d₂ * Nat.pow 2 shift)
    if x.isInf then .error .overflow else .ok x

/-! ## Numbers -/

namespace Number

def toValue : Number → Value
  | .int n => .int n
  | .float x => .float x
  | .complex re im => .complex re im

/-- The double nearest to a real number. -/
def toFloat : Number → Except Failure Float
  | .int n => floatOfInt n
  | .float x => .ok x
  | .complex _ _ => .error .type

/-- Real and imaginary part as doubles. -/
def toComplex : Number → Except Failure (Float × Float)
  | .complex re im => .ok (re, im)
  | n => do return (← n.toFloat, 0)

/-- Applies the operation for the widest kind among the two numbers. -/
def widen (ints : Int → Int → Except Failure Number)
    (floats : Float → Float → Except Failure Number)
    (complexes : Float × Float → Float × Float → Except Failure Number) (a b : Number) :
    Except Failure Number :=
  match a, b with
  | .int m, .int n => ints m n
  | .complex _ _, _ | _, .complex _ _ => do complexes (← a.toComplex) (← b.toComplex)
  | _, _ => do floats (← a.toFloat) (← b.toFloat)

def add : Number → Number → Except Failure Number :=
  widen (fun m n => .ok (.int (m + n))) (fun x y => .ok (.float (x + y)))
    fun (a, b) (c, d) => .ok (.complex (a + c) (b + d))

def sub : Number → Number → Except Failure Number :=
  widen (fun m n => .ok (.int (m - n))) (fun x y => .ok (.float (x - y)))
    fun (a, b) (c, d) => .ok (.complex (a - c) (b - d))

def mul : Number → Number → Except Failure Number :=
  widen (fun m n => .ok (.int (m * n))) (fun x y => .ok (.float (x * y)))
    fun (a, b) (c, d) => .ok (.complex (a * c - b * d) (a * d + b * c))

def div : Number → Number → Except Failure Number :=
  widen
    (fun m n =>
      if n = 0 then .error .zeroDivision
      else match Decimal.ofQuotient? m n with
        | some x => .ok (.float x)
        | none => .error .overflow)
    (fun x y => if y == 0 then .error .zeroDivision else .ok (.float (x / y)))
    fun (a, b) (c, d) => do
      let (re, im) ← complexDiv a b c d
      return .complex re im

def floorDiv : Number → Number → Except Failure Number :=
  widen (fun m n => if n = 0 then .error .zeroDivision else .ok (.int (Int.fdiv m n)))
    (fun x y => if y == 0 then .error .zeroDivision else .ok (.float (floatDivMod x y).1))
    fun _ _ => .error .type

def mod : Number → Number → Except Failure Number :=
  widen (fun m n => if n = 0 then .error .zeroDivision else .ok (.int (Int.fmod m n)))
    (fun x y => if y == 0 then .error .zeroDivision else .ok (.float (floatDivMod x y).2))
    fun _ _ => .error .type

def neg : Number → Number
  | .int n => .int (-n)
  | .float x => .float (-x)
  | .complex re im => .complex (-re) (-im)

def abs : Number → Except Failure Number
  | .int n => .ok (.int n.natAbs)
  | .float x => .ok (.float x.abs)
  | .complex re im => do return .float (← complexAbs re im)

end Number

end Wording
