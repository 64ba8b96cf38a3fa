/-!
# Binary floating point, exactly

A finite double is a whole number times a power of two. `Parts.ofFloat` takes a double apart, and
`nearest` goes the other way: it gives the double that is nearest to a quotient, a tie going to the
even neighbour. All arithmetic between the two is exact, on whole numbers.
-/

namespace Wording.Decimal

/-- The number `±mantissa · 2^exponent`. -/
structure Double where
  negative : Bool
  mantissa : Nat
  exponent : Int

/-- What a double stands for. -/
inductive Parts where
  | nan
  | infinite (negative : Bool)
  | finite (value : Double)

/-- Reads sign, exponent field and mantissa field of a double. -/
def Parts.ofFloat (x : Float) : Parts :=
  let bits := x.toBits.toNat
  let negative := bits / Nat.pow 2 63 == 1
  let field : Nat := bits / Nat.pow 2 52 % 2048
  let fraction : Nat := bits % Nat.pow 2 52
  if field = 2047 then if fraction = 0 then .infinite negative else .nan
  else if field = 0 then .finite ⟨negative, fraction, -1074⟩
  else .finite ⟨negative, Nat.pow 2 52 + fraction, (field : Int) - 1075⟩

namespace Double

/-- Numerator and denominator of the absolute value. -/
def ratio (d : Double) : Nat × Nat :=
  if 0 ≤ d.exponent then (d.mantissa * Nat.pow 2 d.exponent.toNat, 1)
  else (d.mantissa, Nat.pow 2 (-d.exponent).toNat)

/-- The whole number left when the fraction is cut off. -/
def truncate (d : Double) : Int :=
  let (n, m) := d.ratio
  if d.negative then -((n / m : Nat) : Int) else ((n / m : Nat) : Int)

end Double

/-- The quotient rounded to the nearest whole number, a half to the even one. -/
def roundDiv (num den : Nat) : Nat :=
  let q := num / den
  let r := num % den
  if 2 * r > den ∨ (2 * r = den ∧ q % 2 = 1) then q + 1 else q

/-- `num / (den * 2^q)` rounded to the nearest whole number. -/
def roundScaled (num den : Nat) (q : Int) : Nat :=
  if 0 ≤ q then roundDiv num (den * Nat.pow 2 q.toNat)
  else roundDiv (num * Nat.pow 2 (-q).toNat) den

/-- The exponent at which `num / den` has a mantissa of 53 bits, or the least exponent there is. -/
def exponentFor (num den : Nat) : Int :=
  let q : Int := (Nat.log2 num : Int) - (Nat.log2 den : Int) - 52
  let enough :=
    if 0 ≤ q then den * Nat.pow 2 (52 + q.toNat) ≤ num
    else den * Nat.pow 2 52 ≤ num * Nat.pow 2 (-q).toNat
  max (if enough then q else q - 1) (-1074)

/-- The double of a sign, a mantissa below `2^53` and an exponent of at least `-1074`. -/
def pack (negative : Bool) (m : Nat) (q : Int) : Float :=
  let sign := if negative then Nat.pow 2 63 else 0
  if m < Nat.pow 2 52 then Float.ofBits (UInt64.ofNat (sign + m))
  else if q > 971 then Float.ofBits (UInt64.ofNat (sign + 2047 * Nat.pow 2 52))
  else Float.ofBits (UInt64.ofNat (sign + (q + 1075).toNat * Nat.pow 2 52 + (m - Nat.pow 2 52)))

/-- The double nearest to `±num / den`; infinite where that is beyond the largest double. -/
def nearest (negative : Bool) (num den : Nat) : Float :=
  if num = 0 then pack negative 0 0
  else
    let q := exponentFor num den
    let m := roundScaled num den q
    if m = Nat.pow 2 53 then pack negative (Nat.pow 2 52) (q + 1) else pack negative m q

/-- The double nearest to a whole number, or `none` beyond the largest double. -/
def ofInt? (n : Int) : Option Float :=
  let x := nearest (n < 0) n.natAbs 1
  if x.isInf then none else some x

/-- The double nearest to the quotient of two whole numbers, or `none` beyond the largest one. -/
def ofQuotient? (a b : Int) : Option Float :=
  let x := nearest ((a < 0) != (b < 0)) a.natAbs b.natAbs
  if x.isInf then none else some x

/-- Order of a whole number and a finite double, exactly. -/
def compareInt (n : Int) (d : Double) : Ordering :=
  let (num, den) := d.ratio
  let num : Int := if d.negative then -(num : Int) else num
  compare (n * den) num

/-- The remainder of `a / b` with the sign of `a`, for a nonzero `b`. -/
def remainder (a b : Double) : Float :=
  let (n₁, d₁) := a.ratio
  let (n₂, d₂) := b.ratio
  nearest a.negative (n₁ * d₂ % (n₂ * d₁)) (d₁ * d₂)

end Wording.Decimal
