import Wording.Decimal.Binary

/-!
# The shortest decimal of a double

A double is written with the fewest digits that read back as the same double, and of those with the
digits nearest to its value. `shortest` tries one digit, two digits and so on: on the grid of the
decimals with that many digits it suffices to test the two neighbours of the value. Seventeen digits
always suffice.
-/

namespace Wording.Decimal

/-- The decimal `digits · 10^exponent`. -/
structure Scientific where
  digits : Nat
  exponent : Int

/-- How many decimal digits a number has. -/
def digitCount (n : Nat) : Nat := (Nat.repr n).length

/-- The largest `k` with `10^k ≤ num / den`, for a positive quotient. -/
def floorLog10 (num den : Nat) : Int :=
  let k : Int := (digitCount num : Int) - digitCount den
  let reached :=
    if 0 ≤ k then den * Nat.pow 10 k.toNat ≤ num else den ≤ num * Nat.pow 10 (-k).toNat
  if reached then k else k - 1

/-- Numerator and denominator of `num / den / 10^s`. -/
def scaleDown (num den : Nat) (s : Int) : Nat × Nat :=
  if 0 ≤ s then (num, den * Nat.pow 10 s.toNat) else (num * Nat.pow 10 (-s).toNat, den)

/-- The open or closed interval of numbers that round to a double, in quarters of its last place. -/
structure Interval where
  low : Nat
  high : Nat
  den : Nat
  closed : Bool

/-- The numbers that round to `d`. Below a power of two the spacing is half as wide. -/
def Interval.of (d : Double) : Interval :=
  let below := if d.mantissa = Nat.pow 2 52 ∧ d.exponent > -1074 then 1 else 2
  let low := 4 * d.mantissa - below
  let high := 4 * d.mantissa + 2
  if 0 ≤ d.exponent then
    ⟨low * Nat.pow 2 d.exponent.toNat, high * Nat.pow 2 d.exponent.toNat, 4, d.mantissa % 2 == 0⟩
  else ⟨low, high, 4 * Nat.pow 2 (-d.exponent).toNat, d.mantissa % 2 == 0⟩

/-- Whether `c · 10^s` lies in the interval. -/
def Interval.contains (i : Interval) (c : Nat) (s : Int) : Bool :=
  let (num, den) := if 0 ≤ s then (c * Nat.pow 10 s.toNat, 1) else (c, Nat.pow 10 (-s).toNat)
  if i.closed then i.low * den ≤ num * i.den && num * i.den ≤ i.high * den
  else i.low * den < num * i.den && num * i.den < i.high * den

/-- The decimal with `n` digits that reads back as `d`, the nearer one if there are two. -/
def withDigits? (d : Double) (top : Int) (n : Nat) : Option Scientific :=
  let s := top - (n : Int) + 1
  let (num, den) := d.ratio
  let (num, den) := scaleDown num den s
  let c := num / den
  let i := Interval.of d
  match i.contains c s, i.contains (c + 1) s with
  | true, true => some ⟨roundDiv num den, s⟩
  | true, false => some ⟨c, s⟩
  | false, true => some ⟨c + 1, s⟩
  | false, false => none

/-- The shortest decimal that reads back as `d`. -/
def shortest (d : Double) : Scientific :=
  if d.mantissa = 0 then ⟨0, 0⟩
  else
    let top := floorLog10 d.ratio.1 d.ratio.2
    ((List.range 17).findSome? fun n => withDigits? d top (n + 1)).getD ⟨0, 0⟩

/-- Takes the zeros off the end of the digits. -/
def Scientific.reduce (x : Scientific) : Scientific :=
  go (digitCount x.digits) x
where
  go : Nat → Scientific → Scientific
    | 0, x => x
    | n + 1, x =>
      if x.digits ≠ 0 ∧ x.digits % 10 = 0 then go n ⟨x.digits / 10, x.exponent + 1⟩ else x

end Wording.Decimal
