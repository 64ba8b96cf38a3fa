import Wording.Decimal.Shortest

/-!
# Numbers as text

The texts of doubles: the shortest text that reads back (`floatText`), a fixed number of places
(`fixedText`), a fixed number of places in front of a power of ten (`exponentText`), and the choice
between the two by size (`generalText`). The last three give the absolute value; the sign is put in
front by the caller.
-/

namespace Wording.Decimal

/-- At least two digits and always a sign. -/
def exponentMark (e : Int) : String :=
  let digits := Nat.repr e.natAbs
  "e" ++ (if e < 0 then "-" else "+") ++ (if digits.length < 2 then "0" ++ digits else digits)

/-- `digits` with a point before its last `places` digits; no point for no places. -/
def placePoint (digits places : Nat) : String :=
  let cs := (Nat.repr digits).toList
  let cs := List.replicate (places + 1 - cs.length) '0' ++ cs
  let whole := String.ofList (cs.take (cs.length - places))
  if places = 0 then whole else whole ++ "." ++ String.ofList (cs.drop (cs.length - places))

/-- Mantissa with a point after its first digit, then the power of ten. -/
def scientificText (digits : Nat) (top : Int) : String :=
  placePoint digits (digitCount digits - 1) ++ exponentMark top

/-- Positional from `1e-4` up to below `1e16`, otherwise with a power of ten. `point` adds `.0` to a
whole number. -/
def magnitudeText (d : Double) (point : Bool) : String :=
  let x := (shortest d).reduce
  let top := x.exponent + digitCount x.digits - 1
  if x.digits ≠ 0 ∧ (top < -4 ∨ 16 ≤ top) then scientificText x.digits top
  else if 0 ≤ x.exponent then
    Nat.repr (x.digits * Nat.pow 10 x.exponent.toNat) ++ if point then ".0" else ""
  else placePoint x.digits (-x.exponent).toNat

/-- The shortest text that reads back as the same double. -/
def shortestText (x : Float) (point : Bool) : String :=
  match Parts.ofFloat x with
  | .nan => "nan"
  | .infinite negative => if negative then "-inf" else "inf"
  | .finite d => (if d.negative then "-" else "") ++ magnitudeText d point

/-- The text of a double; a whole number keeps `.0`. -/
def floatText (x : Float) : String := shortestText x true

/-- The text of a complex number: only the imaginary part when the real part is a positive zero. -/
def complexText (re im : Float) : String :=
  if re.toBits = 0 then shortestText im false ++ "j"
  else
    let imText := shortestText im false
    "(" ++ shortestText re false ++ (if imText.startsWith "-" then "" else "+") ++ imText ++ "j)"

/-! ## A given number of places -/

/-- The value times `10^places`, rounded to a whole number, a half to the even one. -/
def Double.roundTo (d : Double) (places : Int) : Nat :=
  let (num, den) := scaleDown d.ratio.1 d.ratio.2 (-places)
  roundDiv num den

/-- Exactly `places` digits after the point. -/
def fixedText (d : Double) (places : Nat) : String := placePoint (d.roundTo places) places

/-- `places + 1` significant digits and the power of ten of the first one. -/
def Double.significant (d : Double) (places : Nat) : Nat × Int :=
  if d.mantissa = 0 then (0, 0)
  else
    let top := floorLog10 d.ratio.1 d.ratio.2
    let digits := d.roundTo ((places : Int) - top)
    if digits = Nat.pow 10 (places + 1) then (Nat.pow 10 places, top + 1) else (digits, top)

/-- One digit before the point, `places` after it, and the power of ten. -/
def exponentText (d : Double) (places : Nat) : String :=
  let (digits, top) := d.significant places
  placePoint digits places ++ exponentMark top

/-- Takes the zeros, and then a bare point, off the end of the digits after a point. -/
def dropPlaceZeros (s : String) : String :=
  let cs := s.toList
  if cs.contains '.' then
    let cs := (cs.reverse.dropWhile (· == '0'))
    String.ofList (match cs with
      | '.' :: r => r
      | r => r).reverse
  else s

/-- `precision` significant digits, positional where the power of ten is at least `-4` and below the
precision. Trailing zeros go unless `keep`. -/
def generalText (d : Double) (precision : Nat) (keep : Bool) : String :=
  let p := if precision = 0 then 1 else precision
  let (digits, top) := d.significant (p - 1)
  let trim := if keep then id else dropPlaceZeros
  if -4 ≤ top ∧ top < p then trim (fixedText d ((p : Int) - 1 - top).toNat)
  else trim (placePoint digits (p - 1)) ++ exponentMark top

end Wording.Decimal
