import Wording.Decimal.Binary
import Wording.Text.Blank
import Wording.Text.Property

/-!
# Reading numbers

Whole numbers in a base from 2 to 36 and doubles, as they stand in an expression or in a text that
is converted. Digits of all scripts count; an underscore may stand between two digits. A double is
the one nearest to the decimal that is written.
-/

namespace Wording.Decimal

open Wording.Text

/-! ## Digits -/

/-- White space that may stand around a number: of the ASCII characters only the space and the
characters that move the writing position count. -/
def isNumberBlank (c : Char) : Bool := if c.toNat < 128 then isAsciiBlank c else isBlank c

/-- The value of a digit or a Latin letter. -/
def digitValue? (c : Char) : Option Nat :=
  match decimalValue? c with
  | some n => some n
  | none =>
    if 'a' ≤ c ∧ c ≤ 'z' then some (c.toNat - 87)
    else if 'A' ≤ c ∧ c ≤ 'Z' then some (c.toNat - 55)
    else none

/-- The number written by digits of `base`, with single underscores between digits. -/
def readDigits? (base : Nat) (cs : List Char) : Option Nat :=
  go cs false 0
where
  /-- `digit` tells whether the character before was a digit. -/
  go : List Char → Bool → Nat → Option Nat
    | [], digit, n => if digit then some n else none
    | '_' :: cs, digit, n => if digit then go cs false n else none
    | c :: cs, _, n =>
      match digitValue? c with
      | some d => if d < base then go cs true (base * n + d) else none
      | none => none

/-- A leading sign: whether it is a minus, and the rest. -/
def readSign : List Char → Bool × List Char
  | '-' :: cs => (true, cs)
  | '+' :: cs => (false, cs)
  | cs => (false, cs)

/-- The base that a leading `0x`, `0o` or `0b` names. -/
def namedBase? : List Char → Option (Nat × List Char)
  | '0' :: c :: cs =>
    if c = 'x' ∨ c = 'X' then some (16, cs)
    else if c = 'o' ∨ c = 'O' then some (8, cs)
    else if c = 'b' ∨ c = 'B' then some (2, cs)
    else none
  | _ => none

/-- One underscore may follow the name of the base. -/
def skipUnderscore : List Char → List Char
  | '_' :: cs => cs
  | cs => cs

/-- The digits of a number without its sign. Base 0 takes the base from the text, and then a decimal
number other than zero has no leading zero. -/
def readUnsigned? (base : Nat) (cs : List Char) : Option Nat :=
  match namedBase? cs with
  | some (b, rest) =>
    if base = 0 ∨ base = b then readDigits? b (skipUnderscore rest) else readDigits? base cs
  | none =>
    if base = 0 then
      match readDigits? 10 cs, cs with
      | some n, c :: _ => if n ≠ 0 ∧ decimalValue? c = some 0 then none else some n
      | r, _ => r
    else readDigits? base cs

/-- The whole number that a text writes, blanks around it apart. -/
def readInt? (base : Nat) (cs : List Char) : Option Int :=
  let (negative, cs) := readSign (trimBoth isNumberBlank cs)
  (readUnsigned? base cs).map fun n => if negative then -(n : Int) else n

/-! ## Doubles -/

/-- The double nearest to `±digits · 10^exponent`; `count` bounds the number of digits. -/
def ofScientific (negative : Bool) (digits : Nat) (exponent : Int) (count : Nat) : Float :=
  if digits = 0 then pack negative 0 0
  else if exponent > 400 then pack negative (Nat.pow 2 52) 972
  else if exponent + count < -400 then pack negative 0 0
  else if 0 ≤ exponent then nearest negative (digits * Nat.pow 10 exponent.toNat) 1
  else nearest negative digits (Nat.pow 10 (-exponent).toNat)

/-- A run of digits with underscores between digits: the digits, and the rest. -/
def spanDigits (cs : List Char) : List Char × List Char :=
  go cs []
where
  go : List Char → List Char → List Char × List Char
    | '_' :: c :: cs, acc =>
      if isAsciiDigit c ∧ acc ≠ [] then go cs (c :: acc) else (acc.reverse, '_' :: c :: cs)
    | c :: cs, acc => if isAsciiDigit c then go cs (c :: acc) else (acc.reverse, c :: cs)
    | [], acc => (acc.reverse, [])

/-- The exponent of a decimal, `0` if there is none; `none` if it is malformed. -/
def readExponent? : List Char → Option Int
  | [] => some 0
  | c :: cs =>
    if c = 'e' ∨ c = 'E' then
      let (negative, cs) := readSign cs
      match spanDigits cs with
      | (d :: ds, []) =>
        (readDigits? 10 (d :: ds)).map fun n => if negative then -(n : Int) else n
      | _ => none
    else none

/-- A decimal with an optional point and an optional exponent, without sign. -/
def readMagnitude? (negative : Bool) (cs : List Char) : Option Float :=
  let (whole, cs) := spanDigits cs
  let (places, cs) := match cs with
    | '.' :: r => spanDigits r
    | r => ([], r)
  if whole.isEmpty ∧ places.isEmpty then none
  else do
    let digits ← readDigits? 10 (whole ++ places)
    let exponent ← readExponent? cs
    return ofScientific negative digits (exponent - places.length) (whole.length + places.length)

/-- Digits of other scripts as ASCII digits, other blanks as spaces. -/
def normalizeDigit (c : Char) : Char :=
  match decimalValue? c with
  | some n => Char.ofNat (48 + n)
  | none => if isNumberBlank c then ' ' else c

/-- The double that a text writes, blanks around it apart. -/
def readFloat? (cs : List Char) : Option Float :=
  let (negative, cs) := readSign (trimBoth isNumberBlank (cs.map normalizeDigit))
  let word := String.ofList (cs.map Char.toLower)
  if word = "inf" ∨ word = "infinity" then some (pack negative (Nat.pow 2 52) 972)
  else if word = "nan" then
    some (Float.ofBits (if negative then 0xFFF8000000000000 else 0x7FF8000000000000))
  else readMagnitude? negative cs

end Wording.Decimal
