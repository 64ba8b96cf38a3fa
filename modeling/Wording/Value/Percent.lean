import Wording.Value.Shown
import Wording.Value.Arith
import Wording.Value.Arguments

/-!
# Formats with percent signs

The operator `%` with a text or bytes on the left fills a format: each `%` begins a conversion with
flags, a width, a precision and a letter, and takes the next argument or, with a name in
parentheses, an entry of a mapping. All arguments have to be used. Two percent signs in a row stand
for one.

Bytes are handled as the text of the characters with the same numbers. Every conversion takes at
least one character off the format, which bounds their number.
-/

namespace Wording.Percent

open Wording.Text

/-! ## Conversions -/

/-- The flags, the width and the precision of a conversion. -/
structure Spec where
  left : Bool := false
  plus : Bool := false
  blank : Bool := false
  alternate : Bool := false
  zero : Bool := false
  width : Nat := 0
  precision : Option Nat := none

/-- Fills to the width; zeros go between the sign or the base and the digits. -/
def Spec.fill (s : Spec) (numeric : Bool) (head body : List Char) : List Char :=
  let missing := s.width - (head.length + body.length)
  if s.left then head ++ body ++ List.replicate missing ' '
  else if s.zero ∧ numeric then head ++ List.replicate missing '0' ++ body
  else List.replicate missing ' ' ++ head ++ body

/-- The sign in front of a number. -/
def Spec.sign (s : Spec) (negative : Bool) : List Char :=
  if negative then ['-'] else if s.plus then ['+'] else if s.blank then [' '] else []

/-- What a conversion letter does. -/
inductive Conversion where
  | display
  | repr
  | ascii
  | char
  | whole (base : Nat) (upper : Bool)
  | real (form : Char) (upper : Bool)

/-- The conversion that a letter names; `b` shows bytes within bytes. -/
def conversion? (bytes : Bool) (c : Char) : Option Conversion :=
  match c with
  | 's' => some .display
  | 'b' => if bytes then some .display else none
  | 'r' => some (if bytes then .ascii else .repr)
  | 'a' => some .ascii
  | 'c' => some .char
  | 'd' | 'i' | 'u' => some (.whole 10 false)
  | 'o' => some (.whole 8 false)
  | 'x' => some (.whole 16 false)
  | 'X' => some (.whole 16 true)
  | 'e' | 'f' | 'g' => some (.real c false)
  | 'E' => some (.real 'e' true)
  | 'F' => some (.real 'f' true)
  | 'G' => some (.real 'g' true)
  | _ => none

def upperAll (cs : List Char) : List Char := cs.map Char.toUpper

/-- Escapes what is not ASCII. -/
def asciiOnly (cs : List Char) : List Char :=
  cs.flatMap fun c => if c.toNat < 128 then [c] else Quoted.escapeCode c.toNat

/-- Bytes as the characters with the same numbers. -/
def charsOfBytes (bs : List UInt8) : List Char := bs.map fun b => Char.ofNat b.toNat

/-- The whole number that a value gives for a base; only base 10 cuts off fractions. -/
def wholeOf (base : Nat) (v : Value) : Except Failure Int :=
  match v with
  | .int n => .ok n
  | .bool b => .ok (if b then 1 else 0)
  | .float x =>
    if base ≠ 10 then .error .type
    else match Decimal.Parts.ofFloat x with
      | .nan => .error .value
      | .infinite _ => .error .overflow
      | .finite d => .ok d.truncate
  | _ => .error .type

def wholeDigits (base n : Nat) : Except Failure (List Char) :=
  if base = 10 then do return (← intText n).toList else .ok (Nat.toDigits base n)

def fillWhole (s : Spec) (base : Nat) (upper : Bool) (v : Value) :
    Except Failure (List Char) := do
  let n ← wholeOf base v
  let digits ← wholeDigits base n.natAbs
  let digits := List.replicate (s.precision.getD 0 - digits.length) '0' ++ digits
  let mark := if !s.alternate then [] else if base = 16 then ['0', 'x']
    else if base = 8 then ['0', 'o'] else []
  let change := if upper then upperAll else id
  return s.fill true (s.sign (n < 0) ++ change mark) (change digits)

/-- Puts a point behind the digits that have none, in front of a power of ten. -/
def forcePoint (cs : List Char) : List Char :=
  if cs.contains '.' then cs
  else cs.takeWhile (· != 'e') ++ '.' :: cs.dropWhile (· != 'e')

def realText (s : Spec) (form : Char) (d : Decimal.Double) : List Char :=
  let places := s.precision.getD 6
  let text :=
    if form = 'e' then Decimal.exponentText d places
    else if form = 'f' then Decimal.fixedText d places
    else Decimal.generalText d places s.alternate
  if s.alternate then forcePoint text.toList else text.toList

/-- The real number that a value gives; within bytes one that is too large counts as no number. -/
def realOf (bytes : Bool) (v : Value) : Except Failure Float :=
  match Number.ofValue? v with
  | some n => n.toFloat.mapError fun f => if bytes then .type else f
  | none => .error .type

def fillReal (bytes : Bool) (s : Spec) (form : Char) (upper : Bool) (v : Value) :
    Except Failure (List Char) := do
  let x ← realOf bytes v
  let (negative, text) := match Decimal.Parts.ofFloat x with
    | .nan => (false, ['n', 'a', 'n'])
    | .infinite negative => (negative, ['i', 'n', 'f'])
    | .finite d => (d.negative, realText s form d)
  return s.fill true (s.sign negative) (if upper then upperAll text else text)

/-- The character that a value gives: itself, or the one with its number. -/
def charOf (bytes : Bool) (v : Value) : Except Failure Char :=
  match v with
  | .str s => match bytes, s.toList with
    | false, [c] => .ok c
    | _, _ => .error .type
  | .bytes bs => match bytes, bs with
    | true, [b] => .ok (Char.ofNat b.toNat)
    | _, _ => .error .type
  | v =>
    match v.asIndex with
    | .ok n =>
      if n < 0 ∨ (if bytes then 256 else 0x110000) ≤ n then .error .overflow
      else .ok (Char.ofNat n.toNat)
    | .error f => .error f

/-- Fills one conversion with its argument. -/
def convert (h : Heap) (bytes : Bool) (s : Spec) (c : Conversion) (v : Value) :
    Except Failure (List Char) :=
  let cut := fun (cs : List Char) => match s.precision with
    | some p => cs.take p
    | none => cs
  match c with
  | .display =>
    if bytes then match v with
      | .bytes bs => .ok (s.fill false [] (cut (charsOfBytes bs)))
      | _ => .error .type
    else do return s.fill false [] (cut (← h.display v).toList)
  | .repr => do return s.fill false [] (cut (← h.repr v).toList)
  | .ascii => do return s.fill false [] (cut (asciiOnly (← h.repr v).toList))
  | .char => do return s.fill false [] [← charOf bytes v]
  | .whole base upper => fillWhole s base upper v
  | .real form upper => fillReal bytes s form upper v

/-! ## Reading a format -/

/-- The arguments that are left, and the mapping that names refer to. -/
structure Supply where
  rest : List Value
  mapping : Option Value

namespace Supply

def ofValue (bytes : Bool) (v : Value) : Supply :=
  match v with
  | .tuple items => ⟨items, none⟩
  | .dict _ | .list _ => ⟨[v], some v⟩
  | .bytes _ => ⟨[v], if bytes then none else some v⟩
  | _ => ⟨[v], none⟩

def next (s : Supply) : Except Failure (Value × Supply) :=
  match s.rest with
  | v :: vs => .ok (v, { s with rest := vs })
  | [] => .error .type

end Supply

/-- The characters up to the parenthesis that closes, and those after it. -/
def keyName : Nat → List Char → List Char → Option (List Char × List Char)
  | _, _, [] => none
  | depth, acc, c :: cs =>
    if c = ')' then
      if depth = 0 then some (acc.reverse, cs) else keyName (depth - 1) (c :: acc) cs
    else if c = '(' then keyName (depth + 1) (c :: acc) cs
    else keyName depth (c :: acc) cs

/-- The entry of a mapping. -/
def entryOf (h : Heap) (bytes : Bool) (mapping : Value) (name : List Char) :
    Except Failure Value :=
  let key := if bytes then Value.bytes (name.map fun c => UInt8.ofNat c.toNat)
    else Value.ofChars name
  match mapping with
  | .dict r => match h.lookup r key with
    | some v => .ok v
    | none => .error .key
  | _ => .error .type

def readFlags : Spec → List Char → Spec × List Char
  | s, [] => (s, [])
  | s, c :: cs =>
    if c = '-' then readFlags { s with left := true } cs
    else if c = '+' then readFlags { s with plus := true } cs
    else if c = ' ' then readFlags { s with blank := true } cs
    else if c = '#' then readFlags { s with alternate := true } cs
    else if c = '0' then readFlags { s with zero := true } cs
    else (s, c :: cs)

def readCount (cs : List Char) : Nat × List Char :=
  ((cs.takeWhile isAsciiDigit).foldl (fun n c => 10 * n + (c.toNat - 48)) 0,
    cs.dropWhile isAsciiDigit)

/-- A width or a precision below a bound, written out or taken from the arguments. -/
def readSize (bound : Int) (s : Supply) (cs : List Char) :
    Except Failure (Int × Supply × List Char) :=
  match cs with
  | '*' :: cs => do
    let (v, s) ← s.next
    let n ← v.asIndex
    if n < -bound ∨ bound ≤ n then throw .overflow
    return (n, s, cs)
  | cs =>
    let (n, cs) := readCount cs
    if bound ≤ n then .error .value else .ok (n, s, cs)

def readWidth (spec : Spec) (s : Supply) (cs : List Char) :
    Except Failure (Spec × Supply × List Char) := do
  let (n, s, cs) ← readSize (Value.maxSize + 1) s cs
  let spec := if n < 0 then { spec with left := true } else spec
  return ({ spec with width := n.natAbs }, s, cs)

def readPrecision (spec : Spec) (s : Supply) (cs : List Char) :
    Except Failure (Spec × Supply × List Char) :=
  match cs with
  | '.' :: cs => do
    let (n, s, cs) ← readSize (Nat.pow 2 31) s cs
    return ({ spec with precision := some n.toNat }, s, cs)
  | cs => .ok (spec, s, cs)

def skipLength : List Char → List Char
  | c :: cs => if c = 'h' ∨ c = 'l' ∨ c = 'L' then cs else c :: cs
  | [] => []

/-- A name in parentheses replaces the arguments by the entry that it names. -/
def readKey (h : Heap) (bytes : Bool) (s : Supply) (cs : List Char) :
    Except Failure (Supply × List Char) :=
  match cs with
  | '(' :: cs =>
    match s.mapping with
    | none => .error .type
    | some mapping =>
      match keyName 0 [] cs with
      | none => .error .value
      | some (name, cs) => do return ({ s with rest := [← entryOf h bytes mapping name] }, cs)
  | cs => .ok (s, cs)

/-- Fills a conversion behind its percent sign: its text, the arguments and the format left. -/
def fillConversion (h : Heap) (bytes : Bool) (s : Supply) (cs : List Char) :
    Except Failure (List Char × Supply × List Char) := do
  let (s, cs) ← readKey h bytes s cs
  let (spec, cs) := readFlags {} cs
  let (spec, s, cs) ← readWidth spec s cs
  let (spec, s, cs) ← readPrecision spec s cs
  match skipLength cs with
  | [] => throw .value
  | c :: cs =>
    let (v, s) ← s.next
    match conversion? bytes c with
    | none => throw (if bytes ∧ 128 ≤ c.toNat then .overflow else .value)
    | some conversion => return (← convert h bytes spec conversion v, s, cs)

/-- What stands behind a percent sign: a second one, or a conversion. -/
def fillOne (h : Heap) (bytes : Bool) (s : Supply) (cs : List Char) :
    Except Failure (List Char × Supply × List Char) :=
  match cs with
  | '%' :: cs => .ok (['%'], s, cs)
  | cs => fillConversion h bytes s cs

/-- Fills a format with arguments. -/
def fill (h : Heap) (bytes : Bool) : Nat → Supply → List Char → Except Failure (List Char)
  | 0, _, _ => .error .value
  | _, s, [] => if s.mapping.isNone && !s.rest.isEmpty then .error .type else .ok []
  | fuel + 1, s, c :: cs =>
    if c = '%' then do
      let (text, s, cs) ← fillOne h bytes s cs
      return text ++ (← fill h bytes fuel s cs)
    else do return c :: (← fill h bytes fuel s cs)

def text (h : Heap) (format : String) (v : Value) : Except Failure String := do
  let cs := format.toList
  return String.ofList (← fill h false (cs.length + 1) (.ofValue false v) cs)

def bytes (h : Heap) (format : List UInt8) (v : Value) : Except Failure (List UInt8) := do
  let cs := charsOfBytes format
  let cs ← fill h true (cs.length + 1) (.ofValue true v) cs
  return cs.map fun c => UInt8.ofNat c.toNat

end Wording.Percent
