import Wording.Value.Arguments
import Wording.Value.Sequence
import Wording.Value.Shown
import Wording.Text.CaseMap
import Wording.Text.Encoding
import Wording.Decimal.Reading

/-!
# Methods of texts and bytes

Texts and bytes have nearly the same methods. Both are handled as lists of characters here: bytes as
the characters with the same numbers, with ASCII rules for letters, digits and blanks.
-/

namespace Wording

open Wording.Text

/-! ## Items of a value -/

namespace Heap

/-- The items that a walk over a value visits. -/
def elements (h : Heap) : Value → Except Failure (List Value)
  | .str s => .ok (s.toList.map fun c => .ofChars [c])
  | .bytes bs => .ok (bs.map fun b => .ofNat b.toNat)
  | .tuple items => .ok items
  | .list r => .ok (h.items r).toList
  | .dict r => .ok ((h.entries r).map (·.1))
  | _ => .error .type

end Heap

/-! ## Two kinds of texts -/

/-- Texts, or bytes. -/
inductive TextKind where
  | text
  | bytes
  deriving DecidableEq, Repr

namespace TextKind

def wrap (k : TextKind) (cs : List Char) : Value :=
  match k with
  | .text => .ofChars cs
  | .bytes => .bytes (cs.map fun c => UInt8.ofNat c.toNat)

def unwrap (k : TextKind) (v : Value) : Except Failure (List Char) :=
  match k, v with
  | .text, .str s => .ok s.toList
  | .bytes, .bytes bs => .ok (bs.map fun b => Char.ofNat b.toNat)
  | _, _ => .error .type

/-- What can be searched for: in bytes also a single number. -/
def pattern (k : TextKind) (v : Value) : Except Failure (List Char) :=
  match k, v with
  | .bytes, .int n => if 0 ≤ n ∧ n < 256 then .ok [Char.ofNat n.toNat] else .error .value
  | .bytes, .bool b => .ok [Char.ofNat (if b then 1 else 0)]
  | k, v => k.unwrap v

def blank (k : TextKind) : Char → Bool :=
  match k with
  | .text => isBlank
  | .bytes => isAsciiBlank

/-- Characters that end a line. -/
def lineBreak (k : TextKind) (c : Char) : Bool :=
  match k with
  | .text =>
    let n := c.toNat
    (10 ≤ n && n ≤ 13) || (0x1C ≤ n && n ≤ 0x1E) || n == 0x85 || n == 0x2028 || n == 0x2029
  | .bytes => c == '\n' || c == '\r'

def upperCase (k : TextKind) (c : Char) : Bool :=
  match k with
  | .text => isUppercase c
  | .bytes => 'A' ≤ c && c ≤ 'Z'

def lowerCase (k : TextKind) (c : Char) : Bool :=
  match k with
  | .text => isLowercase c
  | .bytes => 'a' ≤ c && c ≤ 'z'

def titleCase (k : TextKind) (c : Char) : Bool :=
  match k with
  | .text => isTitlecase c
  | .bytes => false

/-- Each word begins with a capital and goes on in small letters. -/
def asciiTitle : Bool → List Char → List Char
  | _, [] => []
  | inWord, c :: cs =>
    (if inWord then c.toLower else c.toUpper) :: asciiTitle (isAsciiLetter c) cs

/-- The methods that change case. -/
def recase (k : TextKind) (m : Method) (cs : List Char) : List Char :=
  match k, m with
  | .text, .lower => toLower cs
  | .text, .upper => toUpper cs
  | .text, .title => toTitle cs
  | .text, .swapCase => swapCase cs
  | .text, .capitalize => capitalize cs
  | .text, .casefold => toFolded cs
  | .bytes, .lower => cs.map Char.toLower
  | .bytes, .upper => cs.map Char.toUpper
  | .bytes, .title => asciiTitle false cs
  | .bytes, .swapCase =>
    cs.map fun c => if 'a' ≤ c && c ≤ 'z' then c.toUpper else c.toLower
  | .bytes, .capitalize =>
    match cs with
    | c :: cs => c.toUpper :: cs.map Char.toLower
    | [] => []
  | _, _ => cs

/-- Every word begins in upper or title case and goes on in lower case, and there is a word. -/
def isTitled (k : TextKind) : List Char → Bool → Bool → Bool
  | [], cased, _ => cased
  | c :: cs, cased, inWord =>
    if k.upperCase c || k.titleCase c then !inWord && isTitled k cs true true
    else if k.lowerCase c then inWord && isTitled k cs true true
    else isTitled k cs cased false

/-- The methods that test all characters. -/
def test (k : TextKind) (m : Method) (cs : List Char) : Bool :=
  let all := fun (p : Char → Bool) => !cs.isEmpty && cs.all p
  match m with
  | .isAscii => cs.all fun c => c.toNat < 128
  | .isAlpha => all (match k with | .text => isAlphabetic | .bytes => isAsciiLetter)
  | .isAlnum => all (match k with
      | .text => isAlphanumeric
      | .bytes => fun c => isAsciiLetter c || isAsciiDigit c)
  | .isDigit => all (match k with | .text => isDigit | .bytes => isAsciiDigit)
  | .isDecimal => all isDecimal
  | .isNumeric => all isNumeric
  | .isSpace => all k.blank
  | .isPrintable => cs.all isPrintable
  | .isIdentifier => isIdentifier cs
  | .isLower => cs.any k.lowerCase && !cs.any fun c => k.upperCase c || k.titleCase c
  | .isUpper => cs.any k.upperCase && !cs.any fun c => k.lowerCase c || k.titleCase c
  | .isTitle => k.isTitled cs false false
  | _ => false

/-! ## Methods with arguments -/

/-- The pattern, the position of the part that is searched, and that part, if there is one. -/
def searched (k : TextKind) (cs : List Char) (a : Arguments) :
    Except Failure (List Char × Option (Nat × List Char)) := do
  match ← (Parameters.byPosition 1 3).bind a with
  | some sub :: start :: stop :: _ =>
    let start ← Value.asPosition? start
    let stop ← Value.asPosition? stop
    return (← k.pattern sub, Sequence.window? cs start stop)
  | _ => throw .type

def occurrences (k : TextKind) (cs : List Char) (a : Arguments) : Except Failure Value := do
  let (pat, part) ← k.searched cs a
  return .ofNat (match part with
    | some (_, part) => Sequence.count pat part
    | none => 0)

/-- The position of the first or last occurrence. -/
def position? (k : TextKind) (last : Bool) (cs : List Char) (a : Arguments) :
    Except Failure (Option Nat) := do
  let (pat, part) ← k.searched cs a
  return do
    let (start, part) ← part
    let i ← if last then Sequence.findLast? pat part else Sequence.find? pat part
    return start + i

/-- The texts that an end is compared with: one, or any of several. -/
def candidates (k : TextKind) (v : Value) : Except Failure (List (List Char)) :=
  match v with
  | .tuple items => items.mapM k.unwrap
  | v => do return [← k.unwrap v]

/-- Whether the part that is searched begins or ends with one of the candidates. -/
def touches (k : TextKind) (atEnd : Bool) (cs : List Char) (a : Arguments) :
    Except Failure Value := do
  match ← (Parameters.byPosition 1 3).bind a with
  | some sub :: start :: stop :: _ =>
    let pats ← k.candidates sub
    match Sequence.window? cs (← Value.asPosition? start) (← Value.asPosition? stop) with
    | some (_, part) =>
      return .bool (pats.any fun p => if atEnd then p.isSuffixOf part else p.isPrefixOf part)
    | none => return .bool false
  | _ => throw .type

/-- The character that fills up. -/
def filler (k : TextKind) (v : Option Value) : Except Failure Char :=
  match v with
  | none => .ok ' '
  | some v => do
    match ← k.unwrap v with
    | [c] => return c
    | _ => throw .type

def padded (k : TextKind) (m : Method) (cs : List Char) (a : Arguments) :
    Except Failure Value := do
  match ← (Parameters.byPosition 1 2).bind a with
  | some width :: fill :: _ =>
    let width := (← width.asSize).toNat
    let fill ← k.filler fill
    return k.wrap (match m with
      | .ljust => Sequence.pad fill 0 (width - cs.length) cs
      | .rjust => Sequence.pad fill (width - cs.length) 0 cs
      | _ => Sequence.center fill width cs)
  | _ => throw .type

/-- Fills with zeros behind the sign. -/
def zeroFilled (k : TextKind) (cs : List Char) (a : Arguments) : Except Failure Value := do
  match ← (Parameters.byPosition 1 1).bind a with
  | [some width] =>
    let missing := (← width.asSize).toNat - cs.length
    let zeros := List.replicate missing '0'
    return k.wrap (match cs with
      | c :: rest => if c = '+' ∨ c = '-' then c :: zeros ++ rest else zeros ++ cs
      | [] => zeros)
  | _ => throw .type

def stripped (k : TextKind) (left right : Bool) (cs : List Char) (a : Arguments) :
    Except Failure Value := do
  match ← (Parameters.byPosition 0 1).bind a with
  | [some v] =>
    match v with
    | .null => return k.wrap (Sequence.strip k.blank left right cs)
    | v =>
      let set ← k.unwrap v
      return k.wrap (Sequence.strip set.contains left right cs)
  | _ => return k.wrap (Sequence.strip k.blank left right cs)

def partitioned (k : TextKind) (last : Bool) (cs : List Char) (a : Arguments) :
    Except Failure Value := do
  match ← (Parameters.byPosition 1 1).bind a with
  | [some sep] =>
    let sep ← k.unwrap sep
    if sep.isEmpty then throw .value
    let (x, y, z) := if last then Sequence.partitionRight sep cs else Sequence.partition sep cs
    return .tuple [k.wrap x, k.wrap y, k.wrap z]
  | _ => throw .type

/-- Cuts a given start or end off. -/
def cut (k : TextKind) (atEnd : Bool) (cs : List Char) (a : Arguments) : Except Failure Value := do
  match ← (Parameters.byPosition 1 1).bind a with
  | [some v] =>
    let p ← k.unwrap v
    return k.wrap (
      if atEnd then if p.isSuffixOf cs then cs.take (cs.length - p.length) else cs
      else if p.isPrefixOf cs then cs.drop p.length else cs)
  | _ => throw .type

def replaced (k : TextKind) (cs : List Char) (a : Arguments) : Except Failure Value := do
  match ← (Parameters.byPosition 2 3).bind a with
  | some old :: some new :: count :: _ =>
    return k.wrap (Sequence.replace (← k.unwrap old) (← k.unwrap new) (← Value.asLimit? count) cs)
  | _ => throw .type

/-- The pieces between separators, or the words. -/
def pieces (k : TextKind) (right : Bool) (cs : List Char) (a : Arguments) :
    Except Failure (List Value) := do
  let values ← Parameters.bind ⟨["sep", "maxsplit"], 2, 0⟩ a
  let max ← Value.asLimit? (values[1]?.join)
  match (values[0]?.join : Option Value) with
  | none | some .null =>
    let ws := if right then Sequence.wordsRight k.blank max cs else Sequence.words k.blank max cs
    return ws.map k.wrap
  | some sep =>
    let sep ← k.unwrap sep
    if sep.isEmpty then throw .value
    let ps := if right then Sequence.splitOnRight sep max cs else Sequence.splitOn sep max cs
    return ps.map k.wrap

def lines (k : TextKind) (cs : List Char) (a : Arguments) : Except Failure (List Value) := do
  let values ← Parameters.bind ⟨["keepends"], 1, 0⟩ a
  let keep ← Value.asFlag (values[0]?.join)
  return (Sequence.lines k.lineBreak (fun x y => x == '\r' && y == '\n') keep cs).map k.wrap

def tabsExpanded (k : TextKind) (cs : List Char) (a : Arguments) : Except Failure Value := do
  let values ← Parameters.bind ⟨["tabsize"], 1, 0⟩ a
  let size ← match values[0]?.join with
    | none => pure 8
    | some v => v.asInt
  let isBreak := fun (c : Char) => c == '\n' || c == '\r'
  return k.wrap (Sequence.expandTabs (· == '\t') isBreak ' ' size.toNat cs)

/-- The items of the argument with the text between them. -/
def joined (h : Heap) (k : TextKind) (cs : List Char) (a : Arguments) : Except Failure Value := do
  match ← (Parameters.byPosition 1 1).bind a with
  | [some v] =>
    let parts ← (← h.elements v).mapM k.unwrap
    return k.wrap (cs.intercalate parts)
  | _ => throw .type

/-! ## Tables of characters -/

/-- What a table gives for a character: nothing new, or the text in its place. -/
def replacement (h : Heap) (table : Value) (c : Char) : Except Failure (Option (List Char)) := do
  let entry : Option Value ← match table with
    | .dict r => pure (h.lookup r (.ofNat c.toNat))
    | .list r => pure (h.items r)[c.toNat]?
    | .tuple items => pure items[c.toNat]?
    | .str s => pure (s.toList[c.toNat]?.map fun c => .ofChars [c])
    | .bytes bs => pure (bs[c.toNat]?.map fun b => .ofNat b.toNat)
    | _ => throw .type
  match entry with
  | none => return none
  | some .null => return some []
  | some (.str s) => return some s.toList
  | some v =>
    let n ← v.asIndex
    if 0 ≤ n ∧ n < 0x110000 then return some [Char.ofNat n.toNat] else throw .value

def textByTable (h : Heap) (cs : List Char) (a : Arguments) : Except Failure Value := do
  match ← (Parameters.byPosition 1 1).bind a with
  | [some table] =>
    let parts ← cs.mapM fun c => do return (← replacement h table c).getD [c]
    return .ofChars parts.flatten
  | _ => throw .type

def bytesByTable (cs : List Char) (a : Arguments) : Except Failure Value := do
  match ← Parameters.bind ⟨["", "delete"], 2, 1⟩ a with
  | some table :: delete :: _ =>
    let deleted ← match delete with
      | none => pure []
      | some v => bytes.unwrap v
    let cs := cs.filter fun c => !deleted.contains c
    match table with
    | .null => return bytes.wrap cs
    | table =>
      let table ← bytes.unwrap table
      if table.length ≠ 256 then throw .value
      return bytes.wrap (cs.map fun c => (table[c.toNat]?).getD c)
  | _ => throw .type

/-- A table from a mapping of characters. -/
def tableOfEntries (es : Entries) : Except Failure Entries := do
  let es ← es.mapM fun e =>
    match e.1 with
    | .int n => .ok (Value.int n, e.2)
    | .bool b => .ok (Value.bool b, e.2)
    | .str s => match s.toList with
      | [c] => .ok (Value.ofNat c.toNat, e.2)
      | _ => .error .value
    | _ => .error .type
  return Entries.ofList es

/-- A table from two texts of one length, and the characters to delete. -/
def tableOfTexts (source target deleted : List Char) : Except Failure Entries :=
  if source.length ≠ target.length then .error .value
  else .ok (Entries.ofList (
    (source.zip target).map (fun p => (Value.ofNat p.1.toNat, Value.ofNat p.2.toNat)) ++
    deleted.map fun c => (Value.ofNat c.toNat, Value.null)))

def textTable (h : Heap) (a : Arguments) : Except Failure Entries := do
  match ← (Parameters.byPosition 1 3).bind a with
  | [some (.dict r), none, none] => tableOfEntries (h.entries r)
  | [some x, some y, z] =>
    let deleted ← match z with
      | none => pure []
      | some z => z.asText
    tableOfTexts (← x.asText) (← y.asText) deleted
  | _ => throw .type

def bytesTable (a : Arguments) : Except Failure Value := do
  match ← (Parameters.byPosition 2 2).bind a with
  | [some x, some y] =>
    let source ← bytes.unwrap x
    let target ← bytes.unwrap y
    if source.length ≠ target.length then throw .value
    let pairs := (source.zip target).reverse
    return bytes.wrap ((List.range 256).map fun i =>
      match pairs.find? fun p => p.1.toNat == i with
      | some p => p.2
      | none => Char.ofNat i)
  | _ => throw .type

/-! ## Encoding -/

def nameArgument (default : String) (v : Option Value) : Except Failure String :=
  match v with
  | none => .ok default
  | some (.str s) => .ok s
  | some _ => .error .type

def encoded (s : List Char) (a : Arguments) : Except Failure Value := do
  let values ← Parameters.bind ⟨["encoding", "errors"], 2, 0⟩ a
  let name ← nameArgument "utf-8" (values[0]?.join)
  let handler ← nameArgument "strict" (values[1]?.join)
  match Encoding.ofName? name with
  | none => throw .lookup
  | some e =>
    match e.encode ((ErrorHandler.ofName? handler).getD .strict) s with
    | some bs => return .bytes bs
    | none => throw (if (ErrorHandler.ofName? handler).isSome then .encoding else .lookup)

/-- Text from bytes; without bytes the names of the encoding and of the handler do not matter. -/
def decodedBy (bs : List UInt8) (name handler : String) : Except Failure Value :=
  if bs.isEmpty then .ok (.str "") else
  match Encoding.ofName? name with
  | none => .error .lookup
  | some e =>
    match e.decode ((ErrorHandler.ofName? handler).getD .strict) bs with
    | some cs => .ok (.ofChars cs)
    | none =>
      .error (match ErrorHandler.ofName? handler with
        | none => .lookup
        | some .reference => .type
        | some _ => .decoding)

def decoded (bs : List UInt8) (a : Arguments) : Except Failure Value := do
  let values ← Parameters.bind ⟨["encoding", "errors"], 2, 0⟩ a
  decodedBy bs (← nameArgument "utf-8" (values[0]?.join))
    (← nameArgument "strict" (values[1]?.join))

/-- The character between bytes in hexadecimal. -/
def hexSeparator (h : Heap) (v : Value) : Except Failure Char := do
  if (← h.elements v).length ≠ 1 then throw .value
  let cs ← match v with
    | .bytes bs => pure (bs.map fun b => Char.ofNat b.toNat)
    | v => v.asText
  match cs with
  | [c] => if c.toNat < 128 then return c else throw .value
  | _ => throw .value

/-- Bytes in hexadecimal, with a separator after every `group` bytes counted from an end. -/
def hexText (h : Heap) (cs : List Char) (a : Arguments) : Except Failure Value := do
  let values ← Parameters.bind ⟨["sep", "bytes_per_sep"], 2, 0⟩ a
  let group ← match values[1]?.join with
    | none => pure 1
    | some v => v.asInt
  let codes := cs.map fun c => Quoted.hex 2 c.toNat
  match values[0]?.join with
  | none => return .ofChars codes.flatten
  | some sep =>
    let c ← hexSeparator h sep
    let n := group.natAbs
    if n = 0 then return .ofChars codes.flatten
    let total := codes.length
    let mark := fun (i : Nat) =>
      i != 0 && (if group > 0 then (total - i) % n == 0 else i % n == 0)
    return .ofChars ((codes.zipIdx.map fun p => if mark p.2 then c :: p.1 else p.1).flatten)

def isHexDigit (c : Char) : Bool :=
  isAsciiDigit c || ('a' ≤ c && c ≤ 'f') || ('A' ≤ c && c ≤ 'F')

/-- Bytes from pairs of hexadecimal digits with blanks between the pairs. -/
def bytesOfHex : List Char → Except Failure (List Char)
  | [] => .ok []
  | [c] => if isAsciiBlank c then .ok [] else .error .value
  | c :: d :: cs =>
    if isAsciiBlank c then bytesOfHex (d :: cs)
    else if isHexDigit c && isHexDigit d then do
      return Char.ofNat (hexValue c * 16 + hexValue d) :: (← bytesOfHex cs)
    else .error .value

end TextKind

/-! ## Calling -/

namespace Value

/-- What a method gives: a value, or what a new list or a new dictionary holds. -/
inductive Answer where
  | value (v : Value)
  | items (vs : List Value)
  | entries (es : Entries)

/-- Calls a method of a text or of bytes. -/
def callTextMethod (h : Heap) (k : TextKind) (cs : List Char) (m : Method) (a : Arguments) :
    Except Failure Answer :=
  let plain := fun (r : Except Failure Value) => r.map Answer.value
  let listed := fun (r : Except Failure (List Value)) => r.map Answer.items
  let alone := fun (v : Value) => plain (((Parameters.byPosition 0 0).bind a).map fun _ => v)
  let located := fun (last : Bool) (r : Option Nat → Except Failure Value) =>
    plain (k.position? last cs a >>= r)
  let orMinusOne := fun (i : Option Nat) => Except.ok (match i with
    | some i => Value.ofNat i
    | none => Value.int (-1))
  let orFail := fun (i : Option Nat) => match i with
    | some i => Except.ok (Value.ofNat i)
    | none => Except.error Failure.value
  match m with
  | .capitalize | .casefold | .lower | .swapCase | .title | .upper => alone (k.wrap (k.recase m cs))
  | .isAlnum | .isAlpha | .isAscii | .isDecimal | .isDigit | .isIdentifier | .isLower | .isNumeric
  | .isPrintable | .isSpace | .isTitle | .isUpper => alone (.bool (k.test m cs))
  | .center | .ljust | .rjust => plain (k.padded m cs a)
  | .count => plain (k.occurrences cs a)
  | .find => located false orMinusOne
  | .rfind => located true orMinusOne
  | .index => located false orFail
  | .rindex => located true orFail
  | .startsWith => plain (k.touches false cs a)
  | .endsWith => plain (k.touches true cs a)
  | .expandTabs => plain (k.tabsExpanded cs a)
  | .join => plain (k.joined h cs a)
  | .strip => plain (k.stripped true true cs a)
  | .lstrip => plain (k.stripped true false cs a)
  | .rstrip => plain (k.stripped false true cs a)
  | .partition => plain (k.partitioned false cs a)
  | .rpartition => plain (k.partitioned true cs a)
  | .cutStart => plain (k.cut false cs a)
  | .cutEnd => plain (k.cut true cs a)
  | .replace => plain (k.replaced cs a)
  | .split => listed (k.pieces false cs a)
  | .rsplit => listed (k.pieces true cs a)
  | .splitLines => listed (k.lines cs a)
  | .zfill => plain (k.zeroFilled cs a)
  | .replaceChars =>
    plain (match k with
      | .text => TextKind.textByTable h cs a
      | .bytes => TextKind.bytesByTable cs a)
  | .maketrans =>
    match k with
    | .text => (TextKind.textTable h a).map Answer.entries
    | .bytes => plain (TextKind.bytesTable a)
  | .encode => plain (TextKind.encoded cs a)
  | .decode => plain (TextKind.decoded (cs.map fun c => UInt8.ofNat c.toNat) a)
  | .hex => plain (TextKind.hexText h cs a)
  | .fromHex =>
    plain (do
      match ← (Parameters.byPosition 1 1).bind a with
      | [some v] => return TextKind.bytes.wrap (← TextKind.bytesOfHex (← v.asText))
      | _ => throw .type)
  | _ => .error .type

end Value

end Wording
