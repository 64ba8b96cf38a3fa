import Wording.Text.Quoted

/-!
# Encodings

Texts as bytes and back. An encoding writes each character, or has no form for it; reading gives
characters and the runs of bytes that form none. An error handler says what stands in for the
failures.
-/

namespace Wording.Text

/-- The byte orders of encodings with wide units. -/
inductive ByteOrder where
  | little
  | big
  deriving DecidableEq, Repr

inductive Encoding where
  | ascii
  | latin1
  | utf8 (signed : Bool)
  | utf16 (order : Option ByteOrder)
  | utf32 (order : Option ByteOrder)
  deriving DecidableEq, Repr

/-- What stands in for what cannot be encoded or decoded. -/
inductive ErrorHandler where
  | strict
  | ignore
  | replace
  | backslash
  | reference
  deriving DecidableEq, Repr

namespace ErrorHandler

def ofName? : String → Option ErrorHandler
  | "strict" => some .strict
  | "ignore" => some .ignore
  | "replace" => some .replace
  | "backslashreplace" => some .backslash
  | "xmlcharrefreplace" => some .reference
  | _ => none

end ErrorHandler

namespace Encoding

/-- Names differ neither in case nor in the marks between their words. -/
def ofName? (name : String) : Option Encoding :=
  let cs := name.toList.map fun c => if c = '-' ∨ c = ' ' then '_' else c.toLower
  match String.ofList cs with
  | "utf_8" | "utf8" | "u8" | "utf" | "utf8_ucs2" | "utf8_ucs4" | "cp65001" => some (.utf8 false)
  | "utf_8_sig" => some (.utf8 true)
  | "ascii" | "us_ascii" | "646" | "us" | "iso646_us" => some .ascii
  | "latin_1" | "latin1" | "latin" | "iso_8859_1" | "iso8859_1" | "iso8859" | "8859" | "cp819"
  | "l1" => some .latin1
  | "utf_16" | "utf16" | "u16" => some (.utf16 none)
  | "utf_16_le" | "utf_16le" => some (.utf16 (some .little))
  | "utf_16_be" | "utf_16be" => some (.utf16 (some .big))
  | "utf_32" | "utf32" | "u32" => some (.utf32 none)
  | "utf_32_le" | "utf_32le" => some (.utf32 (some .little))
  | "utf_32_be" | "utf_32be" => some (.utf32 (some .big))
  | _ => none

/-! ## Writing -/

/-- `n` as `count` bytes. -/
def bytesOf (order : ByteOrder) (count n : Nat) : List UInt8 :=
  let little := (List.range count).map fun i => UInt8.ofNat (n / Nat.pow 256 i % 256)
  if order = .little then little else little.reverse

def utf8Of (c : Char) : List UInt8 := (String.singleton c).toUTF8.toList

def utf16Of (order : ByteOrder) (c : Char) : List UInt8 :=
  let n := c.toNat
  if n < 0x10000 then bytesOf order 2 n
  else bytesOf order 2 (0xD800 + (n - 0x10000) / 0x400)
    ++ bytesOf order 2 (0xDC00 + (n - 0x10000) % 0x400)

/-- The bytes of a character, if the encoding has a form for it. -/
def write? (e : Encoding) (c : Char) : Option (List UInt8) :=
  match e with
  | .ascii => if c.toNat < 128 then some [UInt8.ofNat c.toNat] else none
  | .latin1 => if c.toNat < 256 then some [UInt8.ofNat c.toNat] else none
  | .utf8 _ => some (utf8Of c)
  | .utf16 order => some (utf16Of (order.getD .little) c)
  | .utf32 order => some (bytesOf (order.getD .little) 4 c.toNat)

/-- The mark in front of the text. -/
def mark : Encoding → List UInt8
  | .utf8 true => [0xEF, 0xBB, 0xBF]
  | .utf16 none => [0xFF, 0xFE]
  | .utf32 none => [0xFF, 0xFE, 0, 0]
  | _ => []

/-- The text that stands in for a character without a form; `none` refuses it. -/
def standIn? (h : ErrorHandler) (c : Char) : Option (List Char) :=
  match h with
  | .strict => none
  | .ignore => some []
  | .replace => some ['?']
  | .backslash => some (Quoted.escapeCode c.toNat)
  | .reference => some ('&' :: '#' :: (Nat.repr c.toNat).toList ++ [';'])

/-- Encodes a text; `none` if a character is refused. -/
def encode (e : Encoding) (h : ErrorHandler) (cs : List Char) : Option (List UInt8) := do
  let parts ← cs.mapM fun c =>
    match e.write? c with
    | some bs => some bs
    | none => do return ((← standIn? h c).flatMap fun d => (e.write? d).getD [])
  return e.mark ++ parts.flatten

/-! ## Reading -/

/-- A character, or bytes that form none. -/
inductive Unit8 where
  | char (c : Char)
  | bad (bs : List UInt8)

/-- How many bytes follow a leading byte, and the range of the first of them. -/
def utf8Lead? (b : Nat) : Option (Nat × Nat × Nat) :=
  if 0xC2 ≤ b ∧ b ≤ 0xDF then some (1, 0x80, 0xBF)
  else if b = 0xE0 then some (2, 0xA0, 0xBF)
  else if b = 0xED then some (2, 0x80, 0x9F)
  else if 0xE1 ≤ b ∧ b ≤ 0xEF then some (2, 0x80, 0xBF)
  else if b = 0xF0 then some (3, 0x90, 0xBF)
  else if 0xF1 ≤ b ∧ b ≤ 0xF3 then some (3, 0x80, 0xBF)
  else if b = 0xF4 then some (3, 0x80, 0x8F)
  else none

/-- Takes up to `n` following bytes, the first of them within a range. -/
def takeTail : Nat → Nat → Nat → List UInt8 → List UInt8
  | 0, _, _, _ => []
  | n + 1, low, high, b :: bs =>
    if low ≤ b.toNat ∧ b.toNat ≤ high then b :: takeTail n 0x80 0xBF bs else []
  | _, _, _, [] => []

def readUtf8 : Nat → List UInt8 → List Unit8
  | _, [] => []
  | 0, _ => []
  | fuel + 1, b :: bs =>
    if b < 0x80 then .char (Char.ofNat b.toNat) :: readUtf8 fuel bs
    else match utf8Lead? b.toNat with
      | none => .bad [b] :: readUtf8 fuel bs
      | some (n, low, high) =>
        let tail := takeTail n low high bs
        if tail.length = n then
          let start := b.toNat % Nat.pow 2 (6 - n)
          let code := tail.foldl (fun acc t => 64 * acc + t.toNat % 64) start
          .char (Char.ofNat code) :: readUtf8 fuel (bs.drop n)
        else .bad (b :: tail) :: readUtf8 fuel (bs.drop tail.length)

def unitOf (order : ByteOrder) (bs : List UInt8) : Nat :=
  (if order = .little then bs.reverse else bs).foldl (fun acc b => 256 * acc + b.toNat) 0

def readUtf16 (order : ByteOrder) : Nat → List UInt8 → List Unit8
  | _, [] => []
  | 0, _ => []
  | _, [b] => [.bad [b]]
  | fuel + 1, a :: b :: bs =>
    let n := unitOf order [a, b]
    if n < 0xD800 ∨ 0xDFFF < n then .char (Char.ofNat n) :: readUtf16 order fuel bs
    else if 0xDC00 ≤ n then .bad [a, b] :: readUtf16 order fuel bs
    else match bs with
      | c :: d :: rest =>
        let m := unitOf order [c, d]
        if 0xDC00 ≤ m ∧ m ≤ 0xDFFF then
          .char (Char.ofNat (0x10000 + (n - 0xD800) * 0x400 + (m - 0xDC00)))
            :: readUtf16 order fuel rest
        else .bad [a, b] :: readUtf16 order fuel bs
      | rest => [.bad (a :: b :: rest)]

def readUtf32 (order : ByteOrder) : Nat → List UInt8 → List Unit8
  | _, [] => []
  | 0, _ => []
  | fuel + 1, a :: b :: c :: d :: bs =>
    let n := unitOf order [a, b, c, d]
    (if n < 0xD800 ∨ (0xDFFF < n ∧ n < 0x110000) then .char (Char.ofNat n) else .bad [a, b, c, d])
      :: readUtf32 order fuel bs
  | _, bs => [.bad bs]

/-- The characters of bytes and the runs that form none. -/
def read (e : Encoding) (bs : List UInt8) : List Unit8 :=
  match e with
  | .ascii => bs.map fun b => if b < 0x80 then .char (Char.ofNat b.toNat) else .bad [b]
  | .latin1 => bs.map fun b => .char (Char.ofNat b.toNat)
  | .utf8 signed =>
    let bs := if signed ∧ bs.take 3 = e.mark then bs.drop 3 else bs
    readUtf8 bs.length bs
  | .utf16 (some order) => readUtf16 order bs.length bs
  | .utf16 none =>
    if bs.take 2 = [0xFE, 0xFF] then readUtf16 .big bs.length (bs.drop 2)
    else readUtf16 .little bs.length (if bs.take 2 = [0xFF, 0xFE] then bs.drop 2 else bs)
  | .utf32 (some order) => readUtf32 order bs.length bs
  | .utf32 none =>
    if bs.take 4 = [0, 0, 0xFE, 0xFF] then readUtf32 .big bs.length (bs.drop 4)
    else readUtf32 .little bs.length (if bs.take 4 = [0xFF, 0xFE, 0, 0] then bs.drop 4 else bs)

/-- The text that stands in for bytes that form no character; `none` refuses them. -/
def standInFor? (h : ErrorHandler) (bs : List UInt8) : Option (List Char) :=
  match h with
  | .strict | .reference => none
  | .ignore => some []
  | .replace => some ['\ufffd']
  | .backslash => some (bs.flatMap fun b => Quoted.escapeCode b.toNat)

/-- Decodes bytes; `none` if some are refused. -/
def decode (e : Encoding) (h : ErrorHandler) (bs : List UInt8) : Option (List Char) := do
  let parts ← (e.read bs).mapM fun u =>
    match u with
    | .char c => some [c]
    | .bad bs => standInFor? h bs
  return parts.flatten

end Encoding

end Wording.Text
