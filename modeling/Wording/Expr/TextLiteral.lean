import Wording.Text.Table
import Wording.Text.Property

/-!
# Written texts

What stands between the quotes of a text in an expression. A backslash begins an escape: a letter
for a control character, up to three octal digits, or a fixed number of hexadecimal digits; at the
end of a line it joins the lines, and before anything else it stands for itself. Bytes are written
with ASCII characters, and have the letters, the octal digits and two hexadecimal digits only.
-/

namespace Wording.TextLiteral

open Wording.Text

/-! ## Escapes -/

/-- The character that a backslash before a letter or a mark stands for. -/
def letterEscape? : Char → Option Char
  | '\\' => some '\\'
  | '\x27' => some '\x27'
  | '"' => some '"'
  | 'a' => some '\x07'
  | 'b' => some '\x08'
  | 't' => some '\t'
  | 'n' => some '\n'
  | 'v' => some '\x0b'
  | 'f' => some '\x0c'
  | 'r' => some '\r'
  | _ => none

def isOctalDigit (c : Char) : Bool := '0' ≤ c && c ≤ '7'

def isHexDigit (c : Char) : Bool :=
  isAsciiDigit c || ('a' ≤ c && c ≤ 'f') || ('A' ≤ c && c ≤ 'F')

/-- The character of a number, if there is one. -/
def scalar? (n : Nat) : Option Char := if n.isValidChar then some (Char.ofNat n) else none

/-- The number of hexadecimal digits behind the letter of an escape. -/
def hexWidth? (bytes : Bool) (c : Char) : Option Nat :=
  if c = 'x' then some 2
  else if bytes then none
  else if c = 'u' then some 4
  else if c = 'U' then some 8
  else none

/-- What a backslash before `cs` stands for, and how much of `cs` belongs to it. Names of characters
are not known. -/
def escape? (bytes : Bool) : List Char → Option (List Char × Nat)
  | [] => some (['\\'], 0)
  | c :: cs =>
    if c = '\n' then some ([], 1)
    else if isOctalDigit c then
      let digits := ((c :: cs).take 3).takeWhile isOctalDigit
      let n := digits.foldl (fun n d => 8 * n + hexValue d) 0
      (scalar? (if bytes then n % 256 else n)).map fun d => ([d], digits.length)
    else
      match hexWidth? bytes c with
      | some width =>
        let digits := cs.take width
        if digits.length = width ∧ digits.all isHexDigit then
          (scalar? (readHex digits)).map fun d => ([d], width + 1)
        else none
      | none =>
        match letterEscape? c with
        | some d => some ([d], 1)
        | none => if c = 'N' ∧ !bytes then none else some (['\\'], 0)

/-- Replaces the escapes; the first argument counts the characters that an escape has taken. -/
def decodeFrom (bytes : Bool) : Nat → List Char → Option (List Char)
  | _, [] => some []
  | n + 1, _ :: cs => decodeFrom bytes n cs
  | 0, c :: cs =>
    if c = '\\' then do
      let (text, n) ← escape? bytes cs
      return text ++ (← decodeFrom bytes n cs)
    else do return c :: (← decodeFrom bytes 0 cs)

/-! ## Texts and bytes -/

/-- The text that is written between quotes; a raw text has no escapes. -/
def readText? (raw : Bool) (cs : List Char) : Option (List Char) :=
  if raw then some cs else decodeFrom false 0 cs

/-- The bytes that are written between quotes. -/
def readBytes? (raw : Bool) (cs : List Char) : Option (List UInt8) :=
  if cs.all (·.toNat < 128) then
    (if raw then some cs else decodeFrom true 0 cs).map fun ds => ds.map fun d => d.toNat.toUInt8
  else none

end Wording.TextLiteral
