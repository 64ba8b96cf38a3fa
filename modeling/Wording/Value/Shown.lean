import Wording.Value.Basic
import Wording.Decimal.Written
import Wording.Text.Quoted

/-!
# Values as text

The text that a value is written with in a message (`display`) and the text that shows what kind of
value it is (`repr`): texts and bytes in quotes, structured values with their parts. A structured
value that is shown within itself is cut short by dots.

The text follows the structure of the value, and each reference it follows spends one unit of fuel;
a reference is never followed within itself, so as many units as there are places suffice.
-/

namespace Wording

open Wording.Text

/-- A number with more digits than this is not written. -/
def maxDigits : Nat := 4300

/-- The decimal text of a whole number. -/
def intText (n : Int) : Except Failure String :=
  let digits := Nat.repr n.natAbs
  if digits.length > maxDigits then .error .value
  else .ok (if n < 0 then "-" ++ digits else digits)

namespace Value

/-- Text of a value without parts. -/
def atomText : Value → Except Failure String
  | .null => .ok "None"
  | .ellipsis => .ok "Ellipsis"
  | .bool b => .ok (if b then "True" else "False")
  | .int n => intText n
  | .float x => .ok (Decimal.floatText x)
  | .complex re im => .ok (Decimal.complexText re im)
  | .str s => .ok (Quoted.quote s)
  | .bytes bs => .ok (Quoted.quoteBytes bs)
  | .helper .int => .ok "<class \x27int\x27>"
  | .helper .float => .ok "<class \x27float\x27>"
  | .helper .str => .ok "<class \x27str\x27>"
  | .helper .abs => .ok "<built-in function abs>"
  | .helper .len => .ok "<built-in function len>"
  | .helper .max => .ok "<built-in function max>"
  | .helper .min => .ok "<built-in function min>"
  | .helper .round => .ok "<built-in function round>"
  | .helper .sorted => .ok "<built-in function sorted>"
  | .renderer template _ => .ok ("Renderer(" ++ Quoted.quote template ++ ")")
  | v => .ok ("<" ++ v.kindName ++ ">")

mutual

/-- The shown text, given the text of references. -/
def reprWith (deep : Value → Except Failure String) : Value → Except Failure String
  | .tuple items => do
    let texts ← reprAllWith deep items
    return "(" ++ ", ".intercalate texts ++ (if texts.length = 1 then ",)" else ")")
  | .list r => deep (.list r)
  | .dict r => deep (.dict r)
  | .record r => deep (.record r)
  | .slice a b c => do
    let lower ← reprWith deep a
    let upper ← reprWith deep b
    let step ← reprWith deep c
    return "slice(" ++ lower ++ ", " ++ upper ++ ", " ++ step ++ ")"
  | v => atomText v

def reprAllWith (deep : Value → Except Failure String) :
    List Value → Except Failure (List String)
  | [] => .ok []
  | v :: vs => do
    let text ← reprWith deep v
    let texts ← reprAllWith deep vs
    return text :: texts

end

end Value

namespace Heap

/-- The texts of entries, `key: value`. -/
def entryTexts (repr : Value → Except Failure String) : Entries → Except Failure (List String)
  | [] => .ok []
  | e :: es => do
    let key ← repr e.1
    let value ← repr e.2
    let texts ← entryTexts repr es
    return (key ++ ": " ++ value) :: texts

/-- The texts of attributes, `name=value`. -/
def attributeTexts (repr : Value → Except Failure String) :
    List (String × Value) → Except Failure (List String)
  | [] => .ok []
  | e :: es => do
    let value ← repr e.2
    let texts ← attributeTexts repr es
    return (e.1 ++ "=" ++ value) :: texts

/-- The shown text; `active` are the references that are being shown. -/
def reprAt (h : Heap) : Nat → List Ref → Value → Except Failure String
  | 0, _ => fun _ => .error .runtime
  | fuel + 1, active => Value.reprWith fun v =>
    match v with
    | .list r =>
      if active.contains r then .ok "[...]"
      else do
        let texts ← Value.reprAllWith (reprAt h fuel (r :: active)) (h.items r).toList
        return "[" ++ ", ".intercalate texts ++ "]"
    | .dict r =>
      if active.contains r then .ok "\x7b...\x7d"
      else do
        let texts ← entryTexts (reprAt h fuel (r :: active)) (h.entries r)
        return "\x7b" ++ ", ".intercalate texts ++ "\x7d"
    | .record r =>
      if active.contains r then .ok "namespace(...)"
      else do
        let texts ← attributeTexts (reprAt h fuel (r :: active)) (h.attributes r)
        return "namespace(" ++ ", ".intercalate texts ++ ")"
    | v => Value.atomText v

/-- The text that shows a value with its kind. -/
def repr (h : Heap) (v : Value) : Except Failure String := h.reprAt (h.cells.size + 2) [] v

/-- The text that a value is written with: a text as it is, all else as it is shown. -/
def display (h : Heap) (v : Value) : Except Failure String :=
  match v with
  | .str s => .ok s
  | v => h.repr v

end Heap

end Wording
