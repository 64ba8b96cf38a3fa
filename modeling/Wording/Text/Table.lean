/-!
# Tables of characters

Data of the character database is kept as text: ranges of code points in hexadecimal, read once.
A range table lists ranges (`41-5A`) and single characters (`AA`). A case table lists runs of
characters that move by the same distance (`61-7A:-20`, with `/2` where every other character of the
run takes part) and, apart from them, the characters that become several (`DF:53.53`).
-/

namespace Wording.Text

/-! ## Reading -/

def hexValue (c : Char) : Nat :=
  let n := c.toNat
  if 48 ≤ n ∧ n ≤ 57 then n - 48
  else if 65 ≤ n ∧ n ≤ 70 then n - 55
  else if 97 ≤ n ∧ n ≤ 102 then n - 87
  else 0

/-- The number that a run of hexadecimal digits writes. -/
def readHex (cs : List Char) : Nat := cs.foldl (fun n c => 16 * n + hexValue c) 0

/-- A hexadecimal number with an optional minus sign. -/
def readSignedHex : List Char → Int
  | '-' :: cs => -(readHex cs : Int)
  | cs => readHex cs

/-- What stands before the first `sep`, and what stands after it. -/
def breakAt (sep : Char) (cs : List Char) : List Char × List Char :=
  (cs.takeWhile (· != sep), (cs.dropWhile (· != sep)).drop 1)

/-- The words of a line. -/
def words (line : String) : List (List Char) :=
  go line.toList [] []
where
  go : List Char → List Char → List (List Char) → List (List Char)
    | [], w, acc => (if w.isEmpty then acc else w.reverse :: acc).reverse
    | c :: cs, w, acc =>
      if c = ' ' then go cs [] (if w.isEmpty then acc else w.reverse :: acc)
      else go cs (c :: w) acc

/-- The entries of a table, the words of its lines. -/
def entries (lines : List String) : List (List Char) := lines.flatMap words

/-- The first and the last number of an entry such as `41-5A`. -/
def readRange (cs : List Char) : Nat × Nat :=
  match breakAt '-' cs with
  | (a, []) => (readHex a, readHex a)
  | (a, b) => (readHex a, readHex b)

/-! ## Range tables -/

/-- A set of characters as a list of ranges, both ends included. -/
structure RangeTable where
  ranges : Array (Nat × Nat)

namespace RangeTable

def ofLines (lines : List String) : RangeTable := ⟨((entries lines).map readRange).toArray⟩

def contains (t : RangeTable) (c : Char) : Bool :=
  t.ranges.any fun r => r.1 ≤ c.toNat && c.toNat ≤ r.2

end RangeTable

/-! ## Case tables -/

/-- Characters `first`, `first + step`, … up to `last`, which all move by `offset`. -/
structure CaseRun where
  first : Nat
  last : Nat
  step : Nat
  offset : Int

def CaseRun.ofEntry (cs : List Char) : CaseRun :=
  let (place, offset) := breakAt ':' cs
  let (range, step) := breakAt '/' place
  let (first, last) := readRange range
  ⟨first, last, if step.isEmpty then 1 else 2, readSignedHex offset⟩

/-- A mapping of characters to texts; a character that no entry names stands for itself. -/
structure CaseTable where
  runs : Array CaseRun
  special : Array (Nat × List Char)

namespace CaseTable

def ofLines (runs special : List String) : CaseTable where
  runs := ((entries runs).map CaseRun.ofEntry).toArray
  special := ((entries special).map fun cs =>
    let (c, image) := breakAt ':' cs
    (readHex c, (parts image []).map fun p => Char.ofNat (readHex p))).toArray
where
  parts : List Char → List Char → List (List Char)
    | [], w => [w.reverse]
    | '.' :: cs, w => w.reverse :: parts cs []
    | c :: cs, w => parts cs (c :: w)

/-- The single character that `c` becomes where it becomes just one. -/
def single (t : CaseTable) (c : Char) : Char :=
  let n := c.toNat
  match t.runs.find? fun r => r.first ≤ n && n ≤ r.last && (n - r.first) % r.step == 0 with
  | some r => Char.ofNat (n + r.offset).toNat
  | none => c

/-- The text that `c` becomes. -/
def apply (t : CaseTable) (c : Char) : List Char :=
  match t.special.find? fun e => e.1 == c.toNat with
  | some (_, cs) => cs
  | none => [t.single c]

end CaseTable

end Wording.Text
