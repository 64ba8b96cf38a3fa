import Wording.Decimal.Reading
import Wording.Expr.Syntax
import Wording.Text.Compatibility

/-!
# Tokens of expressions

Names, words of the language, numbers, quoted texts and symbols. Lines end inside of brackets only;
a backslash at the end of a line joins it with the next one, and a `#` begins a comment. Behind the
line of the expression there may be empty lines and comments.

A step of the scanner takes at least one character, so it ends.
-/

namespace Wording

inductive Token where
  | name (id : String)
  /-- A name that the grammar keeps for itself. -/
  | word (w : String)
  | number (l : Literal)
  /-- What stands between the quotes, with the letters in front of them. -/
  | text (letters body : List Char)
  | symbol (s : String)

namespace Token

open Wording.Text

/-! ## Lines -/

/-- Line ends of all kinds as one character. -/
def normalizeLines : List Char → List Char
  | '\r' :: '\n' :: cs => '\n' :: normalizeLines cs
  | '\r' :: cs => '\n' :: normalizeLines cs
  | c :: cs => c :: normalizeLines cs
  | [] => []

def isSpace (c : Char) : Bool := c == ' ' || c == '\t' || c == '\x0c'

/-- The place of the first character of a line; only whether it is the first place counts. -/
def column (blanks : List Char) : Nat :=
  (blanks.reverse.takeWhile (· != '\x0c')).length

theorem length_dropWhile_le (p : Char → Bool) (cs : List Char) :
    (cs.dropWhile p).length ≤ cs.length := by
  have h := congrArg List.length (List.takeWhile_append_dropWhile (p := p) (l := cs))
  simp only [List.length_append] at h
  omega

/-- Leaves out empty lines and comments. A line that begins with something else begins at the
margin, unless nothing but comments is allowed (`last`). -/
def skipLines (last : Bool) (cs : List Char) : Option (List Char) :=
  match _h : cs.dropWhile isSpace with
  | [] => some []
  | '\n' :: rest => skipLines last rest
  | '#' :: rest => skipLines last (rest.dropWhile (· != '\n'))
  | '\\' :: '\n' :: c :: rest =>
    if last || column (cs.takeWhile isSpace) == 0 then skipLines last (c :: rest) else none
  | rest => if last || column (cs.takeWhile isSpace) != 0 then none else some rest
termination_by cs.length
decreasing_by
  all_goals
    have hle := length_dropWhile_le isSpace cs
    rw [_h] at hle
    simp only [List.length_cons] at hle ⊢
    first | omega | exact Nat.lt_of_le_of_lt (length_dropWhile_le _ rest) hle

/-! ## Names -/

/-- A character that takes part in a name, as far as a scanner tells. -/
def isNamePart (c : Char) : Bool :=
  isAsciiLetter c || isAsciiDigit c || c == '_' || 128 ≤ c.toNat

/-- The names that the grammar keeps for itself. -/
def words : List String :=
  ["False", "None", "True", "and", "as", "assert", "async", "await", "break", "class", "continue",
    "def", "del", "elif", "else", "except", "finally", "for", "from", "global", "if", "import",
    "in", "is", "lambda", "nonlocal", "not", "or", "pass", "raise", "return", "try", "while", "with",
    "yield"]

/-- A name, in the form in which names are compared. -/
def ofName? (cs : List Char) : Option Token :=
  if words.contains (String.ofList cs) then some (.word (String.ofList cs))
  else if isIdentifier cs then some (.name (String.ofList (toCompatible cs)))
  else none

/-! ## Numbers -/

/-- A run of digits with single underscores between digits: the digits, and the rest. -/
def spanRun (p : Char → Bool) : List Char → List Char × List Char
  | c :: '_' :: d :: cs =>
    if p c then
      if p d then
        let (ds, rest) := spanRun p (d :: cs)
        (c :: ds, rest)
      else ([c], '_' :: d :: cs)
    else ([], c :: '_' :: d :: cs)
  | c :: cs =>
    if p c then
      let (ds, rest) := spanRun p cs
      (c :: ds, rest)
    else ([], c :: cs)
  | [] => ([], [])

/-- What may stand right behind a number: nothing that goes on as a name, a few words apart. -/
def endsNumber (cs : List Char) : Bool :=
  ["and", "else", "for", "if", "in", "is", "not", "or"].any (·.toList.isPrefixOf cs)
    || !(cs.head?.any isNamePart)

def isBaseDigit (base : Nat) (c : Char) : Bool :=
  c.toNat < 128 && ((Decimal.digitValue? c).any (· < base))

/-- The longest decimal number that is read. -/
def maxDigits : Nat := 4300

/-- A whole number without a sign. -/
def wholeNumber? (digits : List Char) : Option Literal :=
  if digits.head? = some '0' ∧ digits.any (· != '0') then none
  else if digits.head? ≠ some '0' ∧ digits.length > maxDigits then none
  else (Decimal.readDigits? 10 digits).map .int

/-- An exponent: its characters, and the rest. -/
def spanExponent : List Char → List Char × List Char
  | e :: cs =>
    if e = 'e' ∨ e = 'E' then
      let (sign, cs') := match cs with
        | '+' :: r => (['+'], r)
        | '-' :: r => (['-'], r)
        | r => ([], r)
      match spanRun isAsciiDigit cs' with
      | ([], _) => ([], e :: cs)
      | (digits, rest) => (e :: sign ++ digits, rest)
    else ([], e :: cs)
  | [] => ([], [])

/-- A decimal number: whole, with a point or an exponent, or imaginary. -/
def decimalNumber? (cs : List Char) : Option (Literal × List Char) := do
  let (whole, rest) := spanRun isAsciiDigit cs
  let (places, rest) := match rest with
    | '.' :: r =>
      let (ds, r) := spanRun isAsciiDigit r
      ('.' :: ds, r)
    | r => ([], r)
  let (exponent, rest) := spanExponent rest
  let written := whole ++ places ++ exponent
  match rest with
  | 'j' :: rest | 'J' :: rest => return (.imaginary (← Decimal.readMagnitude? false written), rest)
  | rest =>
    if places.isEmpty ∧ exponent.isEmpty then return (← wholeNumber? whole, rest)
    else return (.float (← Decimal.readMagnitude? false written), rest)

/-- A number in the base that its first two characters name. -/
def basedNumber? (base : Nat) (cs : List Char) : Option (Literal × List Char) :=
  match spanRun (isBaseDigit base) (Decimal.skipUnderscore cs) with
  | ([], _) => none
  | (digits, rest) => (Decimal.readDigits? base digits).map fun n => (.int n, rest)

def number? (cs : List Char) : Option (Literal × List Char) := do
  let (l, rest) ← match Decimal.namedBase? cs with
    | some (base, rest) => basedNumber? base rest
    | none => decimalNumber? cs
  if endsNumber rest then return (l, rest) else none

/-! ## Quoted texts -/

/-- What stands before the closing quotes, and what stands behind them. -/
def spanQuoted (quote : Char) (triple : Bool) : List Char → Option (List Char × List Char)
  | '\\' :: c :: cs =>
    (spanQuoted quote triple cs).map fun (body, rest) => ('\\' :: c :: body, rest)
  | c :: cs =>
    if c = quote ∧ !triple then some ([], cs)
    else if c = quote ∧ cs.take 2 = [quote, quote] then some ([], cs.drop 2)
    else if c = '\n' ∧ !triple then none
    else (spanQuoted quote triple cs).map fun (body, rest) => (c :: body, rest)
  | [] => none

/-- A quoted text, from its first quote on. -/
def quoted? : List Char → Option (List Char × List Char)
  | q :: a :: b :: cs =>
    if a = q ∧ b = q then spanQuoted q true cs else spanQuoted q false (a :: b :: cs)
  | q :: cs => spanQuoted q false cs
  | [] => none

/-- Letters that may stand in front of quotes. -/
def isQuotePrefix (cs : List Char) : Bool :=
  ["b", "r", "u", "f", "br", "rb", "fr", "rf"].contains (String.ofList (cs.map Char.toLower))

def isQuote (c : Char) : Bool := c == '\x27' || c == '"'

/-! ## Symbols -/

/-- All symbols; one that goes on with another stands behind the longer one. -/
def symbols : List String :=
  ["**=", "//=", "<<=", ">>=", "...", "!=", "%=", "&=", "**", "*=", "+=", "-=", "->", "//", "/=",
    ":=", "<<", "<=", "==", ">=", ">>", "@=", "^=", "|=", "%", "&", "(", ")", "*", "+", ",", "-",
    ".", "/", ":", ";", "<", "=", ">", "@", "[", "]", "^", "\x7b", "|", "\x7d", "~"]

def symbol? (cs : List Char) : Option String := symbols.find? (·.toList.isPrefixOf cs)

/-! ## Scanning -/

/-- The number of brackets that may be open at a time. -/
def maxDepth : Nat := 200

/-- The number of open brackets behind a symbol. -/
def depthAfter? (depth : Nat) (s : String) : Option Nat :=
  if s == "(" || s == "[" || s == "\x7b" then if depth < maxDepth then some (depth + 1) else none
  else if s == ")" || s == "]" || s == "\x7d" then if 0 < depth then some (depth - 1) else none
  else some depth

/-- The first token of a text that does not begin with a blank, the open brackets behind it, and the
rest. -/
def first? (depth : Nat) (cs : List Char) : Option (Token × Nat × List Char) := do
  let c ← cs.head?
  if isQuote c then
    let (body, rest) ← quoted? cs
    return (.text [] body, depth, rest)
  else if isAsciiDigit c || (c == '.' && (cs.drop 1).head?.any isAsciiDigit) then
    let (l, rest) ← number? cs
    return (.number l, depth, rest)
  else if isNamePart c then
    let (letters, rest) := (cs.takeWhile isNamePart, cs.dropWhile isNamePart)
    if rest.head?.any isQuote && isQuotePrefix letters then
      let (body, rest) ← quoted? rest
      return (.text letters body, depth, rest)
    else return (← ofName? letters, depth, rest)
  else
    let s ← symbol? cs
    return (.symbol s, ← depthAfter? depth s, cs.drop s.length)

/-- The tokens of a text inside of `depth` brackets. -/
def scanFrom (depth : Nat) (cs : List Char) : Option (List Token) :=
  match cs with
  | [] => some []
  | '\\' :: '\n' :: c :: rest => scanFrom depth (c :: rest)
  | '#' :: rest => scanFrom depth (rest.dropWhile (· != '\n'))
  | '\n' :: rest =>
    if depth = 0 then (skipLines true rest).map fun _ => [] else scanFrom depth rest
  | c :: rest =>
    if isSpace c then scanFrom depth rest
    else
      match first? depth (c :: rest) with
      | none => none
      | some (t, depth, after) =>
        if after.length < (c :: rest).length then (scanFrom depth after).map (t :: ·) else none
termination_by cs.length
decreasing_by
  all_goals
    simp only [List.length_cons] at *
    first | omega | exact Nat.lt_of_le_of_lt (length_dropWhile_le _ rest) (Nat.lt_succ_self _)

/-- The tokens of an expression. -/
def scan (cs : List Char) : Option (List Token) := do
  let cs ← skipLines false (normalizeLines cs)
  scanFrom 0 cs

end Token

end Wording
