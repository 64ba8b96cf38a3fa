import Wording.Pattern.Basic
import Wording.Text.Table
import Wording.Decimal.Reading

/-!
# Reading patterns

The written form of a pattern: literals, escapes, sets, repetition, groups, references, look-around,
conditions and flags. Reading resolves the flags, numbers the groups from left to right and refuses
what has no meaning: a repetition of nothing, a reference to a group that is not there or not
closed, a look behind over a varying distance.

The reader works on the characters of the written form with escapes kept together. Every step of the
mutual recursion spends one unit of fuel; `read` provides more units than there are steps.
-/

namespace Wording.Pattern

open Wording.Text

/-! ## Flags, widths and failures -/

/-- The flags of a pattern or of a part of it. -/
structure Flags where
  ignoreCase : Bool := false
  multiline : Bool := false
  dotAll : Bool := false
  verbose : Bool := false
  ascii : Bool := false
  unicode : Bool := false
  template : Bool := false
  deriving DecidableEq, Repr

namespace Flags

def union (a b : Flags) : Flags where
  ignoreCase := a.ignoreCase || b.ignoreCase
  multiline := a.multiline || b.multiline
  dotAll := a.dotAll || b.dotAll
  verbose := a.verbose || b.verbose
  ascii := a.ascii || b.ascii
  unicode := a.unicode || b.unicode
  template := a.template || b.template

def diff (a b : Flags) : Flags where
  ignoreCase := a.ignoreCase && !b.ignoreCase
  multiline := a.multiline && !b.multiline
  dotAll := a.dotAll && !b.dotAll
  verbose := a.verbose && !b.verbose
  ascii := a.ascii && !b.ascii
  unicode := a.unicode && !b.unicode
  template := a.template && !b.template

def isEmpty (a : Flags) : Bool := a == {}

/-- The flags within a group that adds and removes flags. Of `a` and `u` the one added last holds.
-/
def within (outer add del : Flags) : Flags :=
  let outer := if add.ascii || add.unicode then { outer with ascii := false, unicode := false }
    else outer
  (outer.union add).diff del

/-- The flag that a letter stands for. -/
def ofLetter? : Char → Option Flags
  | 'i' => some { ignoreCase := true }
  | 'm' => some { multiline := true }
  | 's' => some { dotAll := true }
  | 'x' => some { verbose := true }
  | 'a' => some { ascii := true }
  | 'u' => some { unicode := true }
  | 't' => some { template := true }
  | _ => none

/-- The flags of a pattern that has been read: classes are of the one kind or of the other. -/
def completed (f : Flags) : Flags := { f with unicode := !f.ascii }

def folding (f : Flags) : Folding :=
  if f.ignoreCase then if f.ascii then .ascii else .unicode else .exact

end Flags

/-- The least and the greatest number of characters that an expression takes. -/
structure Width where
  low : Nat
  high : Option Nat
  deriving DecidableEq, Repr

namespace Width

def zero : Width := ⟨0, some 0⟩

def one : Width := ⟨1, some 1⟩

def add (a b : Width) : Width := ⟨a.low + b.low, do return (← a.high) + (← b.high)⟩

def or (a b : Width) : Width := ⟨min a.low b.low, do return max (← a.high) (← b.high)⟩

def times (a : Width) (least : Nat) (most : Option Nat) : Width :=
  ⟨a.low * least,
    if a.high = some 0 ∨ most = some 0 then some 0 else do return (← a.high) * (← most)⟩

end Width

/-- The width of an expression, given the widths of the groups it refers to. -/
def Regex.width (groups : Nat → Width) : Regex → Width
  | .empty | .anchor _ | .look _ _ _ => .zero
  | .char _ => .one
  | .seq a b => (a.width groups).add (b.width groups)
  | .alt a b => (a.width groups).or (b.width groups)
  | .capture _ r | .atomic r => r.width groups
  | .reference n _ => groups n
  | .loop least most _ r => (r.width groups).times least most
  | .choice _ yes no => (yes.width groups).or (no.width groups)

/-- Why a text is not a pattern. -/
inductive ReadError where
  /-- The text does not follow the grammar. -/
  | malformed
  /-- A repetition count is beyond the largest one. -/
  | countTooLarge
  /-- The pattern is to be read both with ASCII classes only and with all classes. -/
  | classesConflict
  deriving DecidableEq, Repr

/-! ## The reader -/

/-- A character of the written form, or an escaped one; `dangling` is a backslash at the end. -/
inductive Glyph where
  | plain (c : Char)
  | escaped (c : Char)
  | dangling
  deriving DecidableEq, Repr

def Glyph.ofChars : List Char → List Glyph
  | [] => []
  | ['\\'] => [.dangling]
  | '\\' :: c :: cs => .escaped c :: ofChars cs
  | c :: cs => .plain c :: ofChars cs

/-- What is left to read, and what is known of the groups so far. -/
structure ReaderState where
  rest : List Glyph
  groupCount : Nat
  names : List (String × Nat)
  /-- The closed groups with their widths. -/
  closed : List (Nat × Width)
  /-- Groups that are referred to by number. -/
  numbered : List Nat
  /-- Within a look behind, the groups opened before it. -/
  behind : Option Nat
  flags : Flags

abbrev Reader := StateT ReaderState (Except ReadError)

namespace Reader

def fail {α : Type} : Reader α := throw .malformed

/-- The next glyph, if any. -/
def peek : Reader (Option Glyph) := do
  match (← get).rest with
  | .dangling :: _ => fail
  | g :: _ => return some g
  | [] => return none

def next? : Reader (Option Glyph) := do
  let g ← peek
  modify fun s => { s with rest := s.rest.drop 1 }
  return g

def next : Reader Glyph := do
  match ← next? with
  | some g => return g
  | none => fail

/-- Takes `c` if it is next. -/
def accept (c : Char) : Reader Bool := do
  if (← peek) = some (.plain c) then
    modify fun s => { s with rest := s.rest.drop 1 }
    return true
  return false

def expect (c : Char) : Reader Unit := do
  unless ← accept c do fail

/-- Takes up to `n` plain characters that satisfy `p`. -/
def takeUpTo (p : Char → Bool) : Nat → Reader (List Char)
  | 0 => return []
  | n + 1 => do
    match ← peek with
    | some (.plain c) =>
      if p c then
        modify fun s => { s with rest := s.rest.drop 1 }
        return c :: (← takeUpTo p n)
      return []
    | _ => return []

def remaining : Reader Nat := do return (← get).rest.length

/-- Takes all plain characters up to the first that does not satisfy `p`. -/
def takeAll (p : Char → Bool) : Reader (List Char) := do takeUpTo p (← remaining)

/-- The written form up to `stop`, which is taken too. -/
def takeUntil (stop : Char) : Nat → Reader (List Char)
  | 0 => fail
  | n + 1 => do
    match ← next with
    | .plain c => if c = stop then return [] else return c :: (← takeUntil stop n)
    | .escaped c => return '\\' :: c :: (← takeUntil stop n)
    | .dangling => fail

/-- A nonempty name up to `stop`. -/
def nameUntil (stop : Char) : Reader (List Char) := do
  let name ← takeUntil stop ((← remaining) + 1)
  if name.isEmpty then fail
  return name

/-- An identifier up to `stop`. -/
def identifierUntil (stop : Char) : Reader String := do
  let name ← nameUntil stop
  unless isIdentifier name do fail
  return String.ofList name

/-! ### Groups -/

def isClosed (n : Nat) : Reader Bool := do return ((← get).closed.find? (·.1 == n)).isSome

/-- Within a look behind only groups that were closed before it can be named. -/
def checkBehind (n : Nat) : Reader Unit := do
  match (← get).behind with
  | none => return
  | some limit =>
    unless ← isClosed n do fail
    if n > limit then fail

def checkReference (n : Nat) : Reader Unit := do
  unless ← isClosed n do fail
  checkBehind n

/-- Notes that a group is referred to by number. -/
def noteNumber (n : Nat) : Reader Unit := modify fun s => { s with numbered := n :: s.numbered }

def openGroup (name : Option String) : Reader Nat := do
  let n := (← get).groupCount + 1
  modify fun s => { s with groupCount := n }
  match name with
  | none => return n
  | some name =>
    if ((← get).names.find? (·.1 == name)).isSome then fail
    modify fun s => { s with names := (name, n) :: s.names }
    return n

def widthOf (r : Regex) : Reader Width := do
  let closed := (← get).closed
  return r.width fun n => ((closed.find? (·.1 == n)).map (·.2)).getD .zero

def closeGroup (n : Nat) (r : Regex) : Reader Unit := do
  let w ← widthOf r
  modify fun s => { s with closed := (n, w) :: s.closed }

def groupNamed (name : String) : Reader Nat := do
  match (← get).names.find? (·.1 == name) with
  | some (_, n) => return n
  | none => fail

/-! ### Escapes -/

def isHex (c : Char) : Bool := isAsciiDigit c || ('a' ≤ c && c ≤ 'f') || ('A' ≤ c && c ≤ 'F')

def isOctal (c : Char) : Bool := '0' ≤ c && c ≤ '7'

def readOctal (cs : List Char) : Nat := cs.foldl (fun n c => 8 * n + (c.toNat - 48)) 0

def readDecimal (cs : List Char) : Nat := cs.foldl (fun n c => 10 * n + (c.toNat - 48)) 0

/-- Exactly `n` hexadecimal digits. -/
def hexCode (n : Nat) : Reader Char := do
  let ds ← takeUpTo isHex n
  let code := readHex ds
  if ds.length ≠ n ∨ code > 0x10FFFF then fail
  return Char.ofNat code

/-- The character that an escape letter writes. -/
def controlCharacter? : Char → Option Char
  | 'a' => some '\x07'
  | 'f' => some '\x0c'
  | 'n' => some '\n'
  | 'r' => some '\r'
  | 't' => some '\t'
  | 'v' => some '\x0b'
  | '\\' => some '\\'
  | _ => none

/-- The class that an escape letter names, and whether it is the complement. -/
def classEscape? : Char → Option (CharClass × Bool)
  | 'd' => some (.digit, false)
  | 'D' => some (.digit, true)
  | 's' => some (.blank, false)
  | 'S' => some (.blank, true)
  | 'w' => some (.word, false)
  | 'W' => some (.word, true)
  | _ => none

/-- An escape that writes one character, in a set or outside. -/
def characterEscape (c : Char) : Reader Char := do
  match controlCharacter? c with
  | some d => return d
  | none =>
    if c = 'x' then hexCode 2
    else if c = 'u' then hexCode 4
    else if c = 'U' then hexCode 8
    else if isAsciiLetter c ∨ isAsciiDigit c then fail
    else return c

/-- An escape within a set, whose classes have ASCII members only or all. -/
def setEscape (ascii : Bool) (c : Char) : Reader CharItem := do
  match classEscape? c with
  | some (k, negated) => return .cls k ascii negated
  | none =>
    if c = 'b' then return .range 8 8
    else if isOctal c then
      let code := readOctal (c :: (← takeUpTo isOctal 2))
      if code > 0o377 then fail
      return .range code code
    else
      let d ← characterEscape c
      return .range d.toNat d.toNat

/-- A reference by number. -/
def reference (flags : Flags) (n : Nat) : Reader Regex := do
  checkReference n
  noteNumber n
  return .reference n flags.folding

/-- The character of an octal escape. -/
def octalCharacter (flags : Flags) (code : Nat) : Reader Regex := do
  if code > 0o377 then fail
  return .char (.single (Char.ofNat code) flags.folding)

/-- The octal escape or the reference that a digit begins. -/
def numberEscape (flags : Flags) (c : Char) : Reader Regex := do
  if c = '0' then octalCharacter flags (readOctal (c :: (← takeUpTo isOctal 2)))
  else
    match ← takeUpTo isAsciiDigit 1 with
    | [d] =>
      if isOctal c ∧ isOctal d then
        match ← takeUpTo isOctal 1 with
        | [e] => octalCharacter flags (readOctal [c, d, e])
        | _ => reference flags (readDecimal [c, d])
      else reference flags (readDecimal [c, d])
    | _ => reference flags (readDecimal [c])

/-- An anchor or a class outside a set. -/
def escape (flags : Flags) (c : Char) : Reader Regex := do
  match classEscape? c with
  | some (k, negated) => return .char ⟨[.cls k flags.ascii negated], false, flags.folding⟩
  | none =>
    if c = 'A' then return .anchor .textStart
    else if c = 'Z' then return .anchor .textEnd
    else if c = 'b' then return .anchor (.wordEdge flags.ascii false)
    else if c = 'B' then return .anchor (.wordEdge flags.ascii true)
    else if isAsciiDigit c then numberEscape flags c
    else return .char (.single (← characterEscape c) flags.folding)

/-! ### Sets -/

def setItem (ascii : Bool) : Glyph → Reader CharItem
  | .plain c => return .range c.toNat c.toNat
  | .escaped c => setEscape ascii c
  | .dangling => fail

/-- The members of a set up to its closing bracket; a bracket right at the start is a member. -/
def setItems (ascii : Bool) : Nat → Bool → Reader (List CharItem)
  | 0, _ => fail
  | n + 1, first => do
    let g ← next
    if g = .plain ']' ∧ ¬first then return []
    let low ← setItem ascii g
    if ← accept '-' then
      let g ← next
      if g = .plain ']' then return [low, .range 45 45]
      match low, ← setItem ascii g with
      | .range a _, .range b _ =>
        if b < a then fail
        return .range a b :: (← setItems ascii n false)
      | _, _ => fail
    return low :: (← setItems ascii n false)

def charSet (flags : Flags) : Reader Regex := do
  let negated ← accept '^'
  let items ← setItems flags.ascii ((← remaining) + 1) true
  return .char ⟨items, negated, flags.folding⟩

/-! ### Repetition -/

/-- The largest number of rounds is below this. -/
def maxCount : Nat := 4294967295

def countOf (ds : List Char) : Reader Nat := do
  let n := readDecimal ds
  if n ≥ maxCount then throw .countTooLarge
  return n

/-- Both counts as they are written, up to the closing brace, if that is there. -/
def countsText? : Reader (Option (List Char × List Char)) := do
  let low ← takeAll isAsciiDigit
  let high ← if ← accept ',' then takeAll isAsciiDigit else pure low
  if ← accept '\x7d' then return some (low, high) else return none

/-- The least and the greatest count that are written; what is not written does not bound. -/
def countsOf (low high : List Char) : Reader (Nat × Option Nat) := do
  let least ← if low.isEmpty then pure 0 else countOf low
  if high.isEmpty then return (least, none)
  let most ← countOf high
  if most < least then fail
  return (least, some most)

/-- The counts after an opening brace; `none`, with nothing taken, if it stands for itself. -/
def counts? : Reader (Option (Nat × Option Nat)) := do
  let start ← get
  if (← peek) = some (.plain '\x7d') then return none
  match ← countsText? with
  | none =>
    set start
    return none
  | some (low, high) => return some (← countsOf low high)

/-- An expression with what decides whether it can be repeated. -/
inductive Piece where
  | anchor (r : Regex)
  | loop (r : Regex)
  | other (r : Regex)

def Piece.regex : Piece → Regex
  | .anchor r | .loop r | .other r => r

def Piece.ofRegex : Regex → Piece
  | .anchor a => .anchor (.anchor a)
  | r => .other r

/-- The expression of pieces, the latest first. -/
def Piece.joined (acc : List Piece) : Regex := Regex.ofList (acc.reverse.map Piece.regex)

/-- Repeats the latest piece. -/
def repeatLast (least : Nat) (most : Option Nat) : List Piece → Reader (List Piece)
  | .other r :: ps => do
    if ← accept '?' then return .loop (.loop least most true r) :: ps
    if ← accept '+' then return .loop (.atomic (.loop least most false r)) :: ps
    return .loop (.loop least most false r) :: ps
  | _ => fail

/-! ### Flags -/

def flagLetter (g : Glyph) : Reader Flags :=
  match g with
  | .plain c => match Flags.ofLetter? c with
    | some f => return f
    | none => fail
  | _ => fail

/-- Flags to be set, up to the character after them. -/
def flagsOn : Nat → Glyph → Flags → Reader (Flags × Char)
  | 0, _, _ => fail
  | n + 1, g, acc => do
    let f ← flagLetter g
    let acc := acc.union f
    if acc.ascii ∧ acc.unicode then fail
    match ← next with
    | .plain c => if c = ')' ∨ c = '-' ∨ c = ':' then return (acc, c) else flagsOn n (.plain c) acc
    | _ => fail

/-- Flags to be cleared, up to the colon. -/
def flagsOff : Nat → Flags → Reader Flags
  | 0, _ => fail
  | n + 1, acc => do
    let f ← flagLetter (← next)
    if f.ascii ∨ f.unicode then fail
    let acc := acc.union f
    if ← accept ':' then return acc
    flagsOff n acc

/-- What the flags of a group do: hold for the whole pattern, or within the group. -/
inductive FlagGroup where
  | global (add : Flags)
  | scoped (add del : Flags)

def flagGroup (c : Char) : Reader FlagGroup := do
  let size := (← remaining) + 1
  let (add, stop) ← if c = '-' then pure ({}, '-') else flagsOn size (.plain c) {}
  if stop = ')' then return .global add
  if add.template then fail
  let del ← if stop = '-' then flagsOff size {} else pure {}
  if del.template then fail
  unless (add.diff (add.diff del)).isEmpty do fail
  return .scoped add del

/-! ### Expressions -/

/-- Skips the rest of a line, up to `n` glyphs of it. -/
def skipUpTo : Nat → Reader Unit
  | 0 => return
  | n + 1 => do
    match ← next? with
    | none => return
    | some g => if g = .plain '\n' then return else skipUpTo n

/-- Skips the rest of a line. -/
def skipLine : Reader Unit := do skipUpTo ((← remaining) + 1)

/-- Skips a comment up to its closing parenthesis. -/
def skipComment : Nat → Reader Unit
  | 0 => fail
  | n + 1 => do
    let g ← next
    if g = .plain ')' then return else skipComment n

/-- The group of a name or, if it is none, of a number. -/
def groupOf (name : List Char) : Reader Nat := do
  if isIdentifier name then groupNamed (String.ofList name)
  else
    match Decimal.readInt? 10 name with
    | some (.ofNat (n + 1)) =>
      noteNumber (n + 1)
      return n + 1
    | _ => fail

/-- The group that a condition names. -/
def conditionGroup : Reader Nat := do groupOf (← nameUntil ')')

/-- A look behind needs a fixed width. -/
def fixedWidth (r : Regex) : Reader Nat := do
  let w ← widthOf r
  if w.high = some w.low then return w.low else fail

/-- What a condition has behind a bar, if there is one. -/
def elseBranch (r : Reader Regex) : Reader Regex := do
  if ← accept '|' then r else return .empty

/-- White space that a verbose pattern may hold. -/
def isVerboseBlank (c : Char) : Bool := isAsciiBlank c

/-- What a group in the written form becomes: a piece, nothing, or flags for the whole pattern. -/
inductive GroupResult where
  | piece (p : Piece)
  | nothing
  | global (f : Flags)

/-- What a group does to the pieces before it: the pieces with it, and the flags behind it. -/
def place (flags : Flags) (top : Bool) (acc : List Piece) :
    GroupResult → Reader (List Piece × Flags)
  | .piece p => return (p :: acc, flags)
  | .nothing => return (acc, flags)
  | .global f => do
    if ¬top ∨ ¬acc.isEmpty then fail
    modify fun s => { s with flags := s.flags.union f }
    return (acc, (← get).flags)

/-- What a glyph that has been taken does to the pieces before it, the latest first: the pieces with
it, and the flags that hold behind it. `group` reads what follows an opening parenthesis. -/
def take (group : Flags → Reader GroupResult) (flags : Flags) (top : Bool) (acc : List Piece) :
    Glyph → Reader (List Piece × Flags)
  | .dangling => fail
  | .escaped c => do return (.ofRegex (← escape flags c) :: acc, flags)
  | .plain c => do
    if flags.verbose ∧ isVerboseBlank c then return (acc, flags)
    else if flags.verbose ∧ c = '#' then
      skipLine
      return (acc, flags)
    else if c = '*' then return (← repeatLast 0 none acc, flags)
    else if c = '+' then return (← repeatLast 1 none acc, flags)
    else if c = '?' then return (← repeatLast 0 (some 1) acc, flags)
    else if c = '\x7b' then
      match ← counts? with
      | some (least, most) => return (← repeatLast least most acc, flags)
      | none => return (.other (.char (.single c flags.folding)) :: acc, flags)
    else if c = '[' then return (.other (← charSet flags) :: acc, flags)
    else if c = '.' then
      return (.other (.char (if flags.dotAll then .all else .notNewline)) :: acc, flags)
    else if c = '^' then
      return (.anchor (.anchor (if flags.multiline then .lineStart else .textStart)) :: acc, flags)
    else if c = '$' then
      return (.anchor (.anchor (if flags.multiline then .lineEnd else .lastLineEnd)) :: acc, flags)
    else if c = '(' then place flags top acc (← group flags)
    else return (.other (.char (.single c flags.folding)) :: acc, flags)

mutual

/-- Alternatives up to a closing parenthesis or the end. Flags for the whole pattern may only stand
at the very start of its first alternative. -/
def alternatives : Nat → Flags → Bool → Reader Regex
  | 0, _, _ => fail
  | n + 1, flags, top => do
    let first ← sequence n flags top []
    let flags ← if top then pure (← get).flags else pure flags
    let more ← moreAlternatives n flags
    return Regex.alternatives (first :: more)

def moreAlternatives : Nat → Flags → Reader (List Regex)
  | 0, _ => fail
  | n + 1, flags => do
    if ← accept '|' then
      let r ← sequence n flags false []
      return r :: (← moreAlternatives n flags)
    return []

/-- Pieces up to a bar, a closing parenthesis or the end; `acc` holds those read, latest first. -/
def sequence : Nat → Flags → Bool → List Piece → Reader Regex
  | 0, _, _, _ => fail
  | n + 1, flags, top, acc => do
    match ← peek with
    | none => return Piece.joined acc
    | some g =>
      if g = .plain '|' ∨ g = .plain ')' then return Piece.joined acc
      let _ ← next
      let (acc, flags) ← take (group n) flags top acc g
      sequence n flags top acc

/-- What follows an opening parenthesis. -/
def group : Nat → Flags → Reader GroupResult
  | 0, _ => fail
  | n + 1, flags => do
    if ← accept '?' then
      match ← next with
      | .plain c =>
        if c = 'P' then
          if ← accept '<' then
            let name ← identifierUntil '>'
            capturing n flags (some name)
          else if ← accept '=' then
            let name ← identifierUntil ')'
            let k ← groupNamed name
            checkReference k
            return .piece (.other (.reference k flags.folding))
          else fail
        else if c = ':' then plainGroup n flags {} {}
        else if c = '#' then
          skipComment ((← remaining) + 1)
          return .nothing
        else if c = '=' then lookAhead n flags false
        else if c = '!' then lookAhead n flags true
        else if c = '<' then
          if ← accept '=' then lookBehind n flags false
          else if ← accept '!' then lookBehind n flags true
          else fail
        else if c = '(' then condition n flags
        else if c = '>' then
          let r ← alternatives n flags false
          expect ')'
          return .piece (.other (.atomic r))
        else if c = '-' ∨ (Flags.ofLetter? c).isSome then
          match ← flagGroup c with
          | .global f => return .global f
          | .scoped add del => plainGroup n flags add del
        else fail
      | _ => fail
    else capturing n flags none

def capturing : Nat → Flags → Option String → Reader GroupResult
  | 0, _, _ => fail
  | n + 1, flags, name => do
    let k ← openGroup name
    let r ← alternatives n flags false
    expect ')'
    closeGroup k r
    return .piece (.other (.capture k r))

def plainGroup : Nat → Flags → Flags → Flags → Reader GroupResult
  | 0, _, _, _ => fail
  | n + 1, flags, add, del => do
    let r ← alternatives n (flags.within add del) false
    expect ')'
    return .piece (.other r)

def lookAhead : Nat → Flags → Bool → Reader GroupResult
  | 0, _, _ => fail
  | n + 1, flags, negated => do
    let r ← alternatives n flags false
    expect ')'
    return .piece (.other (.look none negated r))

def lookBehind : Nat → Flags → Bool → Reader GroupResult
  | 0, _, _ => fail
  | n + 1, flags, negated => do
    let outer := (← get).behind
    modify fun s => { s with behind := some (outer.getD s.groupCount) }
    let r ← alternatives n flags false
    modify fun s => { s with behind := outer }
    expect ')'
    let w ← fixedWidth r
    return .piece (.other (.look (some w) negated r))

def condition : Nat → Flags → Reader GroupResult
  | 0, _ => fail
  | n + 1, flags => do
    let k ← conditionGroup
    checkBehind k
    let yes ← sequence n flags false []
    let no ← elseBranch (sequence n flags false [])
    expect ')'
    return .piece (.other (.choice k yes no))

end

/-- A whole pattern. -/
def whole (fuel : Nat) : Reader Regex := do
  let r ← alternatives fuel (← get).flags true
  let s ← get
  if s.flags.ascii ∧ s.flags.unicode then throw .classesConflict
  unless s.rest.isEmpty do fail
  if s.numbered.any (· > s.groupCount) then fail
  return r

end Reader

/-- A pattern that has been read: its written form, its flags, its number of groups, its meaning. Its
classes hold characters of all scripts unless it asks for ASCII classes. -/
structure Compiled where
  source : String
  flags : Flags
  groupCount : Nat
  /-- The groups that it refers to by number. -/
  numbered : List Nat
  regex : Regex
  deriving DecidableEq, Repr

/-- Reads a pattern with the given flags. -/
def Compiled.read (source : String) (flags : Flags) : Except ReadError Compiled :=
  let glyphs := Glyph.ofChars source.toList
  let start : ReaderState := ⟨glyphs, 0, [], [], [], none, flags⟩
  match (Reader.whole (4 * glyphs.length + 8)).run start with
  | .ok (r, s) => .ok ⟨source, s.flags.completed, s.groupCount, s.numbered, r⟩
  | .error e => .error e

end Wording.Pattern
