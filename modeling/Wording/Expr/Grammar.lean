import Wording.Expr.Formatted
import Wording.Expr.Term
import Wording.Expr.Token

/-!
# Grammar of expressions

Terms from tokens. A reader takes tokens off the front of a list and gives a term, or nothing. The
readers of operators, displays and calls are plain definitions over `Rules`, the readers that the
grammar uses inside of itself. `Rules.ofDepth n` ties the knot: whoever calls one of these has taken
a token before, so that `n` above the number of tokens never runs out. A loop takes a token in each
round.
-/

namespace Wording

abbrev Reader := StateT (List Token) Option

/-! ## Tokens -/

namespace Reader

def fail : Reader α := fun _ => none

/-- Takes the next token if it is the symbol. -/
def skip? (s : String) : Reader Bool := fun ts =>
  match ts with
  | .symbol t :: rest => if t = s then some (true, rest) else some (false, ts)
  | _ => some (false, ts)

/-- Takes the next token if it is the word. -/
def skipWord? (w : String) : Reader Bool := fun ts =>
  match ts with
  | .word v :: rest => if v = w then some (true, rest) else some (false, ts)
  | _ => some (false, ts)

/-- Takes a symbol that has to stand here. -/
def skip (s : String) : Reader Unit := do
  if ← skip? s then return () else fail

def skipWord (w : String) : Reader Unit := do
  if ← skipWord? w then return () else fail

/-- Whether the next token is one of the symbols. -/
def sees (ss : List String) : Reader Bool := fun ts =>
  match ts with
  | .symbol t :: _ => some (ss.contains t, ts)
  | _ => some (false, ts)

def seesWord (ws : List String) : Reader Bool := fun ts =>
  match ts with
  | .word v :: _ => some (ws.contains v, ts)
  | _ => some (false, ts)

def takeName : Reader String := fun ts =>
  match ts with
  | .name id :: rest => some (id, rest)
  | _ => none

/-- Takes a name that stands before the symbol, and the symbol. -/
def takeNameBefore? (s : String) : Reader (Option String) := fun ts =>
  match ts with
  | .name id :: .symbol t :: rest => if t = s then some (some id, rest) else some (none, ts)
  | _ => some (none, ts)

/-- Goes on as long as a round gives something to go on from. -/
def iterate (round : α → Reader (Option α)) (a : α) : Reader α := do
  go ((← get).length + 1) a
where
  go : Nat → α → Reader α
    | 0, a => return a
    | n + 1, a => do
      match ← round a with
      | some b => go n b
      | none => return a

/-- Items with commas between them up to a closing symbol, which is taken too; a comma may stand
behind the last item. Tells whether the last thing before the closing symbol was a comma. -/
def itemsTo (close : String) (item : Reader α) : Reader (List α × Bool) := do
  let (items, comma) ← iterate (fun (items, comma) => do
    if !comma then return none
    else if ← sees [close] then return none
    else
      let a ← item
      return some (a :: items, ← skip? ",")) ([], true)
  skip close
  return (items.reverse, comma && !items.isEmpty)

end Reader

open Reader

/-- The readers that the grammar uses inside of itself. -/
structure Rules where
  /-- A condition, a function or something that binds tighter. -/
  expression : Reader Term
  /-- A negation or a comparison. -/
  inversion : Reader Term
  /-- An operand with signs. -/
  factor : Reader Term
  /-- The loops behind the element of a comprehension. -/
  loops : Reader Unit
  /-- Whether a text is the expression of a field in a formatted text. -/
  isField : List Char → Bool

namespace Rules

variable (g : Rules)

/-! ## Names that are bound -/

/-- A term that a loop may bind. -/
def isTarget : Term → Bool
  | .name _ | .attr _ _ | .subscript _ _ => true
  | .list items | .tuple items => all items
  | _ => false
where
  all : List Term → Bool
    | [] => true
    | .starred e :: es => isTarget e && all es
    | e :: es => isTarget e && all es

/-- An expression, which may have a name. -/
def named : Reader Term := do
  match ← takeNameBefore? ":=" with
  | some _ =>
    let _ ← g.expression
    return .other .named
  | none => g.expression

/-! ## Operators -/

def binary (op : BinaryOp) : Term → Term → Term := .binary op

def other (op : OtherOp) : Term → Term → Term := .otherBinary op

/-- Operators of one precedence, from the left. -/
def leftChain (ops : List (String × (Term → Term → Term))) (operand : Reader Term) :
    Reader Term := do
  iterate (fun a => do
    match ← takeOp with
    | some f =>
      let b ← operand
      return some (f a b)
    | none => return none) (← operand)
where
  takeOp : Reader (Option (Term → Term → Term)) := fun ts =>
    match ts with
    | .symbol s :: rest =>
      match ops.find? (·.1 == s) with
      | some (_, f) => some (some f, rest)
      | none => some (none, ts)
    | _ => some (none, ts)

def product : Reader Term :=
  leftChain [("*", binary .mul), ("/", binary .div), ("//", binary .floorDiv), ("%", binary .mod),
    ("@", other .matMult)] g.factor

def sum : Reader Term := leftChain [("+", binary .add), ("-", binary .sub)] (product g)

def shift : Reader Term :=
  leftChain [("<<", other .leftShift), (">>", other .rightShift)] (sum g)

def bitOr : Reader Term :=
  leftChain [("|", other .bitOr)] (leftChain [("^", other .bitXor)]
    (leftChain [("&", other .bitAnd)] (shift g)))

/-! ## Comparisons and conditions -/

def takeCompareOp? : Reader (Option CompareOp) := fun ts =>
  match ts with
  | .symbol s :: rest =>
    match [("==", CompareOp.eq), ("!=", .ne), ("<", .lt), ("<=", .le), (">", .gt),
      (">=", .ge)].find? (·.1 == s) with
    | some (_, op) => some (some op, rest)
    | none => some (none, ts)
  | .word "in" :: rest => some (some .isIn, rest)
  | .word "not" :: .word "in" :: rest => some (some .notIn, rest)
  | .word "is" :: .word "not" :: rest => some (some .isNot, rest)
  | .word "is" :: rest => some (some .is, rest)
  | _ => some (none, ts)

def comparison : Reader Term := do
  let first ← bitOr g
  let rest ← iterate (fun rest => do
    match ← takeCompareOp? with
    | some op =>
      let e ← bitOr g
      return some ((op, e) :: rest)
    | none => return none) []
  return if rest.isEmpty then first else .compare first rest.reverse

def readInversion : Reader Term := do
  if ← skipWord? "not" then return .unary .not (← g.inversion) else comparison g

/-- Operands with a word between them; one operand alone is itself. -/
def wordChain (op : BoolOp) (w : String) (operand : Reader Term) : Reader Term := do
  let first ← operand
  let rest ← iterate (fun rest => do
    if ← skipWord? w then
      let e ← operand
      return some (e :: rest)
    else return none) []
  return if rest.isEmpty then first else .bool op (first :: rest.reverse)

def disjunction : Reader Term := wordChain .or "or" (wordChain .and "and" (readInversion g))

/-! ## Functions -/

/-- How far the parameters of a function have come. -/
inductive ParameterPhase where
  | plain
  | defaults
  /-- Behind a star alone, which asks for a parameter. -/
  | bareStar
  | keywords
  | last
  deriving DecidableEq

structure ParameterState where
  phase : ParameterPhase
  /-- Whether there has been a parameter before. -/
  seen : Bool
  /-- Whether there has been a slash. -/
  slashed : Bool

/-- A parameter or one of the signs between parameters, in the order in which they may stand. -/
def parameter (s : ParameterState) : Reader ParameterState := do
  let isOpen := s.phase == .plain || s.phase == .defaults
  if s.phase == .last then fail
  else if ← skip? "/" then
    if isOpen && s.seen && !s.slashed then return { s with slashed := true } else fail
  else if ← skip? "**" then
    if s.phase == .bareStar then fail
    else
      let _ ← takeName
      return { s with phase := .last }
  else if ← skip? "*" then
    if !isOpen then fail
    else if ← sees [","] then return { s with phase := .bareStar }
    else
      let _ ← takeName
      return { s with phase := .keywords }
  else
    let _ ← takeName
    let hasDefault ← skip? "="
    if hasDefault then
      let _ ← g.expression
    if isOpen then
      if hasDefault then return { s with phase := .defaults, seen := true }
      else if s.phase == .plain then return { s with seen := true }
      else fail
    else return { s with phase := .keywords }

/-- The parameters and the body of a function. -/
def function : Reader Term := do
  let (s, _) ← iterate (fun (s, comma) => do
    if !comma then return none
    else if ← sees [":"] then return none
    else
      let s ← g.parameter s
      return some (s, ← skip? ",")) ((⟨.plain, false, false⟩ : ParameterState), true)
  if s.phase == .bareStar then fail
  skip ":"
  let _ ← g.expression
  return .other .lambda

def readExpression : Reader Term := do
  if ← skipWord? "lambda" then function g
  else
    let body ← disjunction g
    if ← skipWord? "if" then
      let test ← disjunction g
      skipWord "else"
      return .ifElse test body (← g.expression)
    else return body

/-! ## Displays -/

def starredOr (e : Reader Term) : Reader Term := do
  if ← skip? "*" then return .starred (← bitOr g) else e

/-- Items with commas between them, without brackets around them; a comma makes them a tuple. -/
def commaTerm (item : Reader Term) : Reader Term := do
  let (items, comma) ← iterate (fun (items, comma) => do
    if !comma || (!items.isEmpty && (← closes)) then return none
    else
      let e ← item
      return some (e :: items, ← skip? ",")) ([], true)
  match items with
  | [e] => return if comma then .tuple [e] else e
  | _ => return .tuple items.reverse
where
  closes : Reader Bool := fun ts =>
    match ts with
    | [] => some (true, ts)
    | .symbol s :: _ => some (s == ")", ts)
    | _ => some (false, ts)

/-- The part of a subscript between two commas. -/
def slice : Reader Term := do
  if ← skip? "*" then return .starred (← g.expression)
  else
    match ← takeNameBefore? ":=" with
    | some _ =>
      let _ ← g.expression
      return .other .named
    | none =>
      let lower ← bound
      if ← skip? ":" then
        let upper ← bound
        let step ← if ← skip? ":" then bound else pure none
        return .slice lower upper step
      else
        match lower with
        | some e => return e
        | none => fail
where
  bound : Reader (Option Term) := do
    if ← sees [":", ",", "]"] then return none else return some (← g.expression)

/-- What stands in the brackets behind a term; a comma or a star makes it a tuple. -/
def subscriptKey : Reader Term := do
  let (items, comma) ← itemsTo "]" (slice g)
  match items with
  | [] => fail
  | [.starred e] => return .tuple [.starred e]
  | [e] => return if comma then .tuple [e] else e
  | items => return .tuple items

/-! ## Calls -/

structure ArgumentState where
  args : List Term
  keywords : List (Option String × Term)
  unpacked : Bool

/-- One argument: named ones stand behind those without a name, and behind a mapping that is
unpacked nothing else does. -/
def argument (s : ArgumentState) : Reader ArgumentState := do
  if ← skip? "**" then
    let e ← g.expression
    return { s with keywords := (none, e) :: s.keywords, unpacked := true }
  else if ← skip? "*" then
    let e ← g.expression
    if s.unpacked then fail else return { s with args := .starred e :: s.args }
  else
    match ← takeNameBefore? "=" with
    | some id =>
      let e ← g.expression
      return { s with keywords := (some id, e) :: s.keywords }
    | none =>
      let e ← named g
      if s.keywords.isEmpty then return { s with args := e :: s.args } else fail

/-! ## Atoms -/

/-- The text or the bytes that quoted texts in a row make together. -/
def joinTexts (texts : List (List Char × List Char)) : Option Term := do
  let has (c : Char) (letters : List Char) : Bool := letters.any (·.toLower == c)
  if texts.any (has 'b' ·.1) then
    let parts ← texts.mapM fun (letters, body) =>
      if has 'b' letters then TextLiteral.readBytes? (has 'r' letters) body else none
    return .literal (.bytes parts.flatten)
  else
    let parts ← texts.mapM fun (letters, body) =>
      if has 'f' letters then
        if Formatted.isWellFormed g.isField (has 'r' letters) body then some [] else none
      else TextLiteral.readText? (has 'r' letters) body
    if texts.any (has 'f' ·.1) then return .other .format
    else
      let marked := texts.head?.any fun (letters, _) => letters.head? == some 'u'
      return .literal (.text (String.ofList parts.flatten) marked)

def takeTexts : List Token → List (List Char × List Char) × List Token
  | .text letters body :: ts =>
    let (texts, rest) := takeTexts ts
    ((letters, body) :: texts, rest)
  | ts => ([], ts)

/-- What stands in parentheses. -/
def group : Reader Term := do
  if ← skip? ")" then return .tuple []
  else if ← skipWord? "yield" then
    if ← skipWord? "from" then
      let _ ← g.expression
      skip ")"
      return .other .yieldFrom
    else if ← skip? ")" then return .other .yield
    else
      let _ ← commaTerm (g.starredOr g.expression)
      skip ")"
      return .other .yield
  else
    let e ← g.starredOr (named g)
    if ← skip? ")" then
      match e with
      | .starred _ => fail
      | e => return e
    else if ← skip? "," then
      let (items, _) ← itemsTo ")" (g.starredOr (named g))
      return .tuple (e :: items)
    else
      match e with
      | .starred _ => fail
      | _ =>
        g.loops
        skip ")"
        return .other .generator

/-- What stands in square brackets. -/
def listDisplay : Reader Term := do
  if ← skip? "]" then return .list []
  else
    let e ← g.starredOr (named g)
    if ← seesWord ["for", "async"] then
      match e with
      | .starred _ => fail
      | _ =>
        g.loops
        skip "]"
        return .other .listComp
    else if ← skip? "," then
      let (items, _) ← itemsTo "]" (g.starredOr (named g))
      return .list (e :: items)
    else
      skip "]"
      return .list [e]

/-- An entry of a mapping. -/
def entry : Reader (Option Term × Term) := do
  if ← skip? "**" then return (none, ← bitOr g)
  else
    let key ← g.expression
    skip ":"
    return (some key, ← g.expression)

/-- What stands in braces. -/
def braces : Reader Term := do
  if ← skip? "\x7d" then return .dict []
  else if ← sees ["**"] then
    let (items, _) ← itemsTo "\x7d" (entry g)
    return .dict items
  else
    let isNamed := (← takeNameBefore? ":=").isSome
    let e ← if isNamed then g.expression else g.starredOr g.expression
    let first := if isNamed then .other .named else e
    if !isNamed && (← skip? ":") then
      match first with
      | .starred _ => fail
      | _ =>
        let value ← g.expression
        if ← seesWord ["for", "async"] then
          g.loops
          skip "\x7d"
          return .other .dictComp
        else if ← skip? "," then
          let (items, _) ← itemsTo "\x7d" (entry g)
          return .dict ((some first, value) :: items)
        else
          skip "\x7d"
          return .dict [(some first, value)]
    else if ← seesWord ["for", "async"] then
      match first with
      | .starred _ => fail
      | _ =>
        g.loops
        skip "\x7d"
        return .other .setComp
    else if ← skip? "," then
      let _ ← itemsTo "\x7d" (g.starredOr (named g))
      return .other .set
    else
      skip "\x7d"
      return .other .set

def atom : Reader Term := fun ts =>
  match ts with
  | .name id :: rest => some (.name id, rest)
  | .word "None" :: rest => some (.literal .null, rest)
  | .word "True" :: rest => some (.literal (.bool true), rest)
  | .word "False" :: rest => some (.literal (.bool false), rest)
  | .number l :: rest => some (.literal l, rest)
  | .text _ _ :: _ =>
    let (texts, rest) := takeTexts ts
    (g.joinTexts texts).map fun t => (t, rest)
  | .symbol "..." :: rest => some (.literal .ellipsis, rest)
  | .symbol "(" :: rest => g.group rest
  | .symbol "[" :: rest => g.listDisplay rest
  | .symbol "\x7b" :: rest => g.braces rest
  | _ => none

/-- The arguments of a call, behind the opening parenthesis. -/
def arguments (f : Term) : Reader Term := do
  let (s, _) ← iterate (fun (s, comma) => do
    if !comma then return none
    else if ← sees [")"] then return none
    else
      let s ← g.argument s
      return some (s, ← skip? ",")) ((⟨[], [], false⟩ : ArgumentState), true)
  match s with
  | ⟨[.starred e], [], _⟩ =>
    skip ")"
    return .call f [.starred e] []
  | ⟨[e], [], _⟩ =>
    if ← seesWord ["for", "async"] then
      g.loops
      skip ")"
      return .call f [.other .generator] []
    else
      skip ")"
      return .call f [e] []
  | _ =>
    skip ")"
    return .call f s.args.reverse s.keywords.reverse

/-- An atom with attributes, subscripts and arguments behind it. -/
def primary : Reader Term := do
  let e ← g.atom
  iterate (fun e => do
    if ← skip? "." then
      let id ← takeName
      return some (.attr e id)
    else if ← skip? "(" then return some (← g.arguments e)
    else if ← skip? "[" then return some (.subscript e (← g.subscriptKey))
    else return none) e

/-- What a loop binds. -/
def target : Reader Unit := do
  let _ ← skip? "*"
  let e ← g.primary
  if isTarget e then return () else fail

/-- One loop of a comprehension, with its conditions. -/
def loop : Reader Unit := do
  let _ ← skipWord? "async"
  skipWord "for"
  g.target
  let _ ← iterate (fun comma => do
    if !comma then return none
    else if ← seesWord ["in"] then return none
    else
      g.target
      return some (← skip? ",")) (← skip? ",")
  skipWord "in"
  let _ ← disjunction g
  iterate (fun () => do
    if ← skipWord? "if" then
      let _ ← disjunction g
      return some ()
    else return none) ()

/-- One loop or more. -/
def readLoops : Reader Unit := do
  g.loop
  iterate (fun () => do
    if ← seesWord ["for", "async"] then
      g.loop
      return some ()
    else return none) ()

def readFactor : Reader Term := do
  if ← skip? "+" then return .unary .plus (← g.factor)
  else if ← skip? "-" then return .unary .minus (← g.factor)
  else if ← skip? "~" then return .otherUnary .invert (← g.factor)
  else
    let isAwait ← skipWord? "await"
    let e ← g.primary
    let e := if isAwait then .other .await else e
    if ← skip? "**" then return .otherBinary .power e (← g.factor) else return e

/-! ## All together -/

/-- Whether a text in parentheses is one term. -/
def readsField (cs : List Char) : Bool :=
  match Token.scan ('(' :: cs ++ [')']) with
  | some (_ :: ts) => ((g.group).run ts).any fun (_, rest) => rest.isEmpty
  | _ => false

def empty : Rules := ⟨fail, fail, fail, fail, fun _ => false⟩

/-- The rules one level above those that `g` uses. -/
def deeper (g : Rules) : Rules where
  expression := g.readExpression
  inversion := g.readInversion
  factor := g.readFactor
  loops := g.readLoops
  isField := g.readsField

/-- Rules that are good for `n` tokens. -/
def ofDepth : Nat → Rules
  | 0 => empty
  | n + 1 => (ofDepth n).deeper

end Rules

/-- The term that a text writes. -/
def Term.read? (cs : List Char) : Option Term := do
  let ts ← Token.scan cs
  let (t, rest) ← (Rules.commaTerm (Rules.ofDepth (cs.length + 2)).expression).run ts
  if rest.isEmpty then return t else none

end Wording
