import Wording.Expr.Syntax

/-!
# Terms

All that the grammar of expressions can write. Templates may use a part of it only: `Expr.ofTerm?`
keeps the terms of that part, and `Term.check` walks over a term level by level and says what is the
first thing that templates may not use.

The walk takes one node off a queue at each step, and the queue never holds more nodes than the
term.
-/

namespace Wording

/-- The kinds of terms that no template may use. -/
inductive OtherKind where
  | lambda
  | listComp
  | setComp
  | dictComp
  | generator
  | set
  | await
  | yield
  | yieldFrom
  | named
  | format
  deriving DecidableEq, Repr

/-- The operators that no template may use. -/
inductive OtherOp where
  | power
  | matMult
  | leftShift
  | rightShift
  | bitOr
  | bitXor
  | bitAnd
  | invert
  deriving DecidableEq, Repr

inductive Term where
  | literal (l : Literal)
  | name (id : String)
  | attr (e : Term) (name : String)
  | subscript (e key : Term)
  | slice (lower upper step : Option Term)
  | unary (op : UnaryOp) (e : Term)
  | binary (op : BinaryOp) (left right : Term)
  | bool (op : BoolOp) (operands : List Term)
  | compare (first : Term) (rest : List (CompareOp × Term))
  | ifElse (test body orelse : Term)
  | list (items : List Term)
  | tuple (items : List Term)
  /-- An entry without a key unpacks a mapping. -/
  | dict (items : List (Option Term × Term))
  /-- A named argument without a name unpacks a mapping. -/
  | call (f : Term) (args : List Term) (keywords : List (Option String × Term))
  | starred (e : Term)
  | otherUnary (op : OtherOp) (e : Term)
  | otherBinary (op : OtherOp) (left right : Term)
  | other (kind : OtherKind)

/-! ## Names of kinds -/

def OtherKind.name : OtherKind → String
  | .lambda => "Lambda"
  | .listComp => "ListComp"
  | .setComp => "SetComp"
  | .dictComp => "DictComp"
  | .generator => "GeneratorExp"
  | .set => "Set"
  | .await => "Await"
  | .yield => "Yield"
  | .yieldFrom => "YieldFrom"
  | .named => "NamedExpr"
  | .format => "JoinedStr"

def OtherOp.name : OtherOp → String
  | .power => "Pow"
  | .matMult => "MatMult"
  | .leftShift => "LShift"
  | .rightShift => "RShift"
  | .bitOr => "BitOr"
  | .bitXor => "BitXor"
  | .bitAnd => "BitAnd"
  | .invert => "Invert"

/-! ## What templates may use -/

/-- Why a term may not be used. -/
inductive Offence where
  | unsupported (kind : String)
  | privateName (id : String)
  | attribute (name : String)
  | unpacking
  deriving DecidableEq, Repr

/-- Names that begin with an underscore belong to nobody. -/
def isPrivate (id : String) : Bool := id.startsWith "_"

/-- Methods that reach attributes which the expression does not show. -/
def isBlocked (id : String) : Bool := id == "format" || id == "format_map"

namespace Term

/-- A node of the tree of a term: a term, an operator that may not be used, or a named argument. -/
inductive Node where
  | term (t : Term)
  | operator (op : OtherOp)
  | keyword (name : Option String) (value : Term)

namespace Node

/-- What is wrong with a node itself. -/
def offence? : Node → Option Offence
  | .term (.other k) => some (.unsupported k.name)
  | .term (.starred _) => some (.unsupported "Starred")
  | .operator op => some (.unsupported op.name)
  | .term (.name id) => if isPrivate id then some (.privateName id) else none
  | .term (.attr _ field) =>
    if isPrivate field || isBlocked field then some (.attribute field) else none
  | .term (.dict items) => if items.any (·.1.isNone) then some .unpacking else none
  | .keyword none _ => some .unpacking
  | _ => none

/-- The nodes right below a node, from left to right. -/
def children : Node → List Node
  | .operator _ => []
  | .keyword _ value => [.term value]
  | .term t =>
    match t with
    | .literal _ | .name _ | .other _ => []
    | .attr e _ | .unary _ e | .starred e => [.term e]
    | .subscript e key => [.term e, .term key]
    | .slice lower upper step => (lower.toList ++ upper.toList ++ step.toList).map .term
    | .binary _ a b => [.term a, .term b]
    | .bool _ es | .list es | .tuple es => es.map .term
    | .compare e rest => .term e :: rest.map fun r => .term r.2
    | .ifElse test body orelse => [.term test, .term body, .term orelse]
    | .dict items =>
      items.filterMap (fun i => i.1.map .term) ++ items.map fun i => .term i.2
    | .call f args keywords =>
      .term f :: args.map .term ++ keywords.map fun k => .keyword k.1 k.2
    | .otherUnary op e => [.operator op, .term e]
    | .otherBinary op a b => [.term a, .operator op, .term b]

end Node

mutual

/-- The number of nodes of a term. -/
def size : Term → Nat
  | .literal _ | .name _ | .other _ => 1
  | .attr e _ | .unary _ e | .starred e => size e + 1
  | .otherUnary _ e => size e + 2
  | .subscript a b | .binary _ a b => size a + size b + 1
  | .otherBinary _ a b => size a + size b + 2
  | .slice a b c => sizeOption a + sizeOption b + sizeOption c + 1
  | .bool _ es | .list es | .tuple es => sizeAll es + 1
  | .compare e rest => size e + sizeComparisons rest + 1
  | .ifElse a b c => size a + size b + size c + 1
  | .dict items => sizeEntries items + 1
  | .call f args keywords => size f + sizeAll args + sizeKeywords keywords + 1

def sizeOption : Option Term → Nat
  | none => 0
  | some t => size t

def sizeAll : List Term → Nat
  | [] => 0
  | t :: ts => size t + sizeAll ts

def sizeComparisons : List (CompareOp × Term) → Nat
  | [] => 0
  | (_, t) :: ts => size t + sizeComparisons ts

def sizeEntries : List (Option Term × Term) → Nat
  | [] => 0
  | (k, t) :: ts => sizeOption k + size t + sizeEntries ts

def sizeKeywords : List (Option String × Term) → Nat
  | [] => 0
  | (_, t) :: ts => size t + 1 + sizeKeywords ts

end

/-- The first offence in a queue of nodes; the nodes below a node join the end of the queue. -/
def checkQueue : Nat → List Node → Option Offence
  | 0, _ => none
  | _, [] => none
  | fuel + 1, n :: ns =>
    match n.offence? with
    | some o => some o
    | none => checkQueue fuel (ns ++ n.children)

/-- The first offence of a term, level by level. -/
def check (t : Term) : Option Offence := checkQueue t.size [.term t]

end Term

namespace Expr

mutual

/-- The expression that a term is, if it uses nothing that templates may not use. -/
def ofTerm? : Term → Option Expr
  | .literal l => some (.literal l)
  | .name id => if isPrivate id then none else some (.name id)
  | .attr e field =>
    if isPrivate field || isBlocked field then none else do return .attr (← ofTerm? e) field
  | .subscript e key => do return .subscript (← ofTerm? e) (← ofTerm? key)
  | .slice lower upper step => do
    return .slice (← ofOption? lower) (← ofOption? upper) (← ofOption? step)
  | .unary op e => do return .unary op (← ofTerm? e)
  | .binary op a b => do return .binary op (← ofTerm? a) (← ofTerm? b)
  | .bool op es => do return .bool op (← ofAll? es)
  | .compare e rest => do return .compare (← ofTerm? e) (← ofComparisons? rest)
  | .ifElse test body orelse => do
    return .ifElse (← ofTerm? test) (← ofTerm? body) (← ofTerm? orelse)
  | .list es => do return .list (← ofAll? es)
  | .tuple es => do return .tuple (← ofAll? es)
  | .dict items => do return .dict (← ofEntries? items)
  | .call f args keywords => do
    return .call (← ofTerm? f) (← ofAll? args) (← ofKeywords? keywords)
  | .starred _ | .otherUnary _ _ | .otherBinary _ _ _ | .other _ => none

def ofOption? : Option Term → Option (Option Expr)
  | none => some none
  | some t => do return some (← ofTerm? t)

def ofAll? : List Term → Option (List Expr)
  | [] => some []
  | t :: ts => do return (← ofTerm? t) :: (← ofAll? ts)

def ofComparisons? : List (CompareOp × Term) → Option (List (CompareOp × Expr))
  | [] => some []
  | (op, t) :: ts => do return (op, ← ofTerm? t) :: (← ofComparisons? ts)

def ofEntries? : List (Option Term × Term) → Option (List (Expr × Expr))
  | [] => some []
  | (k, t) :: ts => do
    match ← ofOption? k with
    | none => none
    | some k => return (k, ← ofTerm? t) :: (← ofEntries? ts)

def ofKeywords? : List (Option String × Term) → Option (List (String × Expr))
  | [] => some []
  | (none, _) :: _ => none
  | (some k, t) :: ts => do return (k, ← ofTerm? t) :: (← ofKeywords? ts)

end

end Expr

end Wording
