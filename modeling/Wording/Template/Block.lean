import Wording.Expr.Reading
import Wording.Template.Node
import Wording.Template.Piece
import Wording.Template.Statement

/-!
# Blocks

From the pieces of a template to its tree. Conditions and loops open a block that `end` closes. The
reader keeps the nodes of the innermost body and, for each open block, what was read before it; a
piece that fits nowhere and an expression that cannot be read end the reading at once.

The reader takes one piece after the other.
-/

namespace Wording

/-! ## Flaws -/

/-- The kinds of blocks, by the word that opened their last body. -/
inductive BlockKind where
  | ifThen
  | otherwise
  | forEach
  deriving DecidableEq, Repr

def BlockKind.word : BlockKind → String
  | ifThen => "if"
  | otherwise => "else"
  | forEach => "for"

/-- Why a text is no template. -/
inductive Flaw where
  | expr (f : ExprFlaw)
  | unterminated (kind : BlockKind)
  | endWithoutBlock
  | elifWithoutIf
  | elseWithoutIf
  | unknownStatement (code : String)
  deriving DecidableEq, Repr

def Flaw.message : Flaw → String
  | expr f => f.message
  | unterminated kind => "Unterminated \x27" ++ kind.word ++ "\x27 block"
  | endWithoutBlock => "\x27end\x27 without an open block"
  | elifWithoutIf => "\x27elif\x27 without a matching \x27if\x27"
  | elseWithoutIf => "\x27else\x27 without a matching \x27if\x27"
  | unknownStatement code => "Unknown statement " ++ Text.Quoted.quote code

/-- A flaw with the place where the piece that it is in starts. -/
structure FlawAt where
  flaw : Flaw
  position : Nat
  deriving DecidableEq, Repr

/-! ## Open blocks -/

/-- The part of an open block that has been read. -/
inductive Opening where
  /-- The branches before, the last one first, and the condition of the body that is open. -/
  | branch (before : List (Expression × List Node)) (test : Expression)
  /-- The branches before the last body. -/
  | last (before : List (Expression × List Node))
  | loop (name : String) (items : Expression)

def Opening.kind : Opening → BlockKind
  | .branch _ _ => .ifThen
  | .last _ => .otherwise
  | .loop _ _ => .forEach

/-- A block that is not closed yet. -/
structure OpenBlock where
  opening : Opening
  position : Nat
  /-- The nodes in front of the block, the last one first. -/
  outer : List Node

/-- Branches in front of what follows them; the last one comes first. -/
def Branches.ofList (rest : Branches) : List (Expression × List Node) → Branches
  | [] => rest
  | (test, body) :: before => ofList (.elseIf test body rest) before

/-- The condition that branches make: the first of them is tested first. -/
def Node.ofBranches? : Branches → Option Node
  | .elseIf test body rest => some (.cond test body rest)
  | _ => none

/-- The node of a block whose last body is `body`. -/
def Opening.close? (o : Opening) (body : List Node) : Option Node :=
  match o with
  | .branch before test => Node.ofBranches? (Branches.ofList .done ((test, body) :: before))
  | .last before => Node.ofBranches? (Branches.ofList (.otherwise body) before)
  | .loop name items => some (.loop name items body)

/-! ## Reading -/

/-- How far the reading has come. -/
structure BlockState where
  /-- The nodes of the innermost body, the last one first. -/
  body : List Node
  /-- The open blocks, the innermost one first. -/
  stack : List OpenBlock

namespace BlockState

def start : BlockState := ⟨[], []⟩

def push (s : BlockState) (n : Node) : BlockState := { s with body := n :: s.body }

/-- Opens a block. -/
def enter (s : BlockState) (o : Opening) (position : Nat) : BlockState :=
  ⟨[], ⟨o, position, s.body⟩ :: s.stack⟩

/-- Ends the body of a branch: the block, and its branches with this one. -/
def leaveBranch? (s : BlockState) : Option (OpenBlock × List (Expression × List Node)) :=
  match s.stack with
  | b :: _ =>
    match b.opening with
    | .branch before test => some (b, (test, s.body.reverse) :: before)
    | _ => none
  | [] => none

/-- Goes on with another body of the innermost block. -/
def reopen (s : BlockState) (b : OpenBlock) (o : Opening) : BlockState :=
  ⟨[], { b with opening := o } :: s.stack.tail⟩

/-- Closes the innermost block. -/
def close? (s : BlockState) : Option BlockState :=
  match s.stack with
  | b :: rest => (b.opening.close? s.body.reverse).map fun n => ⟨n :: b.outer, rest⟩
  | [] => none

/-- Reads the expression of a piece. -/
def expression (position : Nat) (source : String) : Except FlawAt Expression :=
  match Expression.read source with
  | .ok e => .ok e
  | .error f => .error ⟨.expr f, position⟩

/-- Takes a statement. -/
def statement (s : BlockState) (position : Nat) (t : Statement) : Except FlawAt BlockState :=
  match t with
  | .ifThen test => do return s.enter (.branch [] (← expression position test)) position
  | .elseIf test =>
    match s.leaveBranch? with
    | some (b, before) => do return s.reopen b (.branch before (← expression position test))
    | none => .error ⟨.elifWithoutIf, position⟩
  | .otherwise =>
    match s.leaveBranch? with
    | some (b, before) => .ok (s.reopen b (.last before))
    | none => .error ⟨.elseWithoutIf, position⟩
  | .forEach name items => do return s.enter (.loop name (← expression position items)) position
  | .done =>
    match s.close? with
    | some s => .ok s
    | none => .error ⟨.endWithoutBlock, position⟩
  | .set name value => do return s.push (.set name (← expression position value))
  | .emit value => do return s.push (.emit (← expression position value))

/-- Takes a piece. -/
def step (s : BlockState) : Piece → Except FlawAt BlockState
  | .text t => .ok (s.push (.text t))
  | .span .escape position inner => do return s.push (.escape (← expression position inner))
  | .span .interpolate position inner => do
    return s.push (.interpolate (← expression position inner))
  | .span .evaluate position inner =>
    let code := Text.trim inner.toList
    match Statement.ofChars? code with
    | some t => s.statement position t
    | none => .error ⟨.unknownStatement (String.ofList code), position⟩

/-- The tree, if no block is open. -/
def finish (s : BlockState) : Except FlawAt (List Node) :=
  match s.stack with
  | [] => .ok s.body.reverse
  | b :: _ => .error ⟨.unterminated b.opening.kind, b.position⟩

def run (s : BlockState) : List Piece → Except FlawAt BlockState
  | [] => .ok s
  | p :: ps => do run (← s.step p) ps

end BlockState

/-- The tree of the pieces of a template. -/
def Node.ofPieces (ps : List Piece) : Except FlawAt (List Node) := do
  (← BlockState.start.run ps).finish

end Wording
