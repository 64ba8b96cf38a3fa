import Wording.Template.Basic

/-!
# The grammar of templates

What a template is, said without a reader: a body is a sequence of items, and an item is a literal
text, a span, a binding, or a block that reaches up to its `end`.

```
body     ::= item*
item     ::= text | escape e | interpolate e | set n = e | emit e
           | if e body branches | for n in e body end
branches ::= end | else body end | elif e body branches
```

* `ItemRel` / `BodyRel` / `BranchesRel`: the pieces of an item, of a body and of the branches of a
  condition, each with what it stands for
* `OpenRel`: the pieces of a block that is still open
* `Viable`: pieces that some other pieces complete
* `FlawedAt`: why pieces are no template, and where
-/

namespace Wording.Blocks

/-! ## What a piece writes -/

/-- The statement that a piece writes. -/
def statement? : Piece → Option Statement
  | .span .evaluate _ inner => Statement.ofChars? (Text.trim inner.toList)
  | _ => none

/-- The expression in a statement, as it is written. -/
def written? : Statement → Option String
  | .ifThen e | .elseIf e | .forEach _ e | .set _ e | .emit e => some e
  | .otherwise | .done => none

/-- The expression in a piece, as it is written. -/
def source? : Piece → Option String
  | .span .escape _ inner | .span .interpolate _ inner => some inner
  | p => (statement? p).bind written?

/-- The place where a span starts. -/
def position? : Piece → Option Nat
  | .text _ => none
  | .span _ position _ => some position

/-! ## Complete pieces -/

mutual

/-- The pieces of one node. -/
inductive ItemRel : List Piece → Node → Prop where
  | text (s : String) : ItemRel [.text s] (.text s)
  | escape {i : Nat} {inner : String} {e : Expression} (he : Expression.read inner = .ok e) :
      ItemRel [.span .escape i inner] (.escape e)
  | interpolate {i : Nat} {inner : String} {e : Expression} (he : Expression.read inner = .ok e) :
      ItemRel [.span .interpolate i inner] (.interpolate e)
  | set {p : Piece} {name value : String} {e : Expression}
      (hp : statement? p = some (.set name value)) (he : Expression.read value = .ok e) :
      ItemRel [p] (.set name e)
  | emit {p : Piece} {value : String} {e : Expression}
      (hp : statement? p = some (.emit value)) (he : Expression.read value = .ok e) :
      ItemRel [p] (.emit e)
  | cond {p : Piece} {test : String} {e : Expression} {body tail : List Piece} {ns : List Node}
      {br : Branches} (hp : statement? p = some (.ifThen test))
      (he : Expression.read test = .ok e) (hb : BodyRel body ns) (ht : BranchesRel tail br) :
      ItemRel (p :: (body ++ tail)) (.cond e ns br)
  | loop {p q : Piece} {name items : String} {e : Expression} {body : List Piece}
      {ns : List Node} (hp : statement? p = some (.forEach name items))
      (he : Expression.read items = .ok e) (hb : BodyRel body ns)
      (hq : statement? q = some .done) :
      ItemRel (p :: (body ++ [q])) (.loop name e ns)

/-- The pieces of a body. -/
inductive BodyRel : List Piece → List Node → Prop where
  | nil : BodyRel [] []
  | cons {ps qs : List Piece} {n : Node} {ns : List Node} (hi : ItemRel ps n)
      (hb : BodyRel qs ns) : BodyRel (ps ++ qs) (n :: ns)

/-- The pieces behind the first body of a condition, up to its end. -/
inductive BranchesRel : List Piece → Branches → Prop where
  | done {q : Piece} (hq : statement? q = some .done) : BranchesRel [q] .done
  | otherwise {p q : Piece} {body : List Piece} {ns : List Node}
      (hp : statement? p = some .otherwise) (hb : BodyRel body ns)
      (hq : statement? q = some .done) : BranchesRel (p :: (body ++ [q])) (.otherwise ns)
  | elseIf {p : Piece} {test : String} {e : Expression} {body tail : List Piece}
      {ns : List Node} {br : Branches} (hp : statement? p = some (.elseIf test))
      (he : Expression.read test = .ok e) (hb : BodyRel body ns) (ht : BranchesRel tail br) :
      BranchesRel (p :: (body ++ tail)) (.elseIf e ns br)

end

theorem BodyRel.singleton {ps : List Piece} {n : Node} (h : ItemRel ps n) : BodyRel ps [n] := by
  have := BodyRel.cons h .nil
  rwa [List.append_nil] at this

theorem BodyRel.append {ps qs : List Piece} {ns ms : List Node} :
    BodyRel ps ns → BodyRel qs ms → BodyRel (ps ++ qs) (ns ++ ms)
  | .nil, h => h
  | .cons hi hb, h => by
    rw [List.append_assoc, List.cons_append]
    exact .cons hi (hb.append h)

/-! ## Open blocks -/

/--
A block that is still open: the piece that opens it, the pieces behind that, what has been read of
the block, and the nodes of the body that is open. All blocks within it are closed.
-/
inductive OpenRel : Piece → List Piece → Opening → List Node → Prop where
  | branch {p : Piece} {test : String} {e : Expression} {body : List Piece} {ns : List Node}
      (hp : statement? p = some (.ifThen test)) (he : Expression.read test = .ok e)
      (hb : BodyRel body ns) : OpenRel p body (.branch [] e) ns
  | elseIf {p q : Piece} {test : String} {e e' : Expression} {inner body : List Piece}
      {before : List (Expression × List Node)} {ns ms : List Node}
      (ho : OpenRel p inner (.branch before e) ns) (hq : statement? q = some (.elseIf test))
      (he : Expression.read test = .ok e') (hb : BodyRel body ms) :
      OpenRel p (inner ++ q :: body) (.branch ((e, ns) :: before) e') ms
  | otherwise {p q : Piece} {e : Expression} {inner body : List Piece}
      {before : List (Expression × List Node)} {ns ms : List Node}
      (ho : OpenRel p inner (.branch before e) ns) (hq : statement? q = some .otherwise)
      (hb : BodyRel body ms) : OpenRel p (inner ++ q :: body) (.last ((e, ns) :: before)) ms
  | loop {p : Piece} {name items : String} {e : Expression} {body : List Piece}
      {ns : List Node} (hp : statement? p = some (.forEach name items))
      (he : Expression.read items = .ok e) (hb : BodyRel body ns) :
      OpenRel p body (.loop name e) ns

/-- The innermost block that pieces leave open: its kind, and the place where it was opened. -/
def InnermostOpen (ps : List Piece) (kind : BlockKind) (position : Nat) : Prop :=
  ∃ outer p inner o ns, ps = outer ++ p :: inner ∧ OpenRel p inner o ns ∧ o.kind = kind ∧
    position? p = some position

/-! ## Pieces that are no template -/

/-- Pieces that can be completed to a body. -/
def Viable (ps : List Piece) : Prop := ∃ qs ns, BodyRel (ps ++ qs) ns

/-- A piece that cannot stand behind `pre`, whatever expression it holds. -/
inductive MisplacedRel (pre : List Piece) : Piece → Flaw → Prop where
  | elseIf {p : Piece} {test : String} (hp : statement? p = some (.elseIf test))
      (ho : ¬ ∃ i, InnermostOpen pre .ifThen i) : MisplacedRel pre p .elifWithoutIf
  | otherwise {p : Piece} (hp : statement? p = some .otherwise)
      (ho : ¬ ∃ i, InnermostOpen pre .ifThen i) : MisplacedRel pre p .elseWithoutIf
  | done {p : Piece} {ns : List Node} (hp : statement? p = some .done) (hb : BodyRel pre ns) :
      MisplacedRel pre p .endWithoutBlock
  | unknown {i : Nat} {inner : String}
      (hp : Statement.ofChars? (Text.trim inner.toList) = none) :
      MisplacedRel pre (.span .evaluate i inner)
        (.unknownStatement (String.ofList (Text.trim inner.toList)))

/-- A flaw of a piece behind `pre`: it cannot stand there, or else its expression cannot be read. -/
inductive FlawRel (pre : List Piece) : Piece → Flaw → Prop where
  | misplaced {p : Piece} {f : Flaw} (h : MisplacedRel pre p f) : FlawRel pre p f
  | unreadable {p : Piece} {source : String} {f : ExprFlaw}
      (hm : ∀ f', ¬ MisplacedRel pre p f') (hs : source? p = some source)
      (he : Expression.read source = .error f) : FlawRel pre p (.expr f)

/--
Why pieces are no template, and where: at the first piece that nothing completes to a body, or, if
there is no such piece, in the innermost block that is left open.
-/
inductive FlawedAt (ps : List Piece) : Flaw → Nat → Prop where
  | piece {pre post : List Piece} {p : Piece} {f : Flaw} {i : Nat} (hps : ps = pre ++ p :: post)
      (hpre : Viable pre) (hp : ¬ Viable (pre ++ [p])) (hf : FlawRel pre p f)
      (hi : position? p = some i) : FlawedAt ps f i
  | unterminated {kind : BlockKind} {i : Nat} (hps : Viable ps) (ho : InnermostOpen ps kind i) :
      FlawedAt ps (.unterminated kind) i

/-- Pieces in which no expression holds a null character, which no written text may hold. -/
def Readable (ps : List Piece) : Prop :=
  ∀ p ∈ ps, ∀ source, source? p = some source → Expression.read source ≠ .error .nullCharacter

end Wording.Blocks
