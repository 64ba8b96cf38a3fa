import Wording.Expr.Printer
import Wording.Value.Call

/-!
# Evaluating expressions

The value of an expression in a scope. Names are looked up in the scope, then among the helpers.
What fails in computing is reported with the text of the whole expression. How a value is called is
a parameter, `call`: the evaluation itself follows the structure of the expression.
-/

namespace Wording

/-! ## Scopes -/

/-- The names that an expression sees: those that statements have bound, in front of those of a
context, if there is one. -/
structure Scope where
  bound : List (String × Value)
  context : Option Value

namespace Scope

/-- The value of a name in the context. -/
def inContext? (context : Value) (id : String) : Eval (Option Value) := do
  match context with
  | .dict r => return (← get).lookup r (.str id)
  | context =>
    if ← Eval.lift ((← get).holds (.str id) context) then some <$> getItem context (.str id)
    else return none

/-- The value of a name in the scope. -/
def lookup? (s : Scope) (id : String) : Eval (Option Value) := do
  match s.bound.find? (·.1 == id), s.context with
  | some (_, v), _ => return some v
  | none, some context => inContext? context id
  | none, none => return none

/-- Binds a name. -/
def bind (s : Scope) (id : String) (v : Value) : Scope :=
  { s with bound := (id, v) :: s.bound.filter (·.1 != id) }

end Scope

namespace Helper

def all : List Helper :=
  [.abs, .float, .int, .join, .len, .lower, .max, .min, .round, .sorted, .str, .upper]

/-- The name under which templates know a helper. -/
def name : Helper → String
  | .abs => "abs"
  | .float => "float"
  | .int => "int"
  | .join => "join"
  | .len => "len"
  | .lower => "lower"
  | .max => "max"
  | .min => "min"
  | .round => "round"
  | .sorted => "sorted"
  | .str => "str"
  | .upper => "upper"

def ofName? (id : String) : Option Helper := all.find? (·.name == id)

end Helper

/-! ## Expressions -/

/-- The value of a name, or of the helper of that name. -/
def evalName (s : Scope) (id : String) : Eval Value := do
  match ← s.lookup? id with
  | some v => return v
  | none =>
    match Helper.ofName? id with
    | some f => return .helper f
    | none => throw (.render (.undefinedName id))

/-- Named arguments by name; of two with one name the place of the first and the value of the last
count. -/
def insertNamed (name : String) (v : Value) : List (String × Value) → List (String × Value)
  | [] => [(name, v)]
  | n :: ns => if n.1 = name then (name, v) :: ns else n :: insertNamed name v ns

namespace Expr

/-- Whether an expression does not refer to a value but makes one: a literal, a tuple, a number that
was computed, a method that was taken off a value. -/
def makes : Expr → Value → Bool
  | .literal _, _ | .tuple _, _ | .unary .minus _, _ => true
  | .binary _ _ _, .int _ | .binary _ _ _, .float _ | .binary _ _ _, .complex _ _ => true
  | .attr _ _, .method _ _ => true
  | _, _ => false

mutual

def eval (call : Caller) (s : Scope) : Expr → Eval Value
  | .literal l => return .ofLiteral l
  | .name id => evalName s id
  | .attr e field => do
    let v ← eval call s e
    return (← get).attr v field
  | .subscript e key => do
    match ← eval call s e with
    | .null => return .null
    | v =>
      let key ← eval call s key
      getItemOrNull v key
  | .slice lower upper step => do
    let lower ← evalOption call s lower
    let upper ← evalOption call s upper
    let step ← evalOption call s step
    return .slice lower upper step
  | .unary op e => do
    let v ← eval call s e
    op.apply v
  | .binary op a b => do
    let v ← eval call s a
    let w ← eval call s b
    op.apply v w
  | .bool op es => evalBool call s op es
  | .compare e rest => do
    let v ← eval call s e
    evalComparisons call s (e.makes v) v rest
  | .ifElse test body orelse => do
    let v ← eval call s test
    if (← get).truthy v then eval call s body else eval call s orelse
  | .list items => do
    let vs ← evalAll call s items
    Eval.newList vs
  | .tuple items => do
    let vs ← evalAll call s items
    return .tuple vs
  | .dict items => do
    let es ← evalEntries call s [] items
    Eval.newDict es
  | .call f args keywords => do
    let v ← eval call s f
    if v.isCallable then
      let positional ← evalAll call s args
      let named ← evalNamed call s [] keywords
      call v ⟨positional, named⟩
    else
      let text ← Eval.lift f.text
      throw (.render (.notCallable text))

def evalOption (call : Caller) (s : Scope) : Option Expr → Eval Value
  | none => return .null
  | some e => eval call s e

def evalAll (call : Caller) (s : Scope) : List Expr → Eval (List Value)
  | [] => return []
  | e :: es => do
    let v ← eval call s e
    let vs ← evalAll call s es
    return v :: vs

/-- The first operand that decides, else the last one. -/
def evalBool (call : Caller) (s : Scope) (op : BoolOp) : List Expr → Eval Value
  | [] => return .null
  | [e] => eval call s e
  | e :: es => do
    let v ← eval call s e
    if (← get).truthy v == (op == .or) then return v else evalBool call s op es

/-- Whether each comparison holds between its neighbours; the first that does not ends the chain.
`made` tells that the left operand was made for the comparison. -/
def evalComparisons (call : Caller) (s : Scope) (made : Bool) (v : Value) :
    List (CompareOp × Expr) → Eval Value
  | [] => return .bool true
  | (op, e) :: es => do
    let w ← eval call s e
    let makes := e.makes w
    if ← op.apply (made || makes) v w then evalComparisons call s makes w es
    else return .bool false

def evalEntries (call : Caller) (s : Scope) (acc : Entries) :
    List (Expr × Expr) → Eval Entries
  | [] => return acc
  | (k, e) :: es => do
    let key ← eval call s k
    let v ← eval call s e
    if key.isKey then evalEntries call s (acc.insert key v) es else Eval.fail .type

def evalNamed (call : Caller) (s : Scope) (acc : List (String × Value)) :
    List (String × Expr) → Eval (List (String × Value))
  | [] => return acc
  | (k, e) :: es => do
    let v ← eval call s e
    evalNamed call s (insertNamed k v acc) es

end

end Expr

namespace Expression

/-- The value of an expression; a failure in computing is reported with the text of the expression.
-/
def eval (call : Caller) (s : Scope) (e : Expression) : Eval Value := do
  try e.expr.eval call s
  catch
    | .failure f =>
      throw (if f.isReported then .render (.evaluating e.source f) else .failure f)
    | e => throw e

end Expression

end Wording
