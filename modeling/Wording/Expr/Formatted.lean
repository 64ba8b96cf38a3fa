import Wording.Expr.TextLiteral
import Wording.Text.Blank

/-!
# Formatted texts

Texts that hold expressions between braces. No template may use one, but a text that is not well
formed is no expression at all, so their form is checked: literal parts with doubled braces, and
fields of an expression, an optional `=`, a conversion and a specification, which may hold fields
again, one level deep. Whether a text is an expression is a parameter, `parses`.

The parts are read one after another; the fuel counts parts and is never more than the text has
characters.
-/

namespace Wording.Formatted

open Wording.Text

/-! ## Literal parts -/

def isBrace (c : Char) : Bool := c == '\x7b' || c == '\x7d'

/-- Puts characters in front of what a reader has found. -/
def keep (cs : List Char) (r : Option (List Char × α)) : Option (List Char × α) :=
  r.map fun (ds, a) => (cs ++ ds, a)

/-- A literal part, what stands behind it, and whether a doubled brace ended it. Inside of a
specification braces are not doubled. -/
def spanLiteral (raw nested : Bool) : List Char → Option (List Char × List Char × Bool)
  | [] => some ([], [], false)
  | '\\' :: c :: cs =>
    if raw || isBrace c then keep ['\\'] (spanLiteral raw nested (c :: cs))
    else keep ['\\', c] (spanLiteral raw nested cs)
  | c :: cs =>
    if isBrace c then
      if nested then some ([], c :: cs, false)
      else if cs.head? = some c then some ([c], cs.drop 1, true)
      else if c = '\x7d' then none
      else some ([], c :: cs, false)
    else keep [c] (spanLiteral raw nested cs)

/-! ## Expressions of fields -/

def closing? : Char → Option Char
  | '(' => some ')'
  | '[' => some ']'
  | '\x7b' => some '\x7d'
  | _ => none

def maxDepth : Nat := 200

/-- The expression of a field, and what stands behind it. `quote` is the open quotation mark and
whether it is a triple one, `stack` holds the closing brackets that are due. -/
def spanExpression (quote : Option (Char × Bool)) (stack : List Char) :
    List Char → Option (List Char × List Char)
  | [] => none
  | '\\' :: _ => none
  | c :: a :: b :: cs =>
    match quote with
    | some (q, true) =>
      if c = q ∧ a = q ∧ b = q then keep [c, a, b] (spanExpression none stack cs)
      else keep [c] (spanExpression quote stack (a :: b :: cs))
    | some (q, false) =>
      keep [c] (spanExpression (if c = q then none else quote) stack (a :: b :: cs))
    | none =>
      if c = '\x27' ∨ c = '"' then
        if a = c ∧ b = c then keep [c, a, b] (spanExpression (some (c, true)) stack cs)
        else keep [c] (spanExpression (some (c, false)) stack (a :: b :: cs))
      else outside c (a :: b :: cs) (spanExpression none · (a :: b :: cs))
        (fun () => keep [c, a] (spanExpression none stack (b :: cs)))
  | [c, a] =>
    match quote with
    | some (q, triple) =>
      keep [c] (spanExpression (if c = q ∧ !triple then none else quote) stack [a])
    | none =>
      if c = '\x27' ∨ c = '"' then keep [c] (spanExpression (some (c, false)) stack [a])
      else outside c [a] (spanExpression none · [a]) fun () => none
  | [c] => if quote.isNone ∧ stack = [] ∧ isEnd c then some ([], [c]) else none
where
  isEnd (c : Char) : Bool := c == '!' || c == ':' || c == '\x7d' || c == '='
  /-- A character outside of quotes, `next` that goes on behind it with other brackets open, and
  `pair` that goes on behind the character after it. -/
  outside (c : Char) (cs : List Char) (next : List Char → Option (List Char × List Char))
      (pair : Unit → Option (List Char × List Char)) : Option (List Char × List Char) :=
    match closing? c, stack with
    | some due, _ => if stack.length < maxDepth then keep [c] (next (due :: stack)) else none
    | none, [] =>
      if (c == '!' || c == '=' || c == '<' || c == '>') && cs.head? == some '=' then pair ()
      else if isEnd c then some ([], c :: cs)
      else if c = '#' ∨ c = ')' ∨ c = ']' then none
      else keep [c] (next [])
    | none, due :: rest =>
      if c = due then keep [c] (next rest)
      else if c = '#' ∨ c = ')' ∨ c = ']' ∨ c = '\x7d' then none
      else keep [c] (next stack)

/-! ## Fields -/

/-- Blanks that an expression may consist of without being one. -/
def isSpace (c : Char) : Bool := c == ' ' || c == '\t' || c == '\n' || c == '\x0c'

/-- An optional `=` behind the expression. -/
def skipEquals : List Char → List Char
  | '=' :: cs => cs.dropWhile isAsciiBlank
  | cs => cs

/-- An optional conversion. -/
def skipConversion? : List Char → Option (List Char)
  | '!' :: c :: cs => if c = 's' ∨ c = 'r' ∨ c = 'a' then some cs else none
  | ['!'] => none
  | cs => some cs

/-- Reads literal parts and fields, and gives what stands behind them: nothing, or the brace that
ends a specification. -/
def readParts (parses : List Char → Bool) (raw : Bool) : Nat → Nat → List Char → Option (List Char)
  | 0, _, _ => none
  | fuel + 1, level, cs =>
    match spanLiteral raw (level != 0) cs with
    | none => none
    | some (literal, rest, doubled) =>
      if (TextLiteral.readText? raw literal).isNone then none
      else if doubled then readParts parses raw fuel level rest
      else
        match rest with
        | '\x7b' :: rest =>
          if level ≥ 2 then none
          else
            match spanExpression none [] rest with
            | none => none
            | some (source, rest) =>
              if source.all isSpace || !parses source then none
              else
                match skipConversion? (skipEquals rest) with
                | some ('\x7d' :: rest) => readParts parses raw fuel level rest
                | some (':' :: rest) =>
                  match readParts parses raw fuel (level + 1) rest with
                  | some ('\x7d' :: rest) => readParts parses raw fuel level rest
                  | _ => none
                | _ => none
        | rest => some rest

/-- Whether what is written between the quotes of a formatted text is well formed. -/
def isWellFormed (parses : List Char → Bool) (raw : Bool) (cs : List Char) : Bool :=
  readParts parses raw (cs.length + 1) 0 cs == some []

end Wording.Formatted
