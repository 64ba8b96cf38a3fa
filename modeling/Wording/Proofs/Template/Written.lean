import Wording.Proofs.Marker.Braces
import Wording.Proofs.Template.Grammar

/-!
# Writing templates

The other way round: from a tree to the text of a template. A tree is written as fragments, literal
text and spans, each span with one blank on both sides of its code.

* `Statement.written`, `Node.fragments`, `Fragment.written`: the printer
* `Node.Plain`: the trees that keep their shape when they are written; a text with a brace could
  become a span, and neighbouring texts become one
* `Statement.ofChars?_written`: a written statement reads as itself
* `bodyRel_located`: the fragments of a tree, as pieces, stand for the tree
-/

namespace Wording

open Text (isBlank isAsciiLetter trim trimBoth trimLeft trimRight)

/-! ## The printer -/

/-- A statement as it is written, with one blank between its words. -/
def Statement.written : Statement → String
  | .ifThen test => "if " ++ test
  | .elseIf test => "elif " ++ test
  | .otherwise => "else"
  | .forEach name items => "for " ++ name ++ " in " ++ items
  | .done => "end"
  | .set name value => "set " ++ name ++ " = " ++ value
  | .emit value => "emit " ++ value

/-- A fragment of a written template: literal text, or a span with its code. -/
inductive Fragment where
  | text (s : String)
  | span (role : Role) (code : String)
  deriving DecidableEq, Repr

namespace Fragment

def isText : Fragment → Bool
  | text _ => true
  | span _ _ => false

/-- A statement as a fragment. -/
def statement (t : Statement) : Fragment := span .evaluate t.written

/-- Code with a blank on both sides. -/
def padded (code : String) : List Char := ' ' :: (code.toList ++ [' '])

def written : Fragment → List Char
  | text s => s.toList
  | span .escape code => Braces.opening 2 ++ (padded code ++ Braces.closing 2)
  | span .interpolate code => Braces.opening 3 ++ (padded code ++ Braces.closing 3)
  | span .evaluate code => Braces.opening 2 ++ '#' :: (padded code ++ Braces.closing 2)

/-- The piece that a fragment becomes at a place. -/
def piece (i : Nat) : Fragment → Piece
  | text s => .text s
  | span role code => .span role i (String.ofList (padded code))

/-- The pieces of fragments that are written one after the other from a place on. -/
def located (i : Nat) : List Fragment → List Piece
  | [] => []
  | p :: ps => p.piece i :: located (i + p.written.length) ps

theorem located_append (i : Nat) (ps qs : List Fragment) :
    located i (ps ++ qs) = located i ps ++ located (i + (ps.flatMap written).length) qs := by
  induction ps generalizing i with
  | nil => rfl
  | cons p ps ih =>
    rw [List.cons_append, located, located, ih, List.flatMap_cons, List.length_append,
      Nat.add_assoc, List.cons_append]

end Fragment

mutual

/-- The fragments of a node. -/
def Node.fragments : Node → List Fragment
  | .text s => [.text s]
  | .escape e => [.span .escape e.source]
  | .interpolate e => [.span .interpolate e.source]
  | .emit e => [.statement (.emit e.source)]
  | .set name e => [.statement (.set name e.source)]
  | .cond test body rest =>
    .statement (.ifThen test.source) :: (Node.fragmentsAll body ++ rest.fragments)
  | .loop name items body =>
    .statement (.forEach name items.source) :: (Node.fragmentsAll body ++ [.statement .done])

/-- The fragments of a body. -/
def Node.fragmentsAll : List Node → List Fragment
  | [] => []
  | n :: ns => n.fragments ++ Node.fragmentsAll ns

/-- The fragments behind the first body of a condition, up to its end. -/
def Branches.fragments : Branches → List Fragment
  | .done => [.statement .done]
  | .otherwise body => .statement .otherwise :: (Node.fragmentsAll body ++ [.statement .done])
  | .elseIf test body rest =>
    .statement (.elseIf test.source) :: (Node.fragmentsAll body ++ rest.fragments)

end

/-- The text of a template. -/
def Node.written (ns : List Node) : String :=
  String.ofList ((Node.fragmentsAll ns).flatMap Fragment.written)

/-! ## Plain trees -/

/-- A text without braces. -/
def BraceFree (s : String) : Prop := '\x7b' ∉ s.toList ∧ '\x7d' ∉ s.toList

instance (s : String) : Decidable (BraceFree s) := inferInstanceAs (Decidable (_ ∧ _))

/-- A text without braces on one line. -/
def Inline (s : String) : Prop := BraceFree s ∧ '\n' ∉ s.toList

instance (s : String) : Decidable (Inline s) := inferInstanceAs (Decidable (_ ∧ _))

theorem Inline.append {s t : String} (hs : Inline s) (ht : Inline t) : Inline (s ++ t) := by
  obtain ⟨⟨hs₁, hs₂⟩, hs₃⟩ := hs
  obtain ⟨⟨ht₁, ht₂⟩, ht₃⟩ := ht
  simp only [Inline, BraceFree, String.toList_append, List.mem_append, not_or]
  exact ⟨⟨⟨hs₁, ht₁⟩, hs₂, ht₂⟩, hs₃, ht₃⟩

/-- An expression whose written form reads as itself; it has no blanks around then. -/
structure Expression.Plain (e : Expression) : Prop where
  read_source : Expression.read e.source = .ok e
  inline : Inline e.source

/-- A name in a statement: a letter, then letters, digits and underscores. -/
def Statement.IsName (name : String) : Prop :=
  name.toList.head?.any isAsciiLetter ∧ name.toList.all isNamePart

instance (name : String) : Decidable (Statement.IsName name) := inferInstanceAs (Decidable (_ ∧ _))

def Node.isText : Node → Bool
  | .text _ => true
  | _ => false

mutual

/-- A node that keeps its shape when it is written. -/
def Node.Plain : Node → Prop
  | .text s => s ≠ "" ∧ BraceFree s
  | .escape e | .interpolate e | .emit e => e.Plain
  | .set name e => Statement.IsName name ∧ e.Plain
  | .cond test body rest => test.Plain ∧ Node.PlainAll body ∧ rest.Plain
  | .loop name items body => Statement.IsName name ∧ items.Plain ∧ Node.PlainAll body

/-- A body of such nodes, in which no text follows a text. -/
def Node.PlainAll : List Node → Prop
  | [] => True
  | n :: ns => n.Plain ∧ (n.isText → ¬ ns.head?.any Node.isText) ∧ Node.PlainAll ns

/-- Branches with such bodies. -/
def Branches.Plain : Branches → Prop
  | .done => True
  | .otherwise body => Node.PlainAll body
  | .elseIf test body rest => test.Plain ∧ Node.PlainAll body ∧ rest.Plain

end

/-! ## Trimming -/

namespace Text

theorem isBlank_of_head?_trim (cs : List Char) {c : Char} (h : (trim cs).head? = some c) :
    isBlank c = false := by
  have hpre : trim cs <+: trimLeft isBlank cs := by
    rw [trim, trimBoth, trimRight, ← List.reverse_suffix, List.reverse_reverse]
    exact List.dropWhile_suffix _
  have hhead : (trimLeft isBlank cs).head? = some c := by
    obtain ⟨rest, hrest⟩ := hpre
    rw [← hrest, List.head?_append, h, Option.some_or]
  have := List.head?_dropWhile_not isBlank cs
  rw [trimLeft] at hhead
  rw [hhead] at this
  exact this

theorem isBlank_of_getLast?_trim (cs : List Char) {c : Char} (h : (trim cs).getLast? = some c) :
    isBlank c = false := by
  rw [trim, trimBoth, trimRight, List.getLast?_reverse] at h
  have := List.head?_dropWhile_not isBlank (trimLeft isBlank cs).reverse
  rw [h] at this
  exact this

/-- One blank on both sides is taken off again. -/
theorem trim_padded {cs : List Char} (hhead : ∀ c ∈ cs.head?, isBlank c = false)
    (hlast : ∀ c ∈ cs.getLast?, isBlank c = false) : trim (' ' :: (cs ++ [' '])) = cs := by
  have hblank : isBlank ' ' = true := by decide
  have hleft : trimLeft isBlank (' ' :: (cs ++ [' '])) = trimLeft isBlank (cs ++ [' ']) := by
    rw [trimLeft, List.dropWhile_cons_of_pos hblank, trimLeft]
  rw [trim, trimBoth, hleft]
  cases cs with
  | nil => decide
  | cons c cs =>
    rw [trimLeft, List.cons_append, List.dropWhile_cons_of_neg (by simp [hhead c rfl]),
      ← List.cons_append, trimRight, List.reverse_append, List.reverse_singleton,
      List.singleton_append, List.dropWhile_cons_of_pos hblank]
    have hrev : ((c :: cs).reverse.dropWhile isBlank) = (c :: cs).reverse := by
      rw [← List.head?_reverse] at hlast
      cases hr : (c :: cs).reverse with
      | nil => rfl
      | cons d ds => rw [List.dropWhile_cons_of_neg (by simp [hlast d (by rw [hr]; rfl)])]
    rw [hrev, List.reverse_reverse]

end Text

/-! ## Expressions -/

namespace Expression

/-- What is read does not depend on blanks around. -/
theorem read_congr {s t : String} (h : trim s.toList = trim t.toList) : read s = read t := by
  unfold read
  rw [h]

/-- The written form of an expression is the text that it was read from, without blanks around. -/
theorem source_of_read {s : String} {e : Expression} (h : read s = .ok e) :
    e.source.toList = trim s.toList ∧ e.source.toList ≠ [] := by
  unfold read at h
  dsimp only at h
  split_ifs at h with hempty hnull
  split at h
  · cases h
  · unfold ofTerm at h
    split at h <;> cases h
    simp only [String.toList_ofList, true_and]
    simpa using hempty

end Expression

namespace Expression.Plain

variable {e : Expression}

theorem trim_source (he : e.Plain) : trim e.source.toList = e.source.toList :=
  (source_of_read he.read_source).1.symm

theorem source_ne_nil (he : e.Plain) : e.source.toList ≠ [] := (source_of_read he.read_source).2

/-- It begins with a character that is not blank. -/
theorem exists_cons (he : e.Plain) : ∃ c cs, e.source.toList = c :: cs ∧ isBlank c = false := by
  obtain ⟨c, cs, hcs⟩ := List.exists_cons_of_ne_nil he.source_ne_nil
  refine ⟨c, cs, hcs, Text.isBlank_of_head?_trim e.source.toList ?_⟩
  rw [he.trim_source, hcs, List.head?_cons]

theorem isBlank_of_getLast? (he : e.Plain) {c : Char} (h : e.source.toList.getLast? = some c) :
    isBlank c = false :=
  Text.isBlank_of_getLast?_trim e.source.toList (by rw [he.trim_source, h])

/-- It is read between blanks. -/
theorem read_padded (he : e.Plain) :
    Expression.read (String.ofList (Fragment.padded e.source)) = .ok e := by
  rw [← he.read_source]
  refine read_congr ?_
  obtain ⟨c, cs, hcs, hc⟩ := he.exists_cons
  rw [String.toList_ofList, Fragment.padded, he.trim_source, Text.trim_padded]
  · intro d hd
    rw [hcs, List.head?_cons, Option.mem_some_iff] at hd
    exact hd ▸ hc
  · exact fun d hd => he.isBlank_of_getLast? hd

end Expression.Plain

/-! ## Statements -/

namespace Statement

theorem after?_append (word : String) (cs : List Char) :
    after? word (word.toList ++ cs) = some cs := by
  rw [after?, if_pos (List.isPrefixOf_iff_prefix.mpr (List.prefix_append _ _)),
    ← String.length_toList, List.drop_left]

theorem skipBlanks?_cons {c : Char} {cs : List Char} (hc : isBlank c = false) :
    skipBlanks? (' ' :: c :: cs) = some (c :: cs) := by
  have hblank : isBlank ' ' = true := by decide
  rw [skipBlanks?, List.head?_cons, Option.any_some, if_pos hblank,
    List.dropWhile_cons_of_pos hblank, List.dropWhile_cons_of_neg (by simp [hc])]

theorem rest?_cons (c : Char) (cs : List Char) :
    rest? (c :: cs) = some (String.ofList (c :: cs)) := rfl

/-- A word, a blank and an expression. -/
theorem phrase?_append (word : String) {e : Expression} (he : e.Plain) :
    phrase? word (word.toList ++ ' ' :: e.source.toList) = some e.source := by
  obtain ⟨c, cs, hcs, hc⟩ := he.exists_cons
  rw [phrase?, after?_append, hcs, Option.bind_eq_bind, Option.bind_some, skipBlanks?_cons hc,
    Option.bind_some, rest?_cons, ← hcs, String.ofList_toList]

theorem isBlank_of_isAsciiLetter {c : Char} (h : isAsciiLetter c = true) : isBlank c = false := by
  have hbounds : 65 ≤ c.toNat ∧ c.toNat ≤ 122 := by
    simp only [isAsciiLetter, Bool.or_eq_true, Bool.and_eq_true, decide_eq_true_eq, Char.le_def,
      UInt32.le_iff_toNat_le] at h
    have hnat : c.val.toNat = c.toNat := rfl
    have hconst : 'a'.val.toNat = 97 ∧ 'z'.val.toNat = 122 ∧ 'A'.val.toNat = 65 ∧
      'Z'.val.toNat = 90 := by decide
    omega
  simp only [isBlank, Bool.or_eq_false_iff, Bool.and_eq_false_iff, decide_eq_false_iff_not,
    beq_eq_false_iff_ne]
  omega

namespace IsName

variable {name : String}

theorem exists_cons (hn : IsName name) :
    ∃ c cs, name.toList = c :: cs ∧ isAsciiLetter c = true := by
  obtain ⟨hhead, -⟩ := hn
  cases hcs : name.toList with
  | nil => simp [hcs] at hhead
  | cons c cs =>
    rw [hcs, List.head?_cons, Option.any_some] at hhead
    exact ⟨c, cs, rfl, hhead⟩

theorem skipBlanks? (hn : IsName name) (cs : List Char) :
    skipBlanks? (' ' :: (name.toList ++ cs)) = some (name.toList ++ cs) := by
  obtain ⟨c, ds, hcs, hc⟩ := hn.exists_cons
  rw [hcs, List.cons_append, skipBlanks?_cons (isBlank_of_isAsciiLetter hc)]

/-- A name stands up to the first character that belongs to no name. -/
theorem name?_append (hn : IsName name) {c : Char} (hc : isNamePart c = false)
    (cs : List Char) : name? (name.toList ++ c :: cs) = some (name, c :: cs) := by
  have hall : ∀ d ∈ name.toList, isNamePart d = true := List.all_eq_true.mp hn.2
  have hhead : (name.toList ++ c :: cs).head?.any isAsciiLetter = true := by
    obtain ⟨d, ds, hds, hd⟩ := hn.exists_cons
    rw [hds, List.cons_append, List.head?_cons, Option.any_some, hd]
  rw [name?, if_pos hhead, List.takeWhile_append_of_pos hall,
    List.takeWhile_cons_of_neg (by simp [hc]), List.append_nil,
    List.dropWhile_append_of_pos hall, List.dropWhile_cons_of_neg (by simp [hc]),
    String.ofList_toList]

theorem inline (hn : IsName name) : Inline name := by
  have hall : ∀ d ∈ name.toList, isNamePart d = true := List.all_eq_true.mp hn.2
  refine ⟨⟨?_, ?_⟩, ?_⟩ <;> intro h <;> exact absurd (hall _ h) (by decide)

end IsName

/-- The head of a loop. -/
theorem loop?_written {name : String} (hn : IsName name) {e : Expression} (he : e.Plain) :
    loop? ("for".toList ++ ' ' :: (name.toList ++ ' ' :: ("in".toList ++ ' ' :: e.source.toList)))
      = some (name, e.source) := by
  have hblank : skipBlanks? (' ' :: ("in".toList ++ ' ' :: e.source.toList)) =
      some ("in".toList ++ ' ' :: e.source.toList) := rfl
  simp only [loop?, after?_append, Option.bind_eq_bind, Option.bind_some, hn.skipBlanks?,
    hn.name?_append (show isNamePart ' ' = false by decide), hblank, phrase?_append "in" he]
  rfl

/-- A binding. -/
theorem binding?_written {name : String} (hn : IsName name) {e : Expression} (he : e.Plain) :
    binding? ("set".toList ++ ' ' :: (name.toList ++ ' ' :: ("=".toList ++ ' ' :: e.source.toList)))
      = some (name, e.source) := by
  obtain ⟨c, cs, hcs, hc⟩ := he.exists_cons
  have hsign : (' ' :: ("=".toList ++ ' ' :: e.source.toList)).dropWhile isBlank =
      "=".toList ++ ' ' :: e.source.toList := rfl
  have hvalue : (' ' :: e.source.toList).dropWhile isBlank = e.source.toList := by
    rw [List.dropWhile_cons_of_pos (by decide), hcs, List.dropWhile_cons_of_neg (by simp [hc])]
  have hrest : rest? e.source.toList = some e.source := by
    rw [hcs, rest?_cons, ← hcs, String.ofList_toList]
  simp only [binding?, after?_append, Option.bind_eq_bind, Option.bind_some, hn.skipBlanks?,
    hn.name?_append (show isNamePart ' ' = false by decide), hsign, hvalue, hrest,
    List.head?_cons]
  rfl

/-- A statement whose names are names and whose expressions are plain. -/
inductive Plain : Statement → Prop where
  | ifThen {e : Expression} (he : e.Plain) : Plain (.ifThen e.source)
  | elseIf {e : Expression} (he : e.Plain) : Plain (.elseIf e.source)
  | otherwise : Plain .otherwise
  | forEach {name : String} {e : Expression} (hn : IsName name) (he : e.Plain) :
      Plain (.forEach name e.source)
  | done : Plain .done
  | set {name : String} {e : Expression} (hn : IsName name) (he : e.Plain) :
      Plain (.set name e.source)
  | emit {e : Expression} (he : e.Plain) : Plain (.emit e.source)

/-- **A written statement reads as itself.** -/
theorem ofChars?_written {t : Statement} (ht : t.Plain) : ofChars? t.written.toList = some t := by
  cases ht with
  | @ifThen e he =>
    have hw : (written (.ifThen e.source)).toList = "if".toList ++ ' ' :: e.source.toList :=
      String.toList_append
    rw [hw, ofChars?, phrase?_append "if" he]
  | @elseIf e he =>
    have hw : (written (.elseIf e.source)).toList = "elif".toList ++ ' ' :: e.source.toList :=
      String.toList_append
    have hif : phrase? "if" ("elif".toList ++ ' ' :: e.source.toList) = none := rfl
    rw [hw, ofChars?, hif, phrase?_append "elif" he]
  | otherwise => decide
  | @forEach name e hn he =>
    have hw : (written (.forEach name e.source)).toList =
        "for".toList ++ ' ' :: (name.toList ++ ' ' :: ("in".toList ++ ' ' :: e.source.toList)) := by
      simp only [written, String.toList_append, List.append_assoc]
      rfl
    have hif : ∀ cs, phrase? "if" ("for".toList ++ cs) = none := fun _ => rfl
    have helif : ∀ cs, phrase? "elif" ("for".toList ++ cs) = none := fun _ => rfl
    have helse : ∀ cs, "for".toList ++ cs ≠ "else".toList := by intro cs h; cases h
    rw [hw, ofChars?, hif, helif, if_neg (helse _), loop?_written hn he]
  | done => decide
  | @set name e hn he =>
    have hw : (written (.set name e.source)).toList =
        "set".toList ++ ' ' :: (name.toList ++ ' ' :: ("=".toList ++ ' ' :: e.source.toList)) := by
      simp only [written, String.toList_append, List.append_assoc]
      rfl
    have hif : ∀ cs, phrase? "if" ("set".toList ++ cs) = none := fun _ => rfl
    have helif : ∀ cs, phrase? "elif" ("set".toList ++ cs) = none := fun _ => rfl
    have hloop : ∀ cs, loop? ("set".toList ++ cs) = none := fun _ => rfl
    have hword : ∀ cs, "set".toList ++ cs ≠ "else".toList ∧ "set".toList ++ cs ≠ "end".toList := by
      intro cs
      constructor <;> intro h <;> cases h
    rw [hw, ofChars?, hif, helif, if_neg (hword _).1, hloop, if_neg (hword _).2,
      binding?_written hn he]
  | @emit e he =>
    have hw : (written (.emit e.source)).toList = "emit".toList ++ ' ' :: e.source.toList :=
      String.toList_append
    have hif : ∀ cs, phrase? "if" ("emit".toList ++ cs) = none := fun _ => rfl
    have helif : ∀ cs, phrase? "elif" ("emit".toList ++ cs) = none := fun _ => rfl
    have hloop : ∀ cs, loop? ("emit".toList ++ cs) = none := fun _ => rfl
    have hbinding : ∀ cs, binding? ("emit".toList ++ cs) = none := fun _ => rfl
    have hword : ∀ cs,
        "emit".toList ++ cs ≠ "else".toList ∧ "emit".toList ++ cs ≠ "end".toList := by
      intro cs
      constructor <;> intro h <;> cases h
    rw [hw, ofChars?, hif, helif, if_neg (hword _).1, hloop, if_neg (hword _).2, hbinding,
      phrase?_append "emit" he, Option.map_some]

end Statement

namespace Statement.Plain

variable {t : Statement}

theorem isBlank_of_head? (ht : t.Plain) {c : Char} (h : t.written.toList.head? = some c) :
    isBlank c = false := by
  cases ht <;>
    simp only [written, String.toList_append, List.head?_append] at h <;> cases h <;> decide

theorem isBlank_of_getLast? (ht : t.Plain) {c : Char} (h : t.written.toList.getLast? = some c) :
    isBlank c = false := by
  cases ht with
  | otherwise | done => cases h; decide
  | ifThen he | elseIf he | forEach _ he | set _ he | emit he =>
    rw [written, String.toList_append, List.getLast?_append_of_ne_nil _ he.source_ne_nil] at h
    exact he.isBlank_of_getLast? h

/-- A statement is read between blanks, where it stands as a fragment. -/
theorem statement?_piece (ht : t.Plain) (i : Nat) :
    Blocks.statement? ((Fragment.statement t).piece i) = some t := by
  rw [Fragment.statement, Fragment.piece, Blocks.statement?, String.toList_ofList, Fragment.padded,
    Text.trim_padded (fun _ => ht.isBlank_of_head?) (fun _ => ht.isBlank_of_getLast?),
    ofChars?_written ht]

/-- It is written without braces on one line. -/
theorem inline (ht : t.Plain) : Inline t.written := by
  cases ht with
  | otherwise | done => decide
  | ifThen he | elseIf he | emit he => exact Inline.append (by decide) he.inline
  | forEach hn he | set hn he =>
    exact .append (.append (.append (by decide) hn.inline) (by decide)) he.inline

end Statement.Plain

/-! ## The tree of the fragments -/

open Blocks Fragment

mutual

theorem itemRel_located : (n : Node) → n.Plain → ∀ i, ItemRel (located i n.fragments) n
  | .text s, _, _ => .text s
  | .escape _, he, _ => .escape he.read_padded
  | .interpolate _, he, _ => .interpolate he.read_padded
  | .emit _, he, i => .emit ((Statement.Plain.emit he).statement?_piece i) he.read_source
  | .set _ _, ⟨hn, he⟩, i =>
    .set ((Statement.Plain.set hn he).statement?_piece i) he.read_source
  | .cond _ body rest, ⟨he, hbody, hrest⟩, i => by
    rw [Node.fragments, located, located_append]
    exact .cond ((Statement.Plain.ifThen he).statement?_piece i) he.read_source
      (bodyRel_located body hbody _) (branchesRel_located rest hrest _)
  | .loop _ _ body, ⟨hn, he, hbody⟩, i => by
    rw [Node.fragments, located, located_append]
    exact .loop ((Statement.Plain.forEach hn he).statement?_piece i) he.read_source
      (bodyRel_located body hbody _) (Statement.Plain.done.statement?_piece _)

/-- **The fragments of a plain tree, as pieces, stand for the tree.** -/
theorem bodyRel_located : (ns : List Node) → Node.PlainAll ns → ∀ i,
    BodyRel (located i (Node.fragmentsAll ns)) ns
  | [], _, _ => .nil
  | n :: ns, ⟨hn, _, hns⟩, i => by
    rw [Node.fragmentsAll, located_append]
    exact .cons (itemRel_located n hn i) (bodyRel_located ns hns _)

theorem branchesRel_located : (br : Branches) → br.Plain → ∀ i,
    BranchesRel (located i br.fragments) br
  | .done, _, i => .done (Statement.Plain.done.statement?_piece i)
  | .otherwise body, hbody, i => by
    rw [Branches.fragments, located, located_append]
    exact .otherwise (Statement.Plain.otherwise.statement?_piece i)
      (bodyRel_located body hbody _) (Statement.Plain.done.statement?_piece _)
  | .elseIf _ body rest, ⟨he, hbody, hrest⟩, i => by
    rw [Branches.fragments, located, located_append]
    exact .elseIf ((Statement.Plain.elseIf he).statement?_piece i) he.read_source
      (bodyRel_located body hbody _) (branchesRel_located rest hrest _)

end

end Wording
