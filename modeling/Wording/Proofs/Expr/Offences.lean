import Mathlib.Algebra.Ring.Nat
import Mathlib.Data.Nat.Find
import Mathlib.Logic.Relation
import Wording.Expr.Reading

/-!
# What templates may not use

A term is checked with a queue of nodes. What the queue finds is said here without it: the tree of a
term is cut into levels, and what is found is the first offence of the first level that has one. So a
term passes if no node of its tree offends, and a term that passes is an expression.

* `Offends`: what is wrong with a node
* `level`: the nodes so many steps below some nodes, from left to right
* `FirstOffence`: the offence that comes first, level by level
* `check_eq_some_iff`, `check_eq_none_iff`: what the check finds
* `exists_ofTerm?`: a term without offences is an expression
-/

namespace Wording.Term

/-! ## Offences -/

/-- The kinds of nodes and operators that templates may use. -/
def allowedKinds : List String :=
  ["Expression", "Constant", "Name", "Load", "Attribute", "Subscript", "Slice", "BinOp", "UnaryOp",
    "BoolOp", "And", "Or", "Compare", "IfExp", "List", "Tuple", "Dict", "Call", "keyword",
    "Add", "Sub", "Mult", "Div", "FloorDiv", "Mod", "UAdd", "USub", "Not",
    "Eq", "NotEq", "Lt", "LtE", "Gt", "GtE", "Is", "IsNot", "In", "NotIn"]

/-- The name of the kind of a term. -/
def kind : Term → String
  | .literal _ => "Constant"
  | .name _ => "Name"
  | .attr _ _ => "Attribute"
  | .subscript _ _ => "Subscript"
  | .slice _ _ _ => "Slice"
  | .unary _ _ | .otherUnary _ _ => "UnaryOp"
  | .binary _ _ _ | .otherBinary _ _ _ => "BinOp"
  | .bool _ _ => "BoolOp"
  | .compare _ _ => "Compare"
  | .ifElse _ _ _ => "IfExp"
  | .list _ => "List"
  | .tuple _ => "Tuple"
  | .dict _ => "Dict"
  | .call _ _ _ => "Call"
  | .starred _ => "Starred"
  | .other k => k.name

def Node.kind : Node → String
  | .term t => t.kind
  | .operator op => op.name
  | .keyword _ _ => "keyword"

/-- What is wrong with a node itself. -/
inductive Offends : Node → Offence → Prop where
  | kind {n : Node} (h : n.kind ∉ allowedKinds) : Offends n (.unsupported n.kind)
  | name {id : String} (h : id.startsWith "_" = true) : Offends (.term (.name id)) (.privateName id)
  | field {e : Term} {field : String}
      (h : field.startsWith "_" = true ∨ field = "format" ∨ field = "format_map") :
      Offends (.term (.attr e field)) (.attribute field)
  | keyword {value : Term} : Offends (.keyword none value) .unpacking
  | dict {items : List (Option Term × Term)} {value : Term} (h : (none, value) ∈ items) :
      Offends (.term (.dict items)) .unpacking

theorem not_mem_allowedKinds_otherKind (k : OtherKind) : k.name ∉ allowedKinds := by
  cases k <;> decide

theorem not_mem_allowedKinds_otherOp (op : OtherOp) : op.name ∉ allowedKinds := by
  cases op <;> decide

theorem offence?_of_offends {n : Node} {o : Offence} (h : Offends n o) : n.offence? = some o := by
  cases h with
  | kind h =>
    cases n with
    | operator op => rfl
    | keyword => exact absurd (show "keyword" ∈ allowedKinds by decide) h
    | term t =>
      cases t with
      | starred e => rfl
      | other k => rfl
      | _ => exact absurd (by simp [Node.kind, Term.kind, allowedKinds]) h
  | name h => simp [Node.offence?, isPrivate, h]
  | @field e field h =>
    have hfield : (isPrivate field || isBlocked field) = true := by
      simpa [isPrivate, isBlocked] using h
    simp [Node.offence?, hfield]
  | keyword => rfl
  | @dict items value h =>
    have hany : items.any (·.1.isNone) = true := List.any_eq_true.mpr ⟨_, h, rfl⟩
    simp [Node.offence?, hany]

theorem offends_of_offence? {n : Node} {o : Offence} (h : n.offence? = some o) : Offends n o := by
  cases n with
  | operator op =>
    cases h
    exact .kind (not_mem_allowedKinds_otherOp op)
  | keyword name value =>
    cases name with
    | none =>
      cases h
      exact .keyword
    | some name => cases h
  | term t =>
    cases t with
    | other k =>
      cases h
      exact .kind (not_mem_allowedKinds_otherKind k)
    | starred e =>
      cases h
      exact .kind (by simp [Node.kind, Term.kind, allowedKinds])
    | name id =>
      obtain ⟨hid, h⟩ := Option.ite_none_right_eq_some.mp h
      cases h
      exact .name hid
    | attr e field =>
      obtain ⟨hfield, h⟩ := Option.ite_none_right_eq_some.mp h
      cases h
      exact .field (by simpa [isPrivate, isBlocked] using hfield)
    | dict items =>
      obtain ⟨hany, h⟩ := Option.ite_none_right_eq_some.mp h
      cases h
      obtain ⟨⟨key, value⟩, hmem, hkey⟩ := List.any_eq_true.mp hany
      obtain rfl := Option.isNone_iff_eq_none.mp hkey
      exact .dict hmem
    | _ => cases h

/-- **What the check looks for at a node is what is wrong with it.** -/
theorem offence?_eq_some_iff {n : Node} {o : Offence} : n.offence? = some o ↔ Offends n o :=
  ⟨offends_of_offence?, offence?_of_offends⟩

theorem offence?_eq_none_iff {n : Node} : n.offence? = none ↔ ∀ o, ¬ Offends n o := by
  simp only [← offence?_eq_some_iff]
  exact Option.eq_none_iff_forall_ne_some

/-! ## Levels -/

/-- The nodes right below some nodes, from left to right. -/
def nextLevel (ns : List Node) : List Node := ns.flatMap Node.children

/-- The nodes so many steps below some nodes, from left to right. -/
def level : Nat → List Node → List Node
  | 0, ns => ns
  | d + 1, ns => level d (nextLevel ns)

theorem level_nil (d : Nat) : level d [] = [] := by
  induction d with
  | zero => rfl
  | succ d ih => exact ih

/-- A node of the tree below a node, at any depth. -/
def Node.Within : Node → Node → Prop := Relation.ReflTransGen fun n m => m ∈ n.children

theorem exists_mem_level_iff {ns : List Node} {m : Node} :
    (∃ d, m ∈ level d ns) ↔ ∃ n ∈ ns, n.Within m := by
  constructor
  · rintro ⟨d, hm⟩
    induction d generalizing ns with
    | zero => exact ⟨m, hm, .refl⟩
    | succ d ih =>
      obtain ⟨c, hc, hcm⟩ := ih hm
      obtain ⟨n, hn, hnc⟩ := List.mem_flatMap.mp hc
      exact ⟨n, hn, .head hnc hcm⟩
  · rintro ⟨n, hn, hm⟩
    induction hm using Relation.ReflTransGen.head_induction_on generalizing ns with
    | refl => exact ⟨0, hn⟩
    | head hnc _ ih =>
      obtain ⟨d, hd⟩ := ih (List.mem_flatMap.mpr ⟨_, hn, hnc⟩)
      exact ⟨d + 1, hd⟩

/-! ## The number of nodes -/

/-- The number of nodes of the tree below a node, with the node. -/
def Node.size : Node → Nat
  | .term t => t.size
  | .operator _ => 1
  | .keyword _ value => value.size + 1

theorem sizeAll_eq (ts : List Term) : sizeAll ts = (ts.map size).sum := by
  induction ts with
  | nil => rfl
  | cons t ts ih => rw [sizeAll, ih, List.map_cons, List.sum_cons]

theorem sizeOption_eq (t : Option Term) : sizeOption t = (t.toList.map size).sum := by
  cases t <;> simp [sizeOption]

theorem sizeComparisons_eq (ts : List (CompareOp × Term)) :
    sizeComparisons ts = (ts.map fun r => r.2.size).sum := by
  induction ts with
  | nil => rfl
  | cons t ts ih => rw [sizeComparisons, ih, List.map_cons, List.sum_cons]

theorem sizeEntries_eq (items : List (Option Term × Term)) :
    sizeEntries items =
      ((items.filterMap (·.1)).map size).sum + (items.map fun i => i.2.size).sum := by
  induction items with
  | nil => rfl
  | cons i items ih =>
    obtain ⟨key, value⟩ := i
    cases key <;> simp [sizeEntries, sizeOption, ih] <;> omega

theorem sizeKeywords_eq (keywords : List (Option String × Term)) :
    sizeKeywords keywords = (keywords.map fun k => k.2.size + 1).sum := by
  induction keywords with
  | nil => rfl
  | cons k keywords ih => rw [sizeKeywords, ih, List.map_cons, List.sum_cons]

/-- A tree is a node and the trees right below it. -/
theorem Node.size_eq (n : Node) : n.size = 1 + (n.children.map Node.size).sum := by
  have hterm : Node.size ∘ Node.term = Term.size := rfl
  cases n with
  | operator op => rfl
  | keyword name value => simp [Node.size, Node.children, Nat.add_comm]
  | term t =>
    cases t with
    | slice lower upper step =>
      simp only [Node.size, Term.size, Node.children, sizeOption_eq, List.map_map, List.map_append,
        List.sum_append, hterm]
      omega
    | bool _ es | list es | tuple es =>
      simp only [Node.size, Term.size, Node.children, sizeAll_eq, List.map_map, hterm]
      omega
    | compare e rest =>
      simp only [Node.size, Term.size, Node.children, sizeComparisons_eq, List.map_cons, List.sum_cons,
        List.map_map]
      have hrest : (Node.size ∘ fun r : CompareOp × Term => Node.term r.2) = fun r => r.2.size := rfl
      rw [hrest]
      omega
    | dict items =>
      have hkeys : items.filterMap (fun i => i.1.map Node.term) =
          (items.filterMap (·.1)).map Node.term := by
        rw [List.map_filterMap]
      have hvalues : (Node.size ∘ fun i : Option Term × Term => Node.term i.2) =
          fun i => i.2.size := rfl
      simp only [Node.size, Term.size, Node.children, sizeEntries_eq, List.map_append, List.sum_append,
        hkeys, List.map_map, hterm, hvalues]
      omega
    | call f args keywords =>
      have hkeywords : (Node.size ∘ fun k : Option String × Term => Node.keyword k.1 k.2) =
          fun k => k.2.size + 1 := rfl
      simp only [Node.size, Term.size, Node.children, sizeAll_eq, sizeKeywords_eq, List.map_cons,
        List.sum_cons, List.map_append, List.sum_append, List.map_map, hterm, hkeywords,
        List.cons_append]
      omega
    | _ =>
      simp only [Node.size, Term.size, Node.children, List.map_cons, List.map_nil, List.sum_cons,
        List.sum_nil]
      omega

/-- The number of nodes of some trees. -/
def total (ns : List Node) : Nat := (ns.map Node.size).sum

theorem total_eq (ns : List Node) : total ns = ns.length + total (nextLevel ns) := by
  induction ns with
  | nil => rfl
  | cons n ns ih =>
    unfold total nextLevel at *
    rw [List.map_cons, List.sum_cons, ih, n.size_eq, List.length_cons, List.flatMap_cons,
      List.map_append, List.sum_append]
    omega

/-! ## The queue -/

/-- The queue comes to the nodes that stand in front, and has then those below them at its end. -/
theorem checkQueue_append {fuel : Nat} (ns next : List Node) (h : ns.length ≤ fuel) :
    checkQueue fuel (ns ++ next) =
      (ns.findSome? Node.offence?).or (checkQueue (fuel - ns.length) (next ++ nextLevel ns)) := by
  induction ns generalizing fuel next with
  | nil => simp [nextLevel]
  | cons n ns ih =>
    obtain ⟨fuel, rfl⟩ : ∃ k, fuel = k + 1 := ⟨fuel - 1, by rw [List.length_cons] at h; omega⟩
    rw [List.cons_append, checkQueue, List.findSome?_cons]
    cases hn : n.offence? with
    | some o => rfl
    | none =>
      have hlen : ns.length ≤ fuel := Nat.le_of_succ_le_succ h
      simp only
      rw [List.append_assoc, ih _ hlen, List.length_cons, Nat.add_sub_add_right, List.append_assoc]
      rfl

theorem checkQueue_nil (fuel : Nat) : checkQueue fuel [] = none := by
  cases fuel <;> rfl

/-- **The queue finds what the first level with an offence has first.** -/
theorem checkQueue_eq_some_iff {fuel : Nat} {ns : List Node} (h : total ns ≤ fuel) {o : Offence} :
    checkQueue fuel ns = some o ↔ ∃ d, (level d ns).findSome? Node.offence? = some o ∧
      ∀ d' < d, (level d' ns).findSome? Node.offence? = none := by
  induction fuel using Nat.strongRecOn generalizing ns with
  | _ fuel ih =>
    cases ns with
    | nil => simp [checkQueue_nil, level_nil]
    | cons n ns =>
      have htotal := total_eq (n :: ns)
      have hlen : (n :: ns).length ≤ fuel := by omega
      have hbelow := ih (fuel - (n :: ns).length) (by rw [List.length_cons] at *; omega)
        (show total (nextLevel (n :: ns)) ≤ fuel - (n :: ns).length by omega)
      have hqueue := checkQueue_append (n :: ns) [] hlen
      rw [List.append_nil, List.nil_append] at hqueue
      rw [hqueue, Option.or_eq_some_iff, hbelow]
      constructor
      · rintro (hfirst | ⟨hnone, d, hd, hbefore⟩)
        · exact ⟨0, hfirst, fun d' hd' => absurd hd' (Nat.not_lt_zero _)⟩
        · refine ⟨d + 1, hd, fun d' hd' => ?_⟩
          cases d' with
          | zero => exact hnone
          | succ d' => exact hbefore d' (Nat.lt_of_succ_lt_succ hd')
      · rintro ⟨d, hd, hbefore⟩
        cases d with
        | zero => exact .inl hd
        | succ d =>
          exact .inr ⟨hbefore 0 (Nat.succ_pos d), d, hd, fun d' hd' =>
            hbefore (d' + 1) (Nat.succ_lt_succ hd')⟩

/-! ## The check -/

/-- The offence that comes first in the tree of a term, level by level and from left to right. -/
def FirstOffence (t : Term) (o : Offence) : Prop :=
  ∃ d before n behind, level d [.term t] = before ++ n :: behind ∧ Offends n o ∧
    (∀ m ∈ before, ∀ o', ¬ Offends m o') ∧
    ∀ d' < d, ∀ m ∈ level d' [.term t], ∀ o', ¬ Offends m o'

/-- **The check finds the offence that comes first.** -/
theorem check_eq_some_iff {t : Term} {o : Offence} : t.check = some o ↔ FirstOffence t o := by
  have htotal : total [.term t] ≤ t.size := by simp [total, Node.size]
  rw [check, checkQueue_eq_some_iff htotal]
  simp only [List.findSome?_eq_none_iff, offence?_eq_none_iff, List.findSome?_eq_some_iff,
    offence?_eq_some_iff]
  constructor
  · rintro ⟨d, ⟨before, n, behind, hlevel, hn, hbefore⟩, hlower⟩
    exact ⟨d, before, n, behind, hlevel, hn, hbefore, hlower⟩
  · rintro ⟨d, before, n, behind, hlevel, hn, hbefore, hlower⟩
    exact ⟨d, ⟨before, n, behind, hlevel, hn, hbefore⟩, hlower⟩

/-- **The check finds something if any node of the tree offends.** -/
theorem check_eq_none_iff {t : Term} :
    t.check = none ↔ ∀ n, Node.Within (.term t) n → ∀ o, ¬ Offends n o := by
  have hwithin : ∀ n, (∃ d, n ∈ level d [.term t]) ↔ Node.Within (.term t) n := by
    intro n
    rw [exists_mem_level_iff]
    simp
  constructor
  · intro hnone n hn o ho
    -- There is a first level that has an offence.
    have hsome : ∃ d, ((level d [.term t]).findSome? Node.offence?).isSome := by
      obtain ⟨d, hd⟩ := (hwithin n).mpr hn
      exact ⟨d, List.findSome?_isSome_iff.mpr ⟨n, hd, by rw [offence?_of_offends ho]; rfl⟩⟩
    classical
    obtain ⟨o', ho'⟩ := Option.isSome_iff_exists.mp (Nat.find_spec hsome)
    have hfound : t.check = some o' := by
      rw [check, checkQueue_eq_some_iff (by simp [total, Node.size])]
      refine ⟨_, ho', fun d' hd' => ?_⟩
      simpa using Nat.find_min hsome hd'
    rw [hnone] at hfound
    cases hfound
  · intro hall
    refine Option.eq_none_iff_forall_ne_some.mpr fun o ho => ?_
    obtain ⟨d, before, n, behind, hlevel, hn, -⟩ := check_eq_some_iff.mp ho
    exact hall n ((hwithin n).mp ⟨d, by simp [hlevel]⟩) o hn

/-! ## Terms without offences -/

/-- No node of the tree below a node offends. -/
def Node.Clean (n : Node) : Prop := ∀ m, n.Within m → m.offence? = none

theorem Node.Clean.offence? {n : Node} (h : n.Clean) : n.offence? = none := h n .refl

theorem Node.Clean.child {n m : Node} (h : n.Clean) (hm : m ∈ n.children) : m.Clean :=
  fun k hk => h k (.head hm hk)

open Wording.Expr in
mutual

/-- **A term without offences is an expression.** -/
theorem exists_ofTerm? : (t : Term) → Node.Clean (.term t) → ∃ e, ofTerm? t = some e
  | .literal l, _ => ⟨.literal l, rfl⟩
  | .name id, h => by
    have hid : isPrivate id = false := by simpa [Node.offence?] using h.offence?
    exact ⟨.name id, by simp [ofTerm?, hid]⟩
  | .attr e field, h => by
    have hfield : (isPrivate field || isBlocked field) = false := by
      simpa [Node.offence?] using h.offence?
    obtain ⟨e', he⟩ := exists_ofTerm? e (h.child (by simp [Node.children]))
    exact ⟨.attr e' field, by simp [ofTerm?, hfield, he]⟩
  | .subscript e key, h => by
    obtain ⟨e', he⟩ := exists_ofTerm? e (h.child (by simp [Node.children]))
    obtain ⟨k', hk⟩ := exists_ofTerm? key (h.child (by simp [Node.children]))
    exact ⟨.subscript e' k', by simp [ofTerm?, he, hk]⟩
  | .slice lower upper step, h => by
    obtain ⟨a, ha⟩ := exists_ofOption? lower fun t ht =>
      h.child (by simp [Node.children, Option.mem_def.mp ht])
    obtain ⟨b, hb⟩ := exists_ofOption? upper fun t ht =>
      h.child (by simp [Node.children, Option.mem_def.mp ht])
    obtain ⟨c, hc⟩ := exists_ofOption? step fun t ht =>
      h.child (by simp [Node.children, Option.mem_def.mp ht])
    exact ⟨.slice a b c, by simp [ofTerm?, ha, hb, hc]⟩
  | .unary op e, h => by
    obtain ⟨e', he⟩ := exists_ofTerm? e (h.child (by simp [Node.children]))
    exact ⟨.unary op e', by simp [ofTerm?, he]⟩
  | .binary op a b, h => by
    obtain ⟨a', ha⟩ := exists_ofTerm? a (h.child (by simp [Node.children]))
    obtain ⟨b', hb⟩ := exists_ofTerm? b (h.child (by simp [Node.children]))
    exact ⟨.binary op a' b', by simp [ofTerm?, ha, hb]⟩
  | .bool op es, h => by
    obtain ⟨es', hes⟩ := exists_ofAll? es fun t ht => h.child (by simp [Node.children, ht])
    exact ⟨.bool op es', by simp [ofTerm?, hes]⟩
  | .compare e rest, h => by
    obtain ⟨e', he⟩ := exists_ofTerm? e (h.child (by simp [Node.children]))
    obtain ⟨rest', hrest⟩ := exists_ofComparisons? rest fun r hr =>
      h.child (by
        simp only [Node.children, List.mem_cons, List.mem_map]
        exact .inr ⟨r, hr, rfl⟩)
    exact ⟨.compare e' rest', by simp [ofTerm?, he, hrest]⟩
  | .ifElse test body orelse, h => by
    obtain ⟨a, ha⟩ := exists_ofTerm? test (h.child (by simp [Node.children]))
    obtain ⟨b, hb⟩ := exists_ofTerm? body (h.child (by simp [Node.children]))
    obtain ⟨c, hc⟩ := exists_ofTerm? orelse (h.child (by simp [Node.children]))
    exact ⟨.ifElse a b c, by simp [ofTerm?, ha, hb, hc]⟩
  | .list es, h => by
    obtain ⟨es', hes⟩ := exists_ofAll? es fun t ht => h.child (by simp [Node.children, ht])
    exact ⟨.list es', by simp [ofTerm?, hes]⟩
  | .tuple es, h => by
    obtain ⟨es', hes⟩ := exists_ofAll? es fun t ht => h.child (by simp [Node.children, ht])
    exact ⟨.tuple es', by simp [ofTerm?, hes]⟩
  | .dict items, h => by
    have hkeys : ∀ i ∈ items, i.1.isSome = true := by
      rintro ⟨key, value⟩ hi
      cases key with
      | some key => rfl
      | none => exact absurd (.dict hi) (offence?_eq_none_iff.mp h.offence? .unpacking)
    obtain ⟨items', hitems⟩ := exists_ofEntries? items fun i hi => by
      obtain ⟨key, hkey⟩ := Option.isSome_iff_exists.mp (hkeys i hi)
      refine ⟨key, hkey, h.child ?_, h.child ?_⟩
      · simp only [Node.children, List.mem_append, List.mem_filterMap]
        exact .inl ⟨i, hi, by rw [hkey]; rfl⟩
      · simp only [Node.children, List.mem_append, List.mem_map]
        exact .inr ⟨i, hi, rfl⟩
    exact ⟨.dict items', by simp [ofTerm?, hitems]⟩
  | .call f args keywords, h => by
    obtain ⟨f', hf⟩ := exists_ofTerm? f (h.child (by simp [Node.children]))
    obtain ⟨args', hargs⟩ := exists_ofAll? args fun t ht => h.child (by simp [Node.children, ht])
    obtain ⟨keywords', hkeywords⟩ := exists_ofKeywords? keywords fun k hk =>
      h.child (by
        simp only [Node.children, List.mem_append, List.mem_cons, List.mem_map]
        exact .inr ⟨k, hk, rfl⟩)
    exact ⟨.call f' args' keywords', by simp [ofTerm?, hf, hargs, hkeywords]⟩
  | .starred _, h => absurd h.offence? nofun
  | .otherUnary op _, h =>
    absurd (h.child (m := .operator op) (by simp [Node.children])).offence? nofun
  | .otherBinary op _ _, h =>
    absurd (h.child (m := .operator op) (by simp [Node.children])).offence? nofun
  | .other _, h => absurd h.offence? nofun

theorem exists_ofOption? : (t : Option Term) → (∀ u ∈ t, Node.Clean (.term u)) →
    ∃ e, ofOption? t = some e
  | none, _ => ⟨none, rfl⟩
  | some t, h => by
    obtain ⟨e, he⟩ := exists_ofTerm? t (h t rfl)
    exact ⟨some e, by simp [ofOption?, he]⟩

theorem exists_ofAll? : (ts : List Term) → (∀ t ∈ ts, Node.Clean (.term t)) →
    ∃ es, ofAll? ts = some es
  | [], _ => ⟨[], rfl⟩
  | t :: ts, h => by
    obtain ⟨e, he⟩ := exists_ofTerm? t (h t List.mem_cons_self)
    obtain ⟨es, hes⟩ := exists_ofAll? ts fun u hu => h u (List.mem_cons_of_mem t hu)
    exact ⟨e :: es, by simp [ofAll?, he, hes]⟩

theorem exists_ofComparisons? : (ts : List (CompareOp × Term)) →
    (∀ r ∈ ts, Node.Clean (.term r.2)) → ∃ es, ofComparisons? ts = some es
  | [], _ => ⟨[], rfl⟩
  | (op, t) :: ts, h => by
    obtain ⟨e, he⟩ := exists_ofTerm? t (h _ List.mem_cons_self)
    obtain ⟨es, hes⟩ := exists_ofComparisons? ts fun r hr => h r (List.mem_cons_of_mem _ hr)
    exact ⟨(op, e) :: es, by simp [ofComparisons?, he, hes]⟩

theorem exists_ofEntries? : (items : List (Option Term × Term)) →
    (∀ i ∈ items, ∃ key, i.1 = some key ∧ Node.Clean (.term key) ∧ Node.Clean (.term i.2)) →
    ∃ es, ofEntries? items = some es
  | [], _ => ⟨[], rfl⟩
  | (none, _) :: _, h => by
    obtain ⟨key, hkey, -⟩ := h _ List.mem_cons_self
    cases hkey
  | (some k, t) :: items, h => by
    obtain ⟨key, hkey, hclean, hvalue⟩ := h _ List.mem_cons_self
    cases hkey
    obtain ⟨k', hk⟩ := exists_ofTerm? k hclean
    obtain ⟨e, he⟩ := exists_ofTerm? t hvalue
    obtain ⟨es, hes⟩ := exists_ofEntries? items fun i hi => h i (List.mem_cons_of_mem _ hi)
    exact ⟨(k', e) :: es, by simp [ofEntries?, ofOption?, hk, he, hes]⟩

theorem exists_ofKeywords? : (keywords : List (Option String × Term)) →
    (∀ k ∈ keywords, Node.Clean (.keyword k.1 k.2)) → ∃ es, ofKeywords? keywords = some es
  | [], _ => ⟨[], rfl⟩
  | (none, _) :: _, h => absurd (h _ List.mem_cons_self).offence? nofun
  | (some k, t) :: keywords, h => by
    obtain ⟨e, he⟩ := exists_ofTerm? t
      ((h _ List.mem_cons_self).child (by simp [Node.children]))
    obtain ⟨es, hes⟩ := exists_ofKeywords? keywords fun k hk => h k (List.mem_cons_of_mem _ hk)
    exact ⟨(k, e) :: es, by simp [ofKeywords?, he, hes]⟩

end

theorem clean_of_check {t : Term} (h : t.check = none) : Node.Clean (.term t) := fun n hn =>
  offence?_eq_none_iff.mpr (check_eq_none_iff.mp h n hn)

end Wording.Term
