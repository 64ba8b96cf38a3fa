import Wording.Catalog.Basic
import Wording.Proofs.Value.Keyed

/-!
# Merging catalogs, key by key

What is found at a key of a merged catalog depends on what both catalogs hold at that key only
(`find?_merge`). This asks for clean catalogs: no key twice and no leaf that says nothing, at any
depth. Whatever is merged is clean (`clean_merge`), so every catalog that is built by merging is.

* `find?_merge`: look-up in a merged catalog
* `clean_merge` / `clean_mergeAll`: merged catalogs are clean
* `merge_nil`: a clean catalog is copied as it is
-/

namespace Wording

/-! ## Clean catalogs -/

mutual

/-- No leaf says nothing, and no key comes twice. -/
def CatalogNode.Clean : CatalogNode → Prop
  | .leaf v => v ≠ .null
  | .node children => CleanEntries children

def CleanEntries : List (Value × CatalogNode) → Prop
  | [] => True
  | (k, n) :: es => n.Clean ∧ (∀ e ∈ es, e.1.keyEq k = false) ∧ CleanEntries es

end

namespace Catalog

/-- A catalog without repeated keys and without leaves that say nothing. -/
def Clean (c : Catalog) : Prop := CleanEntries c

theorem Clean.nil : Clean [] := trivial

theorem clean_cons_iff {k : Value} {n : CatalogNode} {es : Catalog} :
    Clean ((k, n) :: es) ↔ n.Clean ∧ (∀ e ∈ es, e.1.keyEq k = false) ∧ Clean es := Iff.rfl

/-! ## Look-up -/

theorem find?_nil (k : Value) : find? [] k = none := rfl

theorem find?_cons (e : Value × CatalogNode) (c : Catalog) (k : Value) :
    find? (e :: c) k = if e.1.keyEq k then some e.2 else find? c k := Keyed.find?_cons e c k

/-- Two forms of a key find the same. -/
theorem find?_congr {k k' : Value} (h : k.keyEq k' = true) (c : Catalog) :
    find? c k = find? c k' := Keyed.find?_congr h c

/-- No other entry of a clean catalog is found at the key of its first one. -/
theorem find?_eq_none_of_keyEq {rest : Catalog} {k k' : Value}
    (hrest : ∀ e ∈ rest, e.1.keyEq k = false) (hk : k.keyEq k' = true) : find? rest k' = none := by
  rw [← find?_congr hk]
  exact Keyed.find?_eq_none_of_forall hrest

/-- What a catalog has entry by entry is had by what is found. -/
theorem of_find? {P : Catalog → Prop} {Q : CatalogNode → Prop}
    (hP : ∀ e es, P (e :: es) → Q e.2 ∧ P es) {c : Catalog} {k : Value} {n : CatalogNode} (hc : P c)
    (h : find? c k = some n) : Q n := by
  induction c with
  | nil => cases h
  | cons e es ih =>
    obtain ⟨hn, hes⟩ := hP e es hc
    rw [find?_cons] at h
    by_cases hk : e.1.keyEq k = true
    · rw [if_pos hk] at h
      cases h
      exact hn
    · rw [if_neg hk] at h
      exact ih hes h

theorem clean_of_find? {c : Catalog} {k : Value} {n : CatalogNode} (hc : Clean c)
    (h : find? c k = some n) : n.Clean :=
  of_find? (fun _ _ hc => ⟨(clean_cons_iff.mp hc).1, (clean_cons_iff.mp hc).2.2⟩) hc h

theorem clean_below {c : Catalog} (hc : Clean c) (k : Value) : Clean (below c k) := by
  unfold below
  cases h : find? c k with
  | none => exact .nil
  | some n =>
    cases n with
    | leaf v => exact .nil
    | node children => exact clean_of_find? hc h

/-! ## Putting -/

theorem find?_put (k k' : Value) (n : CatalogNode) (c : Catalog) :
    find? (put k n c) k' = if k.keyEq k' then some n else find? c k' := Keyed.find?_put k k' n c

theorem put_of_find?_eq_none {k : Value} {n : CatalogNode} {c : Catalog} (h : find? c k = none) :
    put k n c = c ++ [(k, n)] := Keyed.put_of_find?_eq_none h

theorem clean_put {k : Value} {n : CatalogNode} {c : Catalog} (hn : n.Clean) (hc : Clean c) :
    Clean (put k n c) := by
  induction c with
  | nil => exact clean_cons_iff.mpr ⟨hn, by simp, .nil⟩
  | cons e es ih =>
    obtain ⟨he, hes, hrest⟩ := clean_cons_iff.mp hc
    rw [put, Keyed.put]
    by_cases hk : e.1.keyEq k = true
    · -- The entry keeps the form of its key, and so do the others.
      rw [if_pos hk]
      exact clean_cons_iff.mpr ⟨hn, hes, hrest⟩
    · rw [if_neg hk]
      have hke : k.keyEq e.1 = false := by
        rw [Value.keyEq_comm]
        simpa using hk
      exact clean_cons_iff.mpr ⟨he, Keyed.forall_mem_put (p := (·.keyEq e.1 = false)) hke hes,
        ih hrest⟩

/-! ## Merging -/

/-- **What is merged into a clean catalog leaves it clean.** -/
theorem clean_merge (target source : Catalog) (h : Clean target) : Clean (merge target source) := by
  fun_induction merge target source with
  | case1 => exact h
  | case2 target k rest ih => exact ih h
  | case3 target k v rest hv ih => exact ih (clean_put hv h)
  | case4 target k children rest ihc ih => exact ih (clean_put (ihc (clean_below h k)) h)

theorem clean_mergeAll (sources : List Catalog) : Clean (mergeAll [] sources) := by
  suffices ∀ target, Clean target → Clean (mergeAll target sources) from this [] .nil
  induction sources with
  | nil => exact fun _ h => h
  | cons s sources ih => exact fun target h => ih _ (clean_merge target s h)

/-- What lies at a key where one node is merged into another. -/
def mergeNode : Option CatalogNode → Option CatalogNode → Option CatalogNode
  | below, none => below
  | _, some (.leaf v) => some (.leaf v)
  | some (.node below), some (.node above) => some (.node (merge below above))
  | _, some (.node above) => some (.node (merge [] above))

theorem mergeNode_node (t : Option CatalogNode) (c : Catalog) (k : Value) (h : find? c k = t)
    (above : Catalog) :
    mergeNode t (some (.node above)) = some (.node (merge (below c k) above)) := by
  unfold below
  rw [h]
  match t with
  | none => rfl
  | some (.leaf _) => rfl
  | some (.node _) => rfl

/-- **A merged catalog holds at each key what the two catalogs hold there, merged.** -/
theorem find?_merge (target source : Catalog) (h : Clean source) (k : Value) :
    find? (merge target source) k = mergeNode (find? target k) (find? source k) := by
  fun_induction merge target source with
  | case1 => rw [find?_nil, mergeNode]
  | case2 target k' rest => exact absurd rfl (clean_cons_iff.mp h).1
  | case3 target k' v rest hv ih =>
    obtain ⟨_, hrest, hclean⟩ := clean_cons_iff.mp h
    rw [ih hclean, find?_put, find?_cons]
    by_cases hk : k'.keyEq k = true
    · -- The key does not come again, so the rest leaves what has been put there.
      rw [if_pos hk, if_pos hk, find?_eq_none_of_keyEq hrest hk]
      rfl
    · rw [if_neg hk, if_neg hk]
  | case4 target k' children rest ihc ih =>
    obtain ⟨_, hrest, hclean⟩ := clean_cons_iff.mp h
    rw [ih hclean, find?_put, find?_cons]
    by_cases hk : k'.keyEq k = true
    · rw [if_pos hk, if_pos hk, find?_eq_none_of_keyEq hrest hk,
        mergeNode_node _ target k' (find?_congr hk target)]
      rfl
    · rw [if_neg hk, if_neg hk]

/-! ## Copying -/

/-- Keys of the rest of a clean catalog are new behind its first entry, too. -/
theorem find?_put_eq_none {target rest : Catalog} {k : Value} {n : CatalogNode}
    (hrest : ∀ e ∈ rest, e.1.keyEq k = false) (hd : ∀ e ∈ rest, find? target e.1 = none) :
    ∀ e ∈ rest, find? (put k n target) e.1 = none := by
  intro e he
  rw [find?_put, Value.keyEq_comm, hrest e he, hd e he]
  rfl

/-- A clean catalog with new keys is put behind the catalog that it is merged into. -/
theorem merge_eq_append {target source : Catalog} (h : Clean source)
    (hd : ∀ e ∈ source, find? target e.1 = none) : merge target source = target ++ source := by
  fun_induction merge target source with
  | case1 => rw [List.append_nil]
  | case2 => exact absurd rfl (clean_cons_iff.mp h).1
  | case3 target k v rest hv ih =>
    obtain ⟨_, hrest, hclean⟩ := clean_cons_iff.mp h
    have hk : find? target k = none := hd (k, .leaf v) (by simp)
    have hd' : ∀ e ∈ rest, find? target e.1 = none := fun e he => hd e (by simp [he])
    rw [ih hclean (find?_put_eq_none hrest hd'), put_of_find?_eq_none hk, List.append_assoc]
    rfl
  | case4 target k children rest ihc ih =>
    obtain ⟨hn, hrest, hclean⟩ := clean_cons_iff.mp h
    have hk : find? target k = none := hd (k, .node children) (by simp)
    have hd' : ∀ e ∈ rest, find? target e.1 = none := fun e he => hd e (by simp [he])
    have hbelow : below target k = [] := by
      unfold below
      rw [hk]
    rw [hbelow] at ihc
    rw [hbelow, ihc hn fun _ _ => rfl, List.nil_append] at ih ⊢
    rw [ih hclean (find?_put_eq_none hrest hd'), put_of_find?_eq_none hk, List.append_assoc]
    rfl

/-- **A clean catalog is copied as it is.** -/
theorem merge_nil {c : Catalog} (h : Clean c) : merge [] c = c := by
  rw [merge_eq_append h fun _ _ => rfl, List.nil_append]

/-- A clean dictionary that is not merged into another one is copied. -/
theorem mergeNode_of_ne_node {below : Option CatalogNode} {above : Catalog}
    (hb : ∀ c, below ≠ some (.node c)) (h : Clean above) :
    mergeNode below (some (.node above)) = some (.node above) := by
  match below, hb with
  | none, _ =>
    rw [mergeNode, merge_nil h]
    nofun
  | some (.leaf v), _ =>
    rw [mergeNode, merge_nil h]
    nofun
  | some (.node c), hb => exact absurd rfl (hb c)

end Catalog

end Wording
