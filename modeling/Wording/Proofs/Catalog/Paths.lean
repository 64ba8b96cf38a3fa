import Wording.Proofs.Catalog.Merge

/-!
# Catalogs by paths

What a catalog holds is told path by path: at each path lies a dictionary, a value, or nothing; a leaf
that says nothing counts as nothing. Two catalogs that hold the same at each path are the same up to
the order of keys.

What lies at a path of a merged catalog is what the upper one holds there; else what the lower one
does, unless the upper one has a value on the way. Catalogs that nowhere hold different things may be
merged in any order, and nothing that one of them holds is lost.

* `at?_merge`: paths of a merged catalog
* `at?_foldl_merge`: paths of a catalog into which compatible ones have been merged
* `sameUpToOrder_of_perm`, `at?_of_mem`, `at?_of_target`: what follows for their order
-/

namespace Wording

/-- What lies at a path. -/
inductive Held where
  | dict
  | scalar (v : Value)

mutual

/-- No key comes twice, at any depth. -/
def CatalogNode.Distinct : CatalogNode → Prop
  | .leaf _ => True
  | .node children => DistinctEntries children

def DistinctEntries : List (Value × CatalogNode) → Prop
  | [] => True
  | (k, n) :: es => n.Distinct ∧ (∀ e ∈ es, e.1.keyEq k = false) ∧ DistinctEntries es

end

namespace Catalog

variable {c d target source : Catalog} {k : Value} {p : List Value}

/-- A catalog without repeated keys. -/
def Distinct (c : Catalog) : Prop := DistinctEntries c

theorem distinct_cons_iff {n : CatalogNode} {es : Catalog} :
    Distinct ((k, n) :: es) ↔ n.Distinct ∧ (∀ e ∈ es, e.1.keyEq k = false) ∧ Distinct es := Iff.rfl

/-- What a catalog says at a key. -/
def said? (c : Catalog) (k : Value) : Option CatalogNode :=
  match c.find? k with
  | some (.leaf .null) => none
  | n => n

theorem distinct_of_find? {n : CatalogNode} (hc : c.Distinct) (h : c.find? k = some n) :
    n.Distinct :=
  of_find? (fun _ _ hc => ⟨(distinct_cons_iff.mp hc).1, (distinct_cons_iff.mp hc).2.2⟩) hc h

theorem distinct_of_said? {n : CatalogNode} (hc : c.Distinct) (h : c.said? k = some n) :
    n.Distinct := by
  unfold said? at h
  split at h
  · cases h
  · exact distinct_of_find? hc h

theorem said?_cons (e : Value × CatalogNode) (es : Catalog) (k : Value) :
    said? (e :: es) k = if e.1.keyEq k then (match e.2 with
      | .leaf .null => none
      | n => some n) else said? es k := by
  unfold said?
  rw [find?_cons]
  by_cases hk : e.1.keyEq k = true
  · rw [if_pos hk, if_pos hk]
    obtain ⟨k', n⟩ := e
    cases n with
    | leaf v => cases v <;> rfl
    | node children => rfl
  · rw [if_neg hk, if_neg hk]

theorem said?_eq_none_of_keyEq {k' : Value} {rest : Catalog}
    (hrest : ∀ e ∈ rest, e.1.keyEq k = false) (hk : k.keyEq k' = true) : said? rest k' = none := by
  unfold said?
  rw [find?_eq_none_of_keyEq hrest hk]

/-- **A merged catalog holds at each key what the lower one holds there, merged with what the upper one
says.** -/
theorem find?_merge_said? (h : source.Distinct) (k : Value) :
    (merge target source).find? k = mergeNode (target.find? k) (source.said? k) := by
  fun_induction merge target source with
  | case1 => rfl
  | case2 target k' rest ih =>
    obtain ⟨-, hrest, hdistinct⟩ := distinct_cons_iff.mp h
    rw [ih hdistinct, said?_cons]
    by_cases hk : k'.keyEq k = true
    · rw [if_pos hk, said?_eq_none_of_keyEq hrest hk]
    · rw [if_neg hk]
  | case3 target k' v rest hv ih =>
    obtain ⟨-, hrest, hdistinct⟩ := distinct_cons_iff.mp h
    rw [ih hdistinct, said?_cons, find?_put]
    by_cases hk : k'.keyEq k = true
    · rw [if_pos hk, if_pos hk, said?_eq_none_of_keyEq hrest hk]
      cases v <;> first | exact absurd rfl hv | rfl
    · rw [if_neg hk, if_neg hk]
  | case4 target k' children rest ihc ih =>
    obtain ⟨-, hrest, hdistinct⟩ := distinct_cons_iff.mp h
    rw [ih hdistinct, said?_cons, find?_put]
    by_cases hk : k'.keyEq k = true
    · rw [if_pos hk, if_pos hk, said?_eq_none_of_keyEq hrest hk]
      exact (mergeNode_node _ target k' (find?_congr hk target) children).symm
    · rw [if_neg hk, if_neg hk]

/-- **A merged catalog says at each key what the two catalogs say there, merged.** -/
theorem said?_merge (h : source.Distinct) (k : Value) :
    (merge target source).said? k = mergeNode (target.said? k) (source.said? k) := by
  unfold said?
  rw [find?_merge_said? h]
  unfold said?
  -- A leaf that says nothing is as good as none below all else.
  rcases target.find? k with _ | ⟨⟨⟩⟩ | _ <;> rcases source.find? k with _ | ⟨⟨⟩⟩ | _ <;> rfl

/-! ## Paths -/

/-- What lies at a path. -/
def at? (c : Catalog) : List Value → Option Held
  | [] => some .dict
  | k :: p =>
    match c.said? k with
    | some (.node children) => at? children p
    | some (.leaf v) => if p.isEmpty then some (.scalar v) else none
    | none => none

/-- Whether a value lies at a path or on the way to it. -/
def ends (c : Catalog) : List Value → Bool
  | [] => false
  | k :: p =>
    match c.said? k with
    | some (.node children) => ends children p
    | some (.leaf _) => true
    | none => false

/-- The catalogs hold the same at each path: they are the same up to the order of keys. -/
def SameUpToOrder (c d : Catalog) : Prop := ∀ p, c.at? p = d.at? p

/-- Where both catalogs hold something, both hold a dictionary, or both hold the same value. -/
def Compatible (c d : Catalog) : Prop :=
  ∀ p x y, c.at? p = some x → d.at? p = some y → x = y

theorem Compatible.refl (c : Catalog) : c.Compatible c :=
  fun _ _ _ hx hy => Option.some.inj (hx.symm.trans hy)

theorem Compatible.symm (h : c.Compatible d) : d.Compatible c :=
  fun p x y hx hy => (h p y x hy hx).symm

/-- All catalogs hold a dictionary at the empty path. -/
theorem compatible_of_cons (h : ∀ k p x y, c.at? (k :: p) = some x → d.at? (k :: p) = some y → x = y) :
    c.Compatible d := by
  intro p x y hx hy
  cases p with
  | nil => exact Option.some.inj (hx.symm.trans hy)
  | cons k p => exact h k p x y hx hy

theorem compatible_empty (c : Catalog) : Compatible [] c :=
  compatible_of_cons fun _ _ _ _ hx _ => nomatch hx

/-- Whether a value lies on a path, and which. -/
theorem exists_of_ends (h : c.ends p = true) :
    ∃ q r v, p = q ++ r ∧ c.at? q = some (.scalar v) := by
  induction p generalizing c with
  | nil => cases h
  | cons k p ih =>
    unfold ends at h
    cases hs : c.said? k with
    | none =>
      rw [hs] at h
      cases h
    | some n =>
      rw [hs] at h
      cases n with
      | leaf v =>
        refine ⟨[k], p, v, rfl, ?_⟩
        unfold at?
        rw [hs]
        rfl
      | node children =>
        obtain ⟨q, r, v, rfl, hv⟩ := ih h
        refine ⟨k :: q, r, v, rfl, ?_⟩
        unfold at?
        rw [hs]
        exact hv

/-- What lies at a path lies below dictionaries. -/
theorem at?_of_append {q r : List Value} {x : Held} (hr : r ≠ []) (h : c.at? (q ++ r) = some x) :
    c.at? q = some .dict := by
  induction q generalizing c with
  | nil => rfl
  | cons k q ih =>
    rw [List.cons_append] at h
    unfold at? at h ⊢
    cases hs : c.said? k with
    | none =>
      rw [hs] at h
      cases h
    | some n =>
      rw [hs] at h
      cases n with
      | leaf v =>
        have hne : (q ++ r).isEmpty = false := by
          rw [List.isEmpty_eq_false_iff]
          exact List.append_ne_nil_of_right_ne_nil q hr
        rw [hne] at h
        cases h
      | node children => exact ih h

/-- **At a path of a merged catalog lies what the upper one holds there, else what the lower one
does, unless a value of the upper one lies on the way.** -/
theorem at?_merge (h : source.Distinct) (p : List Value) :
    (merge target source).at? p =
      (source.at? p).or (if source.ends p then none else target.at? p) := by
  induction p generalizing target source with
  | nil => rfl
  | cons k p ih =>
    have hsaid : (merge target source).said? k = _ := said?_merge h k
    unfold at? ends
    rw [hsaid]
    cases hs : source.said? k with
    | none =>
      cases target.said? k with
      | none => rfl
      | some n => cases n <;> rfl
    | some n =>
      cases n with
      | leaf v =>
        -- The value of the upper one takes the place of all that was there.
        cases target.said? k with
        | none => cases p <;> rfl
        | some n => cases n <;> cases p <;> rfl
      | node above =>
        have habove : Distinct above := distinct_of_said? h hs
        -- Only a dictionary below it has a part in what comes out.
        cases target.said? k with
        | none =>
          refine (ih habove : (merge [] above).at? p = _).trans ?_
          cases p <;> rfl
        | some n =>
          cases n with
          | leaf w =>
            refine (ih habove : (merge [] above).at? p = _).trans ?_
            cases p <;> rfl
          | node below => exact ih habove

/-! ## Compatible catalogs -/

/-- Catalogs that hold compatible dictionaries at one key are compatible. -/
theorem Compatible.nested (h : c.Compatible d) (k : Value) :
    Compatible [(k, .node c)] [(k, .node d)] := by
  refine compatible_of_cons fun k' p x y hx hy => ?_
  unfold at? at hx hy
  rw [said?_cons] at hx hy
  by_cases hk : k.keyEq k' = true
  · rw [if_pos hk] at hx hy
    exact h p x y hx hy
  · rw [if_neg hk] at hx
    cases hx

/-- Catalogs that hold something at different keys are compatible. -/
theorem compatible_of_keyEq_eq_false {k' : Value} (hk : k.keyEq k' = false) (n n' : CatalogNode) :
    Compatible [(k, n)] [(k', n')] := by
  refine compatible_of_cons fun l p x y hx hy => ?_
  unfold at? at hx hy
  rw [said?_cons] at hx hy
  by_cases hl : k.keyEq l = true
  · have hl' : ¬k'.keyEq l = true := by
      intro hl'
      rw [Value.keyEq_comm] at hl'
      rw [Value.keyEq_trans hl hl'] at hk
      cases hk
    rw [if_neg hl'] at hy
    cases hy
  · rw [if_neg hl] at hx
    cases hx

/-- Where a value of a compatible catalog ends a path at which something lies, it lies there itself. -/
theorem Compatible.at?_of_ends (h : c.Compatible d) {x : Held} (hp : c.at? p = some x)
    (hends : d.ends p = true) : d.at? p = some x := by
  obtain ⟨q, r, v, rfl, hq⟩ := exists_of_ends hends
  cases r with
  | nil =>
    rw [List.append_nil] at hp ⊢
    rw [hq, h q x (.scalar v) hp hq]
  | cons k r =>
    -- What lies on the way to something is a dictionary, in both catalogs.
    have hdict := at?_of_append (List.cons_ne_nil k r) hp
    cases h q .dict (.scalar v) hdict hq

/-- What the first of the catalogs that holds something at a path holds there. -/
def firstAt? (cs : List Catalog) (p : List Value) : Option Held := cs.findSome? (at? · p)

/-- Of catalogs that are compatible with one that holds something at a path, none holds anything else
there, or on the way. -/
theorem firstAt?_or_of_compatible {cs : List Catalog} {x : Held} (h : ∀ d ∈ cs, c.Compatible d)
    (hx : c.at? p = some x) :
    (firstAt? cs p).or (if cs.any (ends · p) then none else some x) = some x := by
  cases hfirst : firstAt? cs p with
  | some y =>
    obtain ⟨d, hd, hy⟩ := List.exists_of_findSome?_eq_some hfirst
    rw [h d hd p x y hx hy]
    rfl
  | none =>
    have hany : cs.any (ends · p) = false := by
      rw [List.any_eq_false]
      intro d hd hends
      have hnone := List.findSome?_eq_none_iff.mp hfirst d hd
      rw [(h d hd).at?_of_ends hx hends] at hnone
      cases hnone
    rw [hany]
    rfl

/-- **Merging compatible catalogs**: at a path lies what any of them holds there, else what was there
before, unless a value of one of them lies on the way. -/
theorem at?_foldl_merge {cs : List Catalog} (hdistinct : ∀ c ∈ cs, c.Distinct)
    (h : ∀ c ∈ cs, ∀ d ∈ cs, c.Compatible d) (target : Catalog) (p : List Value) :
    (cs.foldl merge target).at? p =
      (firstAt? cs p).or (if cs.any (ends · p) then none else target.at? p) := by
  induction cs generalizing target with
  | nil => rfl
  | cons c cs ih =>
    obtain ⟨hc, hcs⟩ := List.forall_mem_cons.mp hdistinct
    have hrest : ∀ d ∈ cs, ∀ e ∈ cs, d.Compatible e := fun d hd e he =>
      h d (List.mem_cons_of_mem c hd) e (List.mem_cons_of_mem c he)
    have hfirst : firstAt? (c :: cs) p = (c.at? p).or (firstAt? cs p) := by
      rw [firstAt?, List.findSome?_cons]
      cases c.at? p <;> rfl
    rw [List.foldl_cons, ih hcs hrest, at?_merge hc, hfirst, List.any_cons]
    cases hcp : c.at? p with
    | none => cases cs.any (ends · p) <;> cases c.ends p <;> rfl
    | some x =>
      exact firstAt?_or_of_compatible (fun d hd =>
        h c (List.mem_cons_self ..) d (List.mem_cons_of_mem c hd)) hcp

/-! ## Orders -/

section

variable {cs ds : List Catalog} {x : Held}

/-- **The order in which compatible catalogs are merged does not matter.** -/
theorem sameUpToOrder_of_perm (hperm : cs.Perm ds) (hdistinct : ∀ c ∈ cs, c.Distinct)
    (h : ∀ c ∈ cs, ∀ d ∈ cs, c.Compatible d) (target : Catalog) :
    SameUpToOrder (cs.foldl merge target) (ds.foldl merge target) := by
  intro p
  have hdistinct' : ∀ d ∈ ds, d.Distinct := fun d hd => hdistinct d (hperm.mem_iff.mpr hd)
  have h' : ∀ c ∈ ds, ∀ d ∈ ds, c.Compatible d := fun c hc d hd =>
    h c (hperm.mem_iff.mpr hc) d (hperm.mem_iff.mpr hd)
  rw [at?_foldl_merge hdistinct h, at?_foldl_merge hdistinct' h', hperm.any_eq]
  have hfirst : firstAt? cs p = firstAt? ds p := by
    cases hc : firstAt? cs p with
    | none =>
      symm
      exact List.findSome?_eq_none_iff.mpr fun d hd =>
        List.findSome?_eq_none_iff.mp hc d (hperm.mem_iff.mpr hd)
    | some x =>
      obtain ⟨c, hcs, hx⟩ := List.exists_of_findSome?_eq_some hc
      cases hd : firstAt? ds p with
      | none =>
        rw [List.findSome?_eq_none_iff.mp hd c (hperm.mem_iff.mp hcs)] at hx
        cases hx
      | some y =>
        obtain ⟨d, hds, hy⟩ := List.exists_of_findSome?_eq_some hd
        rw [h c hcs d (hperm.mem_iff.mpr hds) p x y hx hy]
  rw [hfirst]

/-- **What one of the catalogs holds is not lost.** -/
theorem at?_of_mem (hdistinct : ∀ c ∈ cs, c.Distinct) (h : ∀ c ∈ cs, ∀ d ∈ cs, c.Compatible d)
    (target : Catalog) (hc : c ∈ cs) (hx : c.at? p = some x) :
    (cs.foldl merge target).at? p = some x := by
  rw [at?_foldl_merge hdistinct h]
  cases hfirst : firstAt? cs p with
  | none =>
    rw [List.findSome?_eq_none_iff.mp hfirst c hc] at hx
    cases hx
  | some y =>
    obtain ⟨d, hd, hy⟩ := List.exists_of_findSome?_eq_some hfirst
    rw [h c hc d hd p x y hx hy]
    rfl

/-- **Nor is what was there before**, if the catalogs are compatible with it. -/
theorem at?_of_target (hdistinct : ∀ c ∈ cs, c.Distinct)
    (h : ∀ c ∈ cs, ∀ d ∈ cs, c.Compatible d) (htarget : ∀ c ∈ cs, target.Compatible c)
    (hx : target.at? p = some x) : (cs.foldl merge target).at? p = some x := by
  rw [at?_foldl_merge hdistinct h, hx]
  exact firstAt?_or_of_compatible htarget hx

end

end Catalog

end Wording
