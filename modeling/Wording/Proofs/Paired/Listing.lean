import Mathlib.Data.Finset.Card
import Mathlib.Data.Finset.Range
import Wording.Proofs.Paired.Session

/-!
# Lists of messages

A list of messages is a dictionary with texts, callables and dictionaries of the same kind in it, and
nothing else; null stands for what is not there. A catalog is read off it as deep as it goes: no list
is deeper than its heap is large. So a list that is the same on two heaps gives the same catalog on
both, wherever its dictionaries lie, and nothing is asked of these places but that they hold the list
while it is read.

* `Listing`: lists of messages that are the same on two heaps
* `Listing.of_depth`: no list is deeper than its heap is large
* `Listing.sameSource`: the catalog of a list
* `Listing.sameSource_of_paired`: the catalogs of two lists that go together
-/

namespace Wording

variable {p : Pairing} {P : Value → Prop} {h h' : Heap} {v : Value} {depth : Nat}

/-- The same list of messages on two heaps, at most so deep, with callables and keys of a kind. -/
inductive Listing (P : Value → Prop) (h h' : Heap) : Nat → Value → Prop
  | null (depth : Nat) : Listing P h h' depth .null
  | text (depth : Nat) (s : String) : Listing P h h' depth (.str s)
  | callable (depth : Nat) {v : Value} (hv : v.isCallable = true) (hP : P v) :
      Listing P h h' depth v
  | dict {depth : Nat} {r : Ref} {es : Entries} (hleft : h.cells[r]? = some (.dict es))
      (hright : h'.cells[r]? = some (.dict es)) (hkeys : ∀ e ∈ es, P e.1)
      (hvalues : ∀ e ∈ es, Listing P h h' depth e.2) : Listing P h h' (depth + 1) (.dict r)

namespace Listing

/-! ## Depth -/

theorem succ (hv : Listing P h h' depth v) : Listing P h h' (depth + 1) v := by
  induction hv with
  | null => exact .null _
  | text _ s => exact .text _ s
  | callable _ hv hP => exact .callable _ hv hP
  | dict hleft hright hkeys _ ih => exact .dict hleft hright hkeys ih

theorem mono {depth' : Nat} (hle : depth ≤ depth') (hv : Listing P h h' depth v) :
    Listing P h h' depth' v := by
  induction hle with
  | refl => exact hv
  | step _ ih => exact ih.succ

/-- A list that is just so deep is a dictionary, with a list in it that is just one level less deep.
-/
theorem exists_of_succ (hv : Listing P h h' (depth + 1) v) (hnot : ¬Listing P h h' depth v) :
    ∃ r < h.cells.size, v = .dict r ∧ ∀ d, depth = d + 1 →
      ∃ w, Listing P h h' depth w ∧ ¬Listing P h h' d w := by
  cases hv with
  | null => exact absurd (.null _) hnot
  | text _ s => exact absurd (.text _ s) hnot
  | callable _ hv hP => exact absurd (.callable _ hv hP) hnot
  | @dict _ r es hleft hright hkeys hvalues =>
    obtain ⟨hr, -⟩ := Array.getElem?_eq_some_iff.mp hleft
    refine ⟨r, hr, rfl, ?_⟩
    rintro d rfl
    by_contra hall
    refine hnot (.dict hleft hright hkeys fun e he => ?_)
    by_contra he'
    exact hall ⟨e.2, hvalues e he, he'⟩

/-- Below a list that is just so deep there are lists for each smaller depth. -/
theorem exists_below (hv : Listing P h h' (depth + 1) v) (hnot : ¬Listing P h h' depth v) :
    ∀ i ≤ depth, ∃ r < h.cells.size,
      Listing P h h' (i + 1) (.dict r) ∧ ¬Listing P h h' i (.dict r) := by
  induction depth generalizing v with
  | zero =>
    intro i hi
    obtain rfl := Nat.le_zero.mp hi
    obtain ⟨r, hr, rfl, -⟩ := hv.exists_of_succ hnot
    exact ⟨r, hr, hv, hnot⟩
  | succ depth ih =>
    intro i hi
    obtain ⟨r, hr, rfl, hbelow⟩ := hv.exists_of_succ hnot
    rcases Nat.lt_or_eq_of_le hi with hlt | rfl
    · obtain ⟨w, hw, hw'⟩ := hbelow depth rfl
      exact ih hw hw' i (Nat.le_of_lt_succ hlt)
    · exact ⟨r, hr, hv, hnot⟩

/-- **No list is deeper than its heap is large**: on the way down each dictionary is another one. -/
theorem of_depth (hv : Listing P h h' depth v) : Listing P h h' h.cells.size v := by
  induction depth with
  | zero => exact hv.mono (Nat.zero_le _)
  | succ depth ih =>
    by_cases hless : Listing P h h' depth v
    · exact ih hless
    · choose! place hplace hdeep hnot using hv.exists_below hless
      have hinj : Set.InjOn place (Finset.range (depth + 1)) := by
        intro i hi j hj hij
        rw [Finset.mem_coe, Finset.mem_range] at hi hj
        rcases Nat.lt_trichotomy i j with hlt | rfl | hlt
        · exact absurd (hij ▸ (hdeep i (by omega)).mono hlt) (hnot j (by omega))
        · rfl
        · exact absurd (hij ▸ (hdeep j (by omega)).mono hlt) (hnot i (by omega))
      have hcard := Finset.card_le_card_of_injOn (t := Finset.range h.cells.size) place
        (fun i hi => Finset.mem_range.mpr (hplace i (Nat.le_of_lt_succ (Finset.mem_range.mp hi))))
        hinj
      rw [Finset.card_range, Finset.card_range] at hcard
      exact hv.mono hcard

/-! ## Catalogs -/

theorem ofValue_of_not_dict (h : Heap) (fuel : Nat) (hv : ∀ r, v ≠ .dict r) :
    CatalogNode.ofValue h fuel v = .leaf v := by
  cases fuel with
  | zero => rfl
  | succ fuel => cases v <;> first | rfl | exact absurd rfl (hv _)

theorem callable_ne_dict (hv : v.isCallable = true) (r : Ref) : v ≠ .dict r := by
  rintro rfl
  cases hv

/-- A list is read alike on both heaps, as soon as it is read deep enough. -/
theorem ofValue_paired (hP : ∀ w, P w → w.Paired p w) (hv : Listing P h h' depth v) {fuel : Nat}
    (hfuel : depth ≤ fuel) :
    (CatalogNode.ofValue h fuel v).Paired p (CatalogNode.ofValue h' fuel v) := by
  have hleaf {w : Value} (hw : ∀ r, w ≠ .dict r) (hww : w.Paired p w) (fuel : Nat) :
      (CatalogNode.ofValue h fuel w).Paired p (CatalogNode.ofValue h' fuel w) := by
    rw [ofValue_of_not_dict h fuel hw, ofValue_of_not_dict h' fuel hw]
    exact .leaf hww
  induction hv generalizing fuel with
  | null => exact hleaf (w := .null) nofun (.atom rfl) fuel
  | text _ s => exact hleaf (w := .str s) nofun (.atom rfl) fuel
  | callable _ hv hPv => exact hleaf (callable_ne_dict hv) (hP _ hPv) fuel
  | @dict depth r es hleft hright hkeys _ ih =>
    obtain ⟨fuel, rfl⟩ := Nat.exists_eq_add_of_le' (Nat.le_trans (Nat.le_add_left 1 depth) hfuel)
    have hentries (k : Heap) (hk : k.cells[r]? = some (.dict es)) : k.entries r = es := by
      rw [Heap.entries, hk]
    rw [CatalogNode.ofValue, CatalogNode.ofValue, hentries h hleft, hentries h' hright]
    refine .node (Catalog.paired_iff.mpr ?_)
    refine List.forall₂_map_left_iff.mpr (List.forall₂_map_right_iff.mpr ?_)
    exact List.forall₂_same.mpr fun e he =>
      ⟨hP _ (hkeys e he), ih e he (Nat.le_of_succ_le_succ hfuel)⟩

/-- **A list of messages that is the same on two heaps is the same as a catalog.** -/
theorem sameSource (hp : h.Paired p h') (hlevel : p.gap = 0) (hj : p.fault (.failure .attribute))
    (hP : ∀ w, P w → w.Paired p w) (hv : Listing P h h' depth v) : v.SameSource p h h' v := by
  have htruthy : h.truthy v = h'.truthy v := by
    cases hv with
    | null => rfl
    | text _ s => rfl
    | callable _ hv hPv => exact hp.truthy (hP _ hPv)
    | @dict _ r es hleft hright _ _ =>
      rw [Heap.truthy, Heap.truthy, Heap.entries, Heap.entries, hleft, hright]
  refine ⟨htruthy, ?_⟩
  unfold Catalog.ofSource
  rw [htruthy, hp.depth hlevel]
  split
  · have hfuel : h.cells.size ≤ h'.depth :=
      Nat.le_trans (Nat.le_succ_of_le (Nat.le_mul_self _)) hp.depth_le
    have hnode := hv.of_depth.ofValue_paired hP hfuel
    generalize CatalogNode.ofValue h h'.depth v = n, CatalogNode.ofValue h' h'.depth v = n' at hnode
    cases hnode with
    | leaf _ => exact .error ⟨rfl, hj⟩
    | node hc => exact .ok hc
  · exact .ok .nil

/-! ## Lists on heaps that go together -/

variable {w : Value}

/-- A list is read like what goes together with it, as soon as both are read deep enough. -/
theorem ofValue_paired_of_paired (hp : h.Paired p h') (hv : Listing P h h depth v)
    (hvw : v.Paired p w) {fuel fuel' : Nat} (hfuel : depth ≤ fuel) (hfuel' : depth ≤ fuel') :
    (CatalogNode.ofValue h fuel v).Paired p (CatalogNode.ofValue h' fuel' w) := by
  have hleaf {x y : Value} (hx : ∀ r, x ≠ .dict r) (hy : ∀ r, y ≠ .dict r) (hxy : x.Paired p y)
      (fuel fuel' : Nat) :
      (CatalogNode.ofValue h fuel x).Paired p (CatalogNode.ofValue h' fuel' y) := by
    rw [ofValue_of_not_dict h fuel hx, ofValue_of_not_dict h' fuel' hy]
    exact .leaf hxy
  induction hv generalizing w fuel fuel' with
  | null =>
    cases hvw
    exact hleaf (x := .null) (y := .null) nofun nofun (.atom rfl) fuel fuel'
  | text _ s =>
    cases hvw
    exact hleaf (x := .str s) (y := .str s) nofun nofun (.atom rfl) fuel fuel'
  | callable _ hv _ =>
    exact hleaf (callable_ne_dict hv) (callable_ne_dict (hvw.isCallable ▸ hv)) hvw fuel fuel'
  | @dict depth r es hcell _ _ _ ih =>
    obtain ⟨fuel, rfl⟩ := Nat.exists_eq_add_of_le' (Nat.le_trans (Nat.le_add_left 1 depth) hfuel)
    obtain ⟨fuel', rfl⟩ := Nat.exists_eq_add_of_le' (Nat.le_trans (Nat.le_add_left 1 depth) hfuel')
    cases hvw with
    | atom ha => cases ha
    | @dict _ s hr =>
      have hentries : h.entries r = es := by rw [Heap.entries, hcell]
      have hpaired : p.Entries es (h'.entries s) := hentries ▸ hp.entries hr
      rw [CatalogNode.ofValue, CatalogNode.ofValue, hentries]
      refine .node (Catalog.paired_iff.mpr ?_)
      refine List.forall₂_map_left_iff.mpr (List.forall₂_map_right_iff.mpr ?_)
      have hmem := (List.forall₂_and_left es (h'.entries s)).mpr ⟨fun _ hd => hd, hpaired⟩
      exact hmem.imp fun d e hde => ⟨hde.2.1, ih d hde.1 hde.2.2 (Nat.le_of_succ_le_succ hfuel)
        (Nat.le_of_succ_le_succ hfuel')⟩

/-- **A list of messages is the same as a catalog as what goes together with it.** -/
theorem sameSource_of_paired (hp : h.Paired p h') (hj : p.fault (.failure .attribute))
    (hv : Listing P h h depth v) (hvw : v.Paired p w) : v.SameSource p h h' w := by
  refine ⟨hp.truthy hvw, ?_⟩
  have hfuel : h.cells.size ≤ h.depth := Nat.le_succ_of_le (Nat.le_mul_self _)
  unfold Catalog.ofSource
  rw [hp.truthy hvw]
  split
  · have hnode := hv.of_depth.ofValue_paired_of_paired hp hvw hfuel (hfuel.trans hp.depth_le)
    generalize CatalogNode.ofValue h h.depth v = n, CatalogNode.ofValue h' h'.depth w = n' at hnode
    cases hnode with
    | leaf _ => exact .error ⟨rfl, hj⟩
    | node hc => exact .ok hc
  · exact .ok .nil

end Listing

end Wording
