import Wording.Box.Basic
import Wording.Proofs.Catalog.Merge
import Wording.Proofs.Paired.Compare

/-!
# Catalogs that go together

Catalogs go together if they have the same shape, under keys that go together, with leaves that do.
Merging, selecting and giving out keep this, and so does reading a catalog off a value, on heaps that
go together.

* `CatalogNode.ofValue_paired`, `Catalog.ofSource_paired`: reading
* `Catalog.merge_paired`: merging
* `Catalog.agrees_toDict`: giving out
-/

namespace Wording

mutual

/-- Nodes of one shape with leaves that go together. -/
inductive CatalogNode.Paired (p : Pairing) : CatalogNode → CatalogNode → Prop
  | leaf {v w : Value} (h : v.Paired p w) : CatalogNode.Paired p (.leaf v) (.leaf w)
  | node {c d : Catalog} (h : Catalog.Paired p c d) : CatalogNode.Paired p (.node c) (.node d)

/-- Catalogs of one shape, under keys that go together. -/
inductive Catalog.Paired (p : Pairing) : Catalog → Catalog → Prop
  | nil : Catalog.Paired p [] []
  | cons {k k' : Value} {n n' : CatalogNode} {c d : Catalog} (hk : k.Paired p k')
      (hn : CatalogNode.Paired p n n') (h : Catalog.Paired p c d) :
      Catalog.Paired p ((k, n) :: c) ((k', n') :: d)

end

variable {p q : Pairing} {c d : Catalog}

namespace Catalog

theorem paired_iff : c.Paired p d ↔ p.Keyed (CatalogNode.Paired p) c d := by
  constructor
  · intro h
    induction c generalizing d with
    | nil =>
      cases h
      exact .nil
    | cons e c ih =>
      cases h with
      | cons hk hn h => exact .cons ⟨hk, hn⟩ (ih h)
  · intro h
    induction h with
    | nil => exact .nil
    | cons h _ ih => exact .cons h.1 h.2 ih

mutual

theorem nodeImp (hpq : p.Into q) {n n' : CatalogNode} (h : n.Paired p n') : n.Paired q n' := by
  cases h with
  | leaf h => exact .leaf (h.imp hpq)
  | node h => exact .node (Paired.imp hpq h)

theorem Paired.imp (hpq : p.Into q) {c d : Catalog} (h : c.Paired p d) : c.Paired q d := by
  cases h with
  | nil => exact .nil
  | cons hk hn h => exact .cons (hk.imp hpq) (nodeImp hpq hn) (h.imp hpq)

end

theorem Paired.mono (hpq : p ≤ q) (h : c.Paired p d) : c.Paired q d := h.imp (Pairing.into hpq)

/-! ## Merging -/

theorem find?_paired (h : c.Paired p d) {k k' : Value} (hk : k.Paired p k') :
    Option.Rel (CatalogNode.Paired p) (c.find? k) (d.find? k') :=
  Keyed.find?_paired (paired_iff.mp h) hk

theorem put_paired (h : c.Paired p d) {k k' : Value} (hk : k.Paired p k') {n n' : CatalogNode}
    (hn : n.Paired p n') : (put k n c).Paired p (put k' n' d) :=
  paired_iff.mpr (Keyed.put_paired (paired_iff.mp h) hk hn)

theorem below_paired (h : c.Paired p d) {k k' : Value} (hk : k.Paired p k') :
    (c.below k).Paired p (d.below k') := by
  have hfind := find?_paired h hk
  unfold below
  generalize find? c k = x, find? d k' = y at hfind
  cases hfind with
  | none => exact .nil
  | some hn =>
    cases hn with
    | leaf _ => exact .nil
    | node hn => exact hn

theorem merge_paired {t t' : Catalog} (ht : t.Paired p t') (h : c.Paired p d) :
    (merge t c).Paired p (merge t' d) := by
  fun_induction merge t c generalizing t' d with
  | case1 =>
    cases h
    rw [merge]
    exact ht
  | case2 t k rest ih =>
    obtain _ | ⟨hk, ⟨hv⟩, h⟩ := h
    cases hv with
    | atom _ =>
      rw [merge]
      exact ih ht h
  | case3 t k v rest hv ih =>
    cases h with
    | cons hk hn h =>
      cases hn with
      | leaf hvw =>
        rw [merge]
        · exact ih (put_paired ht hk (.leaf hvw)) h
        · rintro rfl
          cases hvw with
          | atom _ => exact hv rfl
  | case4 t k children rest ihc ih =>
    cases h with
    | cons hk hn h =>
      cases hn with
      | node hn =>
        rw [merge]
        exact ih (put_paired ht hk (.node (ihc (below_paired ht hk) hn))) h

theorem mergeAll_paired {t t' : Catalog} (ht : t.Paired p t') {cs ds : List Catalog}
    (h : List.Forall₂ (Catalog.Paired p) cs ds) : (mergeAll t cs).Paired p (mergeAll t' ds) := by
  induction h generalizing t t' with
  | nil => exact ht
  | cons h _ ih => exact ih (merge_paired ht h)

/-! ## Reading -/

variable {h h' : Heap} {v w : Value}

theorem ofValue_paired (hp : h.Paired p h') (fuel : Nat) (hv : v.Paired p w) :
    (CatalogNode.ofValue h fuel v).Paired p (CatalogNode.ofValue h' fuel w) := by
  induction fuel generalizing v w with
  | zero => exact .leaf hv
  | succ fuel ih =>
    have hleaf : (CatalogNode.leaf v).Paired p (.leaf w) := .leaf hv
    cases hv with
    | dict hr =>
      refine .node (paired_iff.mpr ?_)
      exact List.forall₂_map_left_iff.mpr (List.forall₂_map_right_iff.mpr
        ((hp.entries hr).imp fun d e he => ⟨he.1, ih he.2⟩))
    | atom ha =>
      cases v with
      | dict r => cases ha
      | _ => exact hleaf
    | _ => exact hleaf

/-- Catalogs that are read off values that go together, on heaps of one size: values that lie within
themselves are read as deep as there are places. -/
theorem ofSource_paired (hp : h.Paired p h') (hlevel : p.gap = 0) (hv : v.Paired p w)
    (hj : p.fault (.failure .attribute)) :
    p.Alike (Catalog.Paired p) (ofSource h v) (ofSource h' w) := by
  unfold ofSource
  rw [hp.truthy hv, hp.depth hlevel]
  split
  · have hnode := ofValue_paired hp h'.depth hv
    generalize CatalogNode.ofValue h h'.depth v = n, CatalogNode.ofValue h' h'.depth w = n' at hnode
    cases hnode with
    | leaf _ => exact .error ⟨rfl, hj⟩
    | node hc => exact .ok hc
  · exact .ok .nil

theorem ofNode?_paired (hp : h.Paired p h') (hj : p.fault (.failure .attribute))
    {n n' : Option CatalogNode} (hn : Option.Rel (CatalogNode.Paired p) n n') :
    p.Alike (Catalog.Paired p) (ofNode? h n) (ofNode? h' n') := by
  cases hn with
  | none => exact .ok .nil
  | some hn =>
    cases hn with
    | node hc => exact .ok hc
    | leaf hv =>
      rw [ofNode?, ofNode?, hp.truthy hv]
      split
      · exact .error ⟨rfl, hj⟩
      · exact .ok .nil

theorem atLanguage_paired (hc : c.Paired p d) (hv : v.Paired p w) :
    p.Alike (Option.Rel (CatalogNode.Paired p)) (c.atLanguage v) (d.atLanguage w) := by
  unfold atLanguage
  rw [hv.isKey]
  split
  · exact .ok (find?_paired hc hv)
  · exact Pairing.alike_error rfl

/-- The messages of a language, from catalogs that go together. -/
theorem layered?_paired (hp : h.Paired p h') (hj : p.fault (.failure .attribute))
    {shared shared' own own' : Catalog} (hs : shared.Paired p shared') (ho : own.Paired p own')
    (hv : v.Paired p w) :
    p.Alike (Option.Rel (Catalog.Paired p)) (layered? h shared own v)
      (layered? h' shared' own' w) := by
  refine (atLanguage_paired hs hv).bind fun below below' hbelow => ?_
  refine (atLanguage_paired ho hv).bind fun above above' habove => ?_
  have hsilent : (below.isNone && above.isNone) = (below'.isNone && above'.isNone) := by
    cases hbelow <;> cases habove <;> rfl
  rw [hsilent]
  split
  · exact .ok .none
  · refine (ofNode?_paired hp hj hbelow).bind fun x x' hx => ?_
    refine (ofNode?_paired hp hj habove).bind fun y y' hy => ?_
    exact .ok (.some (mergeAll_paired .nil (.cons hx (.cons hy .nil))))

/-! ## Giving out -/

mutual

theorem agrees_toEntries {p : Pairing} {c d : Catalog} (h : c.Paired p d) :
    p.Agrees Pairing.Entries c.toEntries d.toEntries := by
  cases h with
  | nil => exact agree_pure .nil
  | cons hk hn h =>
    refine (agrees_nodeValue hn).bind fun q hpq x y hxy => ?_
    refine (agrees_toEntries (h.mono hpq)).bind fun r hqr es es' hes => ?_
    exact agree_pure (.cons ⟨(hk.mono hpq).mono hqr, hxy.mono hqr⟩ hes)

theorem agrees_nodeValue {p : Pairing} {n n' : CatalogNode} (h : n.Paired p n') :
    p.Agrees Value.Paired (nodeValue n) (nodeValue n') := by
  cases h with
  | leaf hv => exact agree_pure hv
  | node h => exact (agrees_toEntries h).bind fun _ _ _ _ hes => Pairing.agrees_newDict hes

end

/-- Dictionaries that hold what catalogs do that go together. -/
theorem agrees_toDict (h : c.Paired p d) : p.Agrees Value.Paired c.toDict d.toDict :=
  (agrees_toEntries h).bind fun _ _ _ _ hes => Pairing.agrees_newDict hes

end Catalog

/-! ## Selecting -/

namespace CatalogNode

theorem filled?_paired (hc : c.Paired p d) {k k' : Value} (hk : k.Paired p k') :
    Option.Rel (CatalogNode.Paired p) (filled? c k) (filled? d k') := by
  have hfind := Catalog.find?_paired hc hk
  unfold filled?
  generalize c.find? k = x, d.find? k' = y at hfind
  have hsome := hfind
  cases hfind with
  | none => exact .none
  | some hn =>
    cases hn with
    | node _ => exact hsome
    | @leaf v w hv =>
      cases hv with
      | atom ha =>
        cases v with
        | null => exact .none
        | _ => exact hsome
      | _ => exact hsome

theorem leaf?_paired {n n' : CatalogNode} (hn : n.Paired p n') : p.Optional n.leaf? n'.leaf? := by
  cases hn with
  | node _ => exact .none
  | @leaf v w hv =>
    have hsome : p.Optional (some v) (some w) := .some hv
    cases hv with
    | atom ha =>
      cases v with
      | null => exact .none
      | _ => exact hsome
    | _ => exact hsome

/-- What nodes that go together say for a field goes together. -/
theorem select_paired (generic : Option String) {n n' : CatalogNode} (hn : n.Paired p n') :
    p.Optional (n.select generic) (n'.select generic) := by
  cases hn with
  | @node c d hc =>
    have hname : Option.Rel (CatalogNode.Paired p) (generic.bind fun g => filled? c (.str g))
        (generic.bind fun g => filled? d (.str g)) := by
      cases generic with
      | none => exact .none
      | some g => exact filled?_paired hc (.atom rfl)
    have hdefault : Option.Rel (CatalogNode.Paired p) (filled? c Catalog.defaultKey)
        (filled? d Catalog.defaultKey) := filled?_paired hc (.atom rfl)
    rw [select, select]
    generalize (generic.bind fun g => filled? c (.str g)) = x,
      (generic.bind fun g => filled? d (.str g)) = y at hname
    generalize filled? c Catalog.defaultKey = x', filled? d Catalog.defaultKey = y' at hdefault
    cases hname with
    | some hn => exact leaf?_paired hn
    | none =>
      cases hdefault with
      | none => exact .none
      | some hn => exact leaf?_paired hn
  | @leaf v w hv =>
    unfold select
    dsimp only
    rw [hv.isCallable]
    split
    · exact .some hv
    · cases hv with
      | atom ha =>
        cases v with
        | str s => exact .some (.atom rfl)
        | _ => exact .none
      | _ => exact .none

end CatalogNode

end Wording
