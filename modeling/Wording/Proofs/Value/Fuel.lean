import Mathlib.Data.Finset.Card
import Mathlib.Data.Finset.Prod
import Wording.Value.Compare
import Wording.Value.Shown

/-!
# Fuel

Comparisons and texts of values follow references as far as their fuel goes. With the fuel that they
have they go as far as there is anything to see: more of it changes no answer.

* `Settling.eq`: answers about finitely many things that get better round by round
* `Heap.eqAt_eq`, `Heap.orderAt_eq`: comparing with more fuel
* `Heap.reprAt_eq`: texts with more fuel
-/

namespace Wording

/-! ## Answers that settle -/

/-- Answers that get better round by round: those of the next round follow from those of this one,
and an answer other than `undecided` stays. Only questions in `qs` are answered differently in different
rounds. -/
structure Settling {Q A : Type} (D : Nat → Q → A) (undecided : A) (qs : Finset Q) : Prop where
  stays : ∀ n q, D n q = undecided ∨ D (n + 1) q = D n q
  outside : ∀ n, ∀ q ∉ qs, D (n + 1) q = D n q
  next : ∀ n, D (n + 1) = D n → D (n + 2) = D (n + 1)

namespace Settling

variable {Q A : Type} {D : Nat → Q → A} {undecided : A} {qs : Finset Q}

/-- A round that changes nothing is the last one. -/
theorem eq_of_step (h : Settling D undecided qs) {n : Nat} (hn : D (n + 1) = D n) (i : Nat) :
    D (n + i) = D n := by
  have hstep (i : Nat) : D (n + i + 1) = D (n + i) := by
    induction i with
    | zero => exact hn
    | succ i ih => exact h.next _ ih
  induction i with
  | zero => rfl
  | succ i ih => exact (hstep i).trans ih

open Classical in
/-- Each round before the last one decides a question. -/
theorem exists_step_or_le_card (h : Settling D undecided qs) (n : Nat) :
    (∃ k < n, D (k + 1) = D k) ∨ n ≤ (qs.filter fun q => D n q ≠ undecided).card := by
  induction n with
  | zero => exact .inr (Nat.zero_le _)
  | succ n ih =>
    rcases ih with ⟨k, hk, hstep⟩ | hcard
    · exact .inl ⟨k, Nat.lt_succ_of_lt hk, hstep⟩
    · by_cases hstep : D (n + 1) = D n
      · exact .inl ⟨n, Nat.lt_succ_self n, hstep⟩
      · obtain ⟨q, hq⟩ := Function.ne_iff.mp hstep
        have hmem : q ∈ qs := by
          by_contra hout
          exact hq (h.outside n q hout)
        have hopen : D n q = undecided := (h.stays n q).resolve_right hq
        refine .inr (Nat.succ_le_of_lt (Nat.lt_of_le_of_lt hcard (Finset.card_lt_card ?_)))
        refine Finset.ssubset_iff_of_subset ?_ |>.mpr ⟨q, ?_, ?_⟩
        · refine Finset.monotone_filter_right qs fun p _ hp => ?_
          rwa [(h.stays n p).resolve_left hp]
        · exact Finset.mem_filter.mpr ⟨hmem, fun hnext => hq (hnext.trans hopen.symm)⟩
        · exact fun hin => (Finset.mem_filter.mp hin).2 hopen

/-- **After as many rounds as there are questions nothing changes any more.** -/
theorem eq (h : Settling D undecided qs) {m n : Nat} (hm : qs.card ≤ m) (hn : qs.card ≤ n) :
    D m = D n := by
  classical
  obtain ⟨k, hk, hstep⟩ : ∃ k < qs.card + 1, D (k + 1) = D k := by
    refine (h.exists_step_or_le_card (qs.card + 1)).resolve_right fun hcard => ?_
    exact absurd (hcard.trans (Finset.card_filter_le _ _)) (Nat.not_succ_le_self _)
  have hlast (n : Nat) (hn : qs.card ≤ n) : D n = D k := by
    obtain ⟨i, rfl⟩ := Nat.exists_eq_add_of_le (Nat.le_trans (Nat.le_of_lt_succ hk) hn)
    exact h.eq_of_step hstep i
  exact (hlast m hm).trans (hlast n hn).symm

end Settling

/-! ## Places -/

namespace Heap

variable {h : Heap} {r : Ref}

/-- The reference to a place, by what lies there. -/
def refAt (h : Heap) (r : Ref) : Value :=
  match h.cells[r]? with
  | some (.list _) => .list r
  | some (.dict _) => .dict r
  | _ => .record r

open Classical in
/-- The references to all places. -/
noncomputable def places (h : Heap) : Finset Value := (Finset.range h.cells.size).image h.refAt

theorem card_places (h : Heap) : h.places.card ≤ h.cells.size := by
  classical
  exact Finset.card_image_le.trans_eq (Finset.card_range _)

/-- Pairs of references that lead somewhere. -/
noncomputable def pairs (h : Heap) : Finset (Value × Value) := h.places ×ˢ h.places

theorem card_pairs (h : Heap) : h.pairs.card ≤ h.cells.size * h.cells.size :=
  (Finset.card_product _ _).trans_le (Nat.mul_le_mul h.card_places h.card_places)

theorem mem_places {c : Cell} {v : Value} (hc : h.cells[r]? = some c) (hv : h.refAt r = v) :
    v ∈ h.places := by
  classical
  obtain ⟨hlt, -⟩ := Array.getElem?_eq_some_iff.mp hc
  exact Finset.mem_image.mpr ⟨r, Finset.mem_range.mpr hlt, hv⟩

theorem list_mem_places (hr : (h.items r).toList ≠ []) : .list r ∈ h.places := by
  unfold items at hr
  split at hr
  · next items hc => exact mem_places hc (by rw [refAt, hc])
  · exact absurd rfl hr

theorem dict_mem_places (hr : h.entries r ≠ []) : .dict r ∈ h.places := by
  unfold entries at hr
  split at hr
  · next entries hc => exact mem_places hc (by rw [refAt, hc])
  · exact absurd rfl hr

theorem record_mem_places (hr : h.attributes r ≠ []) : .record r ∈ h.places := by
  unfold attributes at hr
  split at hr
  · next attributes hc => exact mem_places hc (by rw [refAt, hc])
  · exact absurd rfl hr

end Heap

/-! ## Equality -/

namespace Value

variable {deep deep' : Value → Value → Bool}

mutual

/-- What is equal stays equal where references are followed further. -/
theorem eqWith_mono (hd : ∀ v w, deep v w = true → deep' v w = true) :
    (v w : Value) → v.eqWith deep w = true → v.eqWith deep' w = true
  | .tuple xs, w, h => by
    cases w with
    | tuple ys =>
      rw [eqWith] at h ⊢
      exact eqAllWith_mono hd xs ys h
    | _ => cases h
  | .list a, w, h => by
    cases w with
    | list b => exact hd _ _ h
    | _ => cases h
  | .dict a, w, h => by
    cases w with
    | dict b => exact hd _ _ h
    | _ => cases h
  | .record a, w, h => by
    cases w with
    | record b => exact hd _ _ h
    | _ => cases h
  | .null, _, h | .ellipsis, _, h | .bool _, _, h | .int _, _, h | .float _, _, h
  | .complex _ _, _, h | .str _, _, h | .bytes _, _, h | .slice _ _ _, _, h | .helper _, _, h
  | .method _ _, _, h | .unbound _ _, _, h | .static _ _, _, h | .foreign _, _, h
  | .constant _, _, h | .echo, _, h | .keyNames, _, h | .entryAt _, _, h | .failing _, _, h
  | .renderer _ _, _, h => h

theorem eqAllWith_mono (hd : ∀ v w, deep v w = true → deep' v w = true) :
    (vs ws : List Value) → Value.eqAllWith deep vs ws = true → Value.eqAllWith deep' vs ws = true
  | [], _, h => h
  | x :: xs, ws, h => by
    cases ws with
    | nil => exact h
    | cons y ys =>
      rw [eqAllWith, Bool.and_eq_true, Bool.or_eq_true] at h ⊢
      exact ⟨h.1.imp_right (eqWith_mono hd x y), eqAllWith_mono hd xs ys h.2⟩

end

end Value

namespace Heap

variable {h : Heap} {eq eq' : Value → Value → Bool}

theorem eqEntries_mono (he : ∀ v w, eq v w = true → eq' v w = true) {a b : Entries}
    (hab : eqEntries eq a b = true) : eqEntries eq' a b = true := by
  unfold eqEntries at hab ⊢
  rw [Bool.and_eq_true, List.all_eq_true] at hab ⊢
  refine ⟨hab.1, fun e hmem => ?_⟩
  have hvalue := hab.2 e hmem
  cases hfind : b.lookup e.1 with
  | none =>
    rw [hfind] at hvalue
    cases hvalue
  | some v =>
    rw [hfind, Bool.or_eq_true] at hvalue
    exact Bool.or_eq_true _ _ |>.mpr (hvalue.imp_right (he _ _))

theorem eqRefs_mono (he : ∀ v w, eq v w = true → eq' v w = true) {v w : Value}
    (hvw : h.eqRefs eq v w = true) : h.eqRefs eq' v w = true := by
  unfold eqRefs at hvw ⊢
  split at hvw
  · rw [Bool.or_eq_true] at hvw ⊢
    exact hvw.imp_right (Value.eqAllWith_mono he _ _)
  · rw [Bool.or_eq_true] at hvw ⊢
    exact hvw.imp_right (eqEntries_mono he)
  · rw [Bool.or_eq_true] at hvw ⊢
    exact hvw.imp_right (eqEntries_mono he)
  · cases hvw

theorem eqAt_mono (h : Heap) (fuel : Nat) (v w : Value) (hvw : h.eqAt fuel v w = true) :
    h.eqAt (fuel + 1) v w = true := by
  induction fuel generalizing v w with
  | zero => cases hvw
  | succ fuel ih =>
    rw [eqAt] at hvw ⊢
    exact Value.eqWith_mono (fun _ _ => eqRefs_mono ih) v w hvw

/-- Equality of entries looks at values only where there are entries on both sides. -/
theorem eqEntries_congr {a b : Entries} (hab : a = [] ∨ b = []) :
    eqEntries eq a b = eqEntries eq' a b := by
  rcases hab with rfl | rfl
  · rfl
  · cases a <;> rfl

/-- Only at references that lead somewhere does it matter how values compare. -/
theorem eqRefs_congr {v w : Value} (hvw : (v, w) ∉ h.pairs) :
    h.eqRefs eq v w = h.eqRefs eq' v w := by
  have hout (hv : v ∈ h.places) : w ∉ h.places := fun hw =>
    hvw (Finset.mem_product.mpr ⟨hv, hw⟩)
  unfold eqRefs
  split
  · next a b =>
    refine congrArg (_ || ·) ?_
    by_cases ha : (h.items a).toList = []
    · rw [ha]
      rfl
    · have hb : (h.items b).toList = [] := by
        by_contra hb
        exact hout (list_mem_places ha) (list_mem_places hb)
      rw [hb]
      cases (h.items a).toList <;> rfl
  · next a b =>
    refine congrArg (_ || ·) (eqEntries_congr ?_)
    by_contra hab
    rw [not_or] at hab
    exact hout (dict_mem_places hab.1) (dict_mem_places hab.2)
  · next a b =>
    refine congrArg (_ || ·) (eqEntries_congr ?_)
    by_contra hab
    rw [not_or, named, named, List.map_eq_nil_iff, List.map_eq_nil_iff] at hab
    exact hout (record_mem_places hab.1) (record_mem_places hab.2)
  · rfl

theorem settling_eqRefs (h : Heap) :
    Settling (fun n (q : Value × Value) => h.eqRefs (h.eqAt n) q.1 q.2) false h.pairs where
  stays n q := by
    cases hq : h.eqRefs (h.eqAt n) q.1 q.2 with
    | false => exact .inl rfl
    | true => exact .inr (eqRefs_mono (h.eqAt_mono n) hq)
  outside _ _ hq := eqRefs_congr hq
  next n hn := by
    have hrefs : h.eqRefs (h.eqAt (n + 1)) = h.eqRefs (h.eqAt n) :=
      funext fun v => funext fun w => congrFun hn (v, w)
    have hat : h.eqAt (n + 2) = h.eqAt (n + 1) := congrArg (Value.eqWith ·) hrefs
    rw [hat]

/-- **With more fuel no two values are found to be equal that were not.** -/
theorem eqAt_eq (h : Heap) {fuel : Nat} (hf : h.depth ≤ fuel) : h.eqAt fuel = h.eq := by
  obtain ⟨i, rfl⟩ := Nat.exists_eq_add_of_le hf
  have hsettled := h.settling_eqRefs.eq (m := h.cells.size * h.cells.size + i)
    (Nat.le_add_right_of_le h.card_pairs) h.card_pairs
  have hrefs : h.eqRefs (h.eqAt (h.cells.size * h.cells.size + i)) =
      h.eqRefs (h.eqAt (h.cells.size * h.cells.size)) :=
    funext fun v => funext fun w => congrFun hsettled (v, w)
  rw [depth, Nat.add_right_comm]
  exact congrArg (Value.eqWith ·) hrefs

end Heap

/-! ## Order -/

/-- An answer about order that says nothing yet, or is the same in the end. -/
def Settles (a b : Except Failure Bool) : Prop := a = .error .runtime ∨ b = a

namespace Value

variable {eq : Value → Value → Bool} {deep deep' : Value → Value → Except Failure Bool}

mutual

theorem settles_orderWith (hd : ∀ v w, Settles (deep v w) (deep' v w)) (op : CompareOp) :
    (v w : Value) → Settles (v.orderWith eq deep op w) (v.orderWith eq deep' op w)
  | .tuple xs, w => by
    cases w with
    | tuple ys =>
      rw [orderWith, orderWith]
      exact settles_orderAllWith hd op xs ys
    | _ => exact .inr rfl
  | .list a, w => by
    cases w with
    | list b => exact hd _ _
    | _ => exact .inr rfl
  | .null, _ | .ellipsis, _ | .bool _, _ | .int _, _ | .float _, _ | .complex _ _, _ | .str _, _
  | .bytes _, _ | .slice _ _ _, _ | .dict _, _ | .record _, _ | .helper _, _ | .method _ _, _
  | .unbound _ _, _ | .static _ _, _ | .foreign _, _ | .constant _, _ | .echo, _ | .keyNames, _
  | .entryAt _, _ | .failing _, _ | .renderer _ _, _ => .inr rfl

theorem settles_orderAllWith (hd : ∀ v w, Settles (deep v w) (deep' v w)) (op : CompareOp) :
    (vs ws : List Value) →
      Settles (Value.orderAllWith eq deep op vs ws) (Value.orderAllWith eq deep' op vs ws)
  | [], _ => .inr rfl
  | x :: xs, ws => by
    cases ws with
    | nil => exact .inr rfl
    | cons y ys =>
      rw [orderAllWith, orderAllWith]
      split
      · exact settles_orderAllWith hd op xs ys
      · exact settles_orderWith hd op x y

end

end Value

namespace Heap

variable {h : Heap} {op : CompareOp} {order order' : Value → Value → Except Failure Bool}

theorem settles_orderRefs (hd : ∀ v w, Settles (order v w) (order' v w)) (v w : Value) :
    Settles (h.orderRefs op order v w) (h.orderRefs op order' v w) := by
  unfold orderRefs
  split
  · exact Value.settles_orderAllWith hd op _ _
  · exact .inr rfl

theorem settles_orderAt (h : Heap) (op : CompareOp) (fuel : Nat) (v w : Value) :
    Settles (h.orderAt op fuel v w) (h.orderAt op (fuel + 1) v w) := by
  induction fuel generalizing v w with
  | zero => exact .inl rfl
  | succ fuel ih =>
    rw [orderAt, orderAt]
    exact Value.settles_orderWith (settles_orderRefs ih) op v w

theorem orderRefs_congr {v w : Value} (hvw : (v, w) ∉ h.pairs) :
    h.orderRefs op order v w = h.orderRefs op order' v w := by
  unfold orderRefs
  split
  · next a b =>
    by_cases ha : (h.items a).toList = []
    · rw [ha]
      rfl
    · have hb : (h.items b).toList = [] := by
        by_contra hb
        exact hvw (Finset.mem_product.mpr ⟨list_mem_places ha, list_mem_places hb⟩)
      rw [hb]
      cases (h.items a).toList <;> rfl
  · rfl

theorem settling_orderRefs (h : Heap) (op : CompareOp) :
    Settling (fun n (q : Value × Value) => h.orderRefs op (h.orderAt op n) q.1 q.2)
      (.error .runtime) h.pairs where
  stays n q := settles_orderRefs (h.settles_orderAt op n) q.1 q.2
  outside _ _ hq := orderRefs_congr hq
  next n hn := by
    have hrefs : h.orderRefs op (h.orderAt op (n + 1)) = h.orderRefs op (h.orderAt op n) :=
      funext fun v => funext fun w => congrFun hn (v, w)
    have hat : h.orderAt op (n + 2) = h.orderAt op (n + 1) :=
      congrArg (Value.orderWith h.eq · op) hrefs
    rw [hat]

/-- **With more fuel no other order is found.** -/
theorem orderAt_eq (h : Heap) (op : CompareOp) {fuel : Nat} (hf : h.depth ≤ fuel) :
    h.orderAt op fuel = h.order op := by
  obtain ⟨i, rfl⟩ := Nat.exists_eq_add_of_le hf
  have hsettled := (h.settling_orderRefs op).eq (m := h.cells.size * h.cells.size + i)
    (Nat.le_add_right_of_le h.card_pairs) h.card_pairs
  have hrefs : h.orderRefs op (h.orderAt op (h.cells.size * h.cells.size + i)) =
      h.orderRefs op (h.orderAt op (h.cells.size * h.cells.size)) :=
    funext fun v => funext fun w => congrFun hsettled (v, w)
  rw [depth, Nat.add_right_comm]
  exact congrArg (Value.orderWith h.eq · op) hrefs

/-! ## Texts -/

/-- A place that is shown within itself is cut short, so no chain of places is longer than there are
places. -/
theorem reprAt_congr (h : Heap) {fuel fuel' : Nat} {active : List Ref} (hn : active.Nodup)
    (hlt : ∀ r ∈ active, r < h.cells.size) (hf : h.cells.size < fuel + active.length)
    (hf' : h.cells.size < fuel' + active.length) :
    h.reprAt fuel active = h.reprAt fuel' active := by
  have hlength : active.length ≤ h.cells.size := by
    have hcard := Finset.card_le_card (s := active.toFinset) (t := Finset.range h.cells.size)
      fun r hr => Finset.mem_range.mpr (hlt r (List.mem_toFinset.mp hr))
    rwa [List.toFinset_card_of_nodup hn, Finset.card_range] at hcard
  induction fuel generalizing fuel' active with
  | zero => omega
  | succ fuel ih =>
    obtain ⟨fuel', rfl⟩ : ∃ n, fuel' = n + 1 := Nat.exists_eq_succ_of_ne_zero (by omega)
    -- Within a place that is not being shown yet, all that is new is this place.
    have hinside {r : Ref} {c : Cell} (hr : ¬active.contains r = true)
        (hc : h.cells[r]? = some c) :
        h.reprAt fuel (r :: active) = h.reprAt fuel' (r :: active) := by
      obtain ⟨hsize, -⟩ := Array.getElem?_eq_some_iff.mp hc
      have hnew : r ∉ active := fun hmem => hr (List.contains_iff_mem.mpr hmem)
      have hall : ∀ s ∈ r :: active, s < h.cells.size :=
        List.forall_mem_cons.mpr ⟨hsize, hlt⟩
      have hnodup : (r :: active).Nodup := List.nodup_cons.mpr ⟨hnew, hn⟩
      have hcard := Finset.card_le_card (s := (r :: active).toFinset)
        (t := Finset.range h.cells.size)
        fun s hs => Finset.mem_range.mpr (hall s (List.mem_toFinset.mp hs))
      rw [List.toFinset_card_of_nodup hnodup, Finset.card_range] at hcard
      refine ih hnodup hall ?_ ?_ hcard
      · rw [List.length_cons]
        omega
      · rw [List.length_cons]
        omega
    funext v
    rw [reprAt, reprAt]
    refine congrArg (Value.reprWith · v) (funext fun w => ?_)
    cases w with
    | list r =>
      dsimp only
      split
      · rfl
      · next hr =>
        unfold items
        split
        · next items hc => rw [hinside hr hc]
        · rfl
    | dict r =>
      dsimp only
      split
      · rfl
      · next hr =>
        unfold entries
        split
        · next entries hc => rw [hinside hr hc]
        · rfl
    | record r =>
      dsimp only
      split
      · rfl
      · next hr =>
        unfold attributes
        split
        · next attributes hc => rw [hinside hr hc]
        · rfl
    | _ => rfl

/-- **With more fuel the text of a value is the same.** -/
theorem reprAt_eq (h : Heap) {fuel : Nat} (hf : h.cells.size < fuel) : h.reprAt fuel [] = h.repr :=
  h.reprAt_congr List.nodup_nil (by simp) hf (by simp)

end Heap

end Wording
