import Wording.Proofs.Paired.Numbers
import Wording.Proofs.Value.Kept
import Wording.Value.Access
import Wording.Value.Operators

/-!
# Access and operators on values that go together

Attributes, subscripts and operators of values that go together, on heaps that do, give values that
do. Subscripts and sums can make new lists, which go together from then on.

* `Heap.Paired.attr`, `agrees_getItem`, `agrees_getItemOrNull`
* `BinaryOp.agrees_apply`, `UnaryOp.agrees_apply`, `CompareOp.agrees_apply`
-/

namespace Wording

variable {p : Pairing}

/-! ## Attributes -/

namespace Value.Paired

variable {v w : Value}

theorem numberData? (hv : v.Paired p w) (name : String) :
    p.Optional (v.numberData? name) (w.numberData? name) := by
  have hatom : ∀ {x : Option Value}, (∀ u ∈ x, u.isAtom = true) → p.Optional x x := by
    intro x hx
    cases x with
    | none => exact .none
    | some u => exact .some (.atom (hx u rfl))
  cases hv with
  | atom h =>
    refine hatom fun u hu => ?_
    unfold Value.numberData? at hu
    split at hu
    · split at hu
      · cases hu
        rfl
      · split at hu <;> cases hu
        rfl
    · split at hu
      · cases hu
        rfl
      · split at hu <;> cases hu
        rfl
    · split at hu
      · split at hu
        · cases hu
          rfl
        · split at hu
          · cases hu
            rfl
          · split at hu <;> cases hu
            rfl
      · cases hu
  | _ => exact .none

theorem attr (hv : v.Paired p w) (name : String) : (v.attr name).Paired p (w.attr name) := by
  have hdata := hv.numberData? name
  unfold Value.attr
  rw [hv.receiver?, hv.kind?]
  split
  · generalize v.numberData? name = x, w.numberData? name = y at hdata
    cases hdata with
    | some h => exact h
    | none =>
      generalize Receiver.method? _ name = m
      cases m with
      | none => exact .atom rfl
      | some m =>
        dsimp only
        split
        · exact .atom rfl
        · exact .method hv m
  · split
    · split <;> exact .atom rfl
    · split <;> exact .atom rfl
  · cases hv with
    | atom h =>
      refine .atom ?_
      split
      · split
        · rfl
        · split <;> rfl
      · rfl
    | _ => exact .atom rfl

end Value.Paired

theorem Heap.Paired.attr {h h' : Heap} (hp : h.Paired p h') {v w : Value} (hv : v.Paired p w)
    (name : String) : (h.attr v name).Paired p (h'.attr w name) := by
  have hattr := hv.attr name
  have hget : ∀ {x y : Option Value}, p.Optional x y → (x.getD .null).Paired p (y.getD .null) := by
    intro x y hxy
    cases hxy with
    | none => exact .atom rfl
    | some h => exact h
  cases hv with
  | dict hr => exact hget (hp.lookup hr (.atom rfl))
  | record hr =>
    have hfind := hget ((hp.attributes hr).find? fun k => k == name)
    have helim : ∀ x : Option (String × Value), x.elim .null (·.2) = (x.map (·.2)).getD .null := by
      rintro (_ | x) <;> rfl
    rw [Heap.attr, Heap.attr, helim, helim]
    exact hfind
  | atom h => cases v <;> first | exact hattr | cases h
  | _ => exact hattr

/-! ## Subscripts -/

theorem sliceBounds_paired {a b c a' b' c' : Value} (ha : a.Paired p a') (hb : b.Paired p b')
    (hc : c.Paired p c') : p.Alike Eq (sliceBounds a b c) (sliceBounds a' b' c') := by
  refine (Value.Paired.asPosition? (.some hc)).bind_eq fun step => ?_
  refine Pairing.alike_guard rfl ?_
  refine (Value.Paired.asPosition? (.some ha)).bind_eq fun lower => ?_
  exact (Value.Paired.asPosition? (.some hb)).bind_eq fun upper => .ok rfl

/-- The item of a sequence at a position. -/
theorem alike_item {α α' β β' : Type} {R : α → α' → Prop} {S : β → β' → Prop} {xs : List α}
    {ys : List α'} (hxs : List.Forall₂ R xs ys) {one : α → β} {one' : α' → β'}
    (hone : ∀ x y, R x y → S (one x) (one' y)) (i : Int) :
    p.Alike S
      (match Sequence.index? xs.length i with
        | none => throw .index
        | some i => match xs[i]? with
          | some x => return one x
          | none => throw .index)
      (match Sequence.index? ys.length i with
        | none => throw .index
        | some i => match ys[i]? with
          | some x => return one' x
          | none => throw .index) := by
  rw [hxs.length_eq]
  split
  · exact Pairing.alike_error rfl
  · next i _ =>
    have hi := getElem?_of_forall₂ hxs i
    generalize xs[i]? = x, ys[i]? = y at hi
    cases hi with
    | none => exact Pairing.alike_error rfl
    | some h => exact .ok (hone _ _ h)

/-- What one takes from sequences that go together by keys that do. -/
theorem selectFrom_paired {α α' β β' : Type} {R : α → α' → Prop} {S : β → β' → Prop}
    {xs : List α} {ys : List α'} (hxs : List.Forall₂ R xs ys) {one : α → β} {one' : α' → β'}
    (hone : ∀ x y, R x y → S (one x) (one' y)) {many : List α → β} {many' : List α' → β'}
    (hmany : ∀ xs ys, List.Forall₂ R xs ys → S (many xs) (many' ys)) {k k' : Value}
    (hk : k.Paired p k') :
    p.Alike S (selectFrom xs one many k) (selectFrom ys one' many' k') := by
  have hselect : ∀ ps : List Nat,
      List.Forall₂ R (Sequence.select xs ps) (Sequence.select ys ps) := by
    intro ps
    rw [Sequence.select, Sequence.select]
    refine List.rel_filterMap (R := Eq) ?_ (List.forall₂_same.mpr fun _ _ => rfl)
    rintro i _ rfl
    show Option.Rel R xs.toArray[i]? ys.toArray[i]?
    rw [List.getElem?_toArray, List.getElem?_toArray]
    exact getElem?_of_forall₂ hxs i
  have hitem := hk.asIndex.bind_eq (alike_item hxs hone)
  cases hk with
  | slice ha hb hc =>
    refine (sliceBounds_paired ha hb hc).bind_eq fun bounds => .ok (hmany _ _ ?_)
    rw [hxs.length_eq]
    exact hselect _
  | atom h => cases k <;> first | exact hitem | cases h
  | _ => exact hitem

theorem agrees_getItem {v w k k' : Value} (hv : v.Paired p w) (hk : k.Paired p k') :
    p.Agrees Value.Paired (getItem v k) (getItem w k') := by
  cases hv with
  | dict hr =>
    unfold getItem
    dsimp only
    rw [hk.isKey]
    split
    · exact Pairing.agrees_fail rfl
    · refine agree_get_bind fun h h' hp => ?_
      have hfind := hp.lookup hr hk
      generalize h.lookup _ k = x, h'.lookup _ k' = y at hfind
      cases hfind with
      | none => exact Pairing.agrees_fail rfl
      | some hv => exact agree_pure hv
  | list hr =>
    refine Pairing.agrees_items_bind hr fun vs ws hvs => ?_
    refine Pairing.agrees_lift_bind (selectFrom_paired
      (S := Sum.LiftRel (Value.Paired p) p.Values) hvs (fun _ _ h => .inl h)
      (fun _ _ h => .inr h) hk) ?_
    rintro _ _ (h | h)
    · exact agree_pure h
    · exact Pairing.agrees_newList h
  | tuple hvs =>
    exact Pairing.agrees_lift (selectFrom_paired hvs (fun _ _ h => h) (fun _ _ h => .tuple h) hk)
  | atom h =>
    have hsame : ∀ {α : Type} (xs : List α), List.Forall₂ Eq xs xs :=
      fun xs => List.forall₂_same.mpr fun _ _ => rfl
    cases v with
    | str _ | bytes _ =>
      refine Pairing.agrees_lift (selectFrom_paired (hsame _) ?_ ?_ hk)
      · rintro c _ rfl
        exact .atom rfl
      · intro cs cs' hcs
        rw [List.forall₂_eq_eq_eq] at hcs
        subst hcs
        exact .atom rfl
    | _ => first | exact Pairing.agrees_fail rfl | cases h
  | _ => exact Pairing.agrees_fail rfl

theorem agrees_getItemOrNull {v w k k' : Value} (hv : v.Paired p w) (hk : k.Paired p k') :
    p.Agrees Value.Paired (getItemOrNull v k) (getItemOrNull w k') := by
  rw [getItemOrNull_eq, getItemOrNull_eq]
  refine Agree.tryCatch (agrees_getItem hv hk) ?_
  rintro q hpq e _ ⟨rfl, he⟩
  split
  · exact agree_pure (.atom rfl)
  · exact agree_pure (.atom rfl)
  · exact Pairing.agrees_throw he

/-! ## Repeating and joining -/

theorem alike_checkRepeat (size : Nat) (count : Int) :
    p.Alike Eq (checkRepeat size count) (checkRepeat size count) := by
  unfold checkRepeat
  exact Pairing.alike_guard rfl (Pairing.alike_guard rfl (.ok rfl))

theorem repeatItems_paired {vs ws : List Value} (h : p.Values vs ws) (n : Nat) :
    p.Values (repeatItems vs n) (repeatItems ws n) := by
  refine List.rel_flatten ?_
  induction n with
  | zero => exact .nil
  | succ n ih => exact .cons h ih

theorem agrees_repeatValue {v w : Value} (hv : v.Paired p w) (count : Int) :
    p.Agrees Value.Paired (repeatValue v count) (repeatValue w count) := by
  cases hv with
  | tuple h =>
    unfold repeatValue
    dsimp only
    rw [h.length_eq]
    refine Pairing.agrees_lift_bind (alike_checkRepeat _ _) ?_
    rintro n _ rfl
    exact agree_pure (.tuple (repeatItems_paired h n))
  | list hr =>
    refine Pairing.agrees_items_bind hr fun vs ws h => ?_
    rw [h.length_eq]
    refine Pairing.agrees_lift_bind (alike_checkRepeat _ _) ?_
    rintro n _ rfl
    exact Pairing.agrees_newList (repeatItems_paired h n)
  | atom h =>
    cases v with
    | str s =>
      refine Pairing.agrees_lift_bind (alike_checkRepeat _ _) ?_
      rintro n _ rfl
      exact agree_pure (.atom rfl)
    | bytes bs =>
      refine Pairing.agrees_lift_bind (alike_checkRepeat _ _) ?_
      rintro n _ rfl
      exact agree_pure (.atom rfl)
    | _ => first | exact Pairing.agrees_fail rfl | cases h
  | _ => exact Pairing.agrees_fail rfl

theorem agrees_joinValues {v w v' w' : Value} (hv : v.Paired p v') (hw : w.Paired p w') :
    p.Agrees Value.Paired (joinValues v w) (joinValues v' w') := by
  cases hv with
  | tuple h =>
    cases hw with
    | tuple h' => exact agree_pure (.tuple (List.rel_append h h'))
    | atom h' =>
      cases w with
      | tuple _ => cases h'
      | _ => exact Pairing.agrees_fail rfl
    | _ => exact Pairing.agrees_fail rfl
  | list hr =>
    cases hw with
    | list hs =>
      refine Pairing.agrees_items_bind hr fun vs ws h => ?_
      refine Pairing.agrees_items_bind hs fun vs' ws' h' => ?_
      exact Pairing.agrees_newList (List.rel_append h h')
    | atom h' =>
      cases w with
      | list _ => cases h'
      | _ => exact Pairing.agrees_fail rfl
    | _ => exact Pairing.agrees_fail rfl
  | atom h =>
    cases v with
    | str s =>
      cases hw with
      | atom h' =>
        cases w with
        | str t => exact agree_pure (.atom rfl)
        | _ => exact Pairing.agrees_fail rfl
      | _ => exact Pairing.agrees_fail rfl
    | bytes bs =>
      cases hw with
      | atom h' =>
        cases w with
        | bytes _ => exact agree_pure (.atom rfl)
        | _ => exact Pairing.agrees_fail rfl
      | _ => exact Pairing.agrees_fail rfl
    | tuple _ | list _ => cases h
    | _ => exact Pairing.agrees_fail rfl
  | _ => exact Pairing.agrees_fail rfl

/-! ## Operators -/

theorem Number.alike_apply (op : BinaryOp) (m n : Number) :
    p.Alike Eq (Number.apply op m n) (Number.apply op m n) := by
  cases op with
  | add => exact alike_widen (fun _ _ => .ok rfl) (fun _ _ => .ok rfl) (fun _ _ => .ok rfl) m n
  | sub => exact alike_widen (fun _ _ => .ok rfl) (fun _ _ => .ok rfl) (fun _ _ => .ok rfl) m n
  | mul => exact alike_widen (fun _ _ => .ok rfl) (fun _ _ => .ok rfl) (fun _ _ => .ok rfl) m n
  | div => exact alike_div m n
  | floorDiv => exact alike_floorDiv m n
  | mod => exact alike_mod m n

/-- A product with a value that counts on the right. -/
theorem applyToSequences_of_right {v w : Value} {n : Int} (h : w.asIndex = .ok n) :
    applyToSequences .mul v w = repeatValue v n := by
  cases w <;> cases h <;> simp only [applyToSequences]

/-- A product with a value that counts on the left only. -/
theorem applyToSequences_of_left {v w : Value} {n : Int} {f : Failure} (h : v.asIndex = .ok n)
    (hw : w.asIndex = .error f) : applyToSequences .mul v w = repeatValue w n := by
  cases v <;> cases h <;> cases w <;> first | contradiction | rfl

theorem applyToSequences_of_neither {v w : Value} {f g : Failure} (h : v.asIndex = .error f)
    (hw : w.asIndex = .error g) : applyToSequences .mul v w = Eval.fail .type := by
  unfold applyToSequences
  split <;> first | contradiction | cases h | cases hw | rfl

/-- Values that go together count alike, or none of them counts. -/
theorem Value.Paired.asIndex_cases {v w : Value} (hv : v.Paired p w) :
    (∃ n, v.asIndex = .ok n ∧ w.asIndex = .ok n) ∨
      ∃ f, v.asIndex = .error f ∧ w.asIndex = .error f := by
  have hi := hv.asIndex
  generalize v.asIndex = x, w.asIndex = y at hi
  cases hi with
  | ok h => exact .inl ⟨_, rfl, h ▸ rfl⟩
  | error h => exact .inr ⟨_, rfl, h.1 ▸ rfl⟩

theorem agrees_applyToSequences (op : BinaryOp) {v w v' w' : Value} (hv : v.Paired p v')
    (hw : w.Paired p w') :
    p.Agrees Value.Paired (applyToSequences op v w) (applyToSequences op v' w') := by
  cases op with
  | add => exact agrees_joinValues hv hw
  | mul =>
    obtain ⟨n, hx, hy⟩ | ⟨f, hx, hy⟩ := hw.asIndex_cases
    · rw [applyToSequences_of_right hx, applyToSequences_of_right hy]
      exact agrees_repeatValue hv n
    · obtain ⟨n, hx', hy'⟩ | ⟨g, hx', hy'⟩ := hv.asIndex_cases
      · rw [applyToSequences_of_left hx' hx, applyToSequences_of_left hy' hy]
        exact agrees_repeatValue hw n
      · rw [applyToSequences_of_neither hx' hx, applyToSequences_of_neither hy' hy]
        exact Pairing.agrees_fail rfl
  | mod =>
    cases hv with
    | atom h =>
      cases v with
      | str s =>
        refine agree_get_bind fun h h' hp => ?_
        refine Pairing.agrees_lift_bind (Percent.text_paired hp s hw) ?_
        rintro text _ rfl
        exact agree_pure (.atom rfl)
      | bytes bs =>
        refine agree_get_bind fun h h' hp => ?_
        refine Pairing.agrees_lift_bind (Percent.bytes_paired hp bs hw) ?_
        rintro text _ rfl
        exact agree_pure (.atom rfl)
      | _ => exact Pairing.agrees_fail rfl
    | _ => exact Pairing.agrees_fail rfl
  | _ => exact Pairing.agrees_fail rfl

theorem BinaryOp.agrees_apply (op : BinaryOp) {v w v' w' : Value} (hv : v.Paired p v')
    (hw : w.Paired p w') : p.Agrees Value.Paired (op.apply v w) (op.apply v' w') := by
  unfold BinaryOp.apply
  rw [hv.ofValue?, hw.ofValue?]
  split
  · refine Pairing.agrees_lift ((Number.alike_apply op _ _).map ?_)
    rintro n _ rfl
    exact .atom n.isAtom_toValue
  · exact agrees_applyToSequences op hv hw

theorem UnaryOp.agrees_apply (op : UnaryOp) {v w : Value} (hv : v.Paired p w) :
    p.Agrees Value.Paired (op.apply v) (op.apply w) := by
  cases op with
  | not =>
    refine agree_get_bind fun h h' hp => ?_
    rw [hp.truthy hv]
    exact agree_pure (.atom rfl)
  | plus =>
    unfold UnaryOp.apply
    dsimp only
    rw [hv.ofValue?]
    split
    · next n _ => exact agree_pure (.atom n.isAtom_toValue)
    · exact Pairing.agrees_fail rfl
  | minus =>
    unfold UnaryOp.apply
    dsimp only
    rw [hv.ofValue?]
    split
    · next n _ => exact agree_pure (.atom n.neg.isAtom_toValue)
    · exact Pairing.agrees_fail rfl

theorem Heap.Paired.holds {h h' : Heap} (hp : h.Paired p h') {v w v' w' : Value}
    (hv : v.Paired p v') (hw : w.Paired p w') : p.Alike Eq (h.holds v w) (h'.holds v' w') := by
  have hany : ∀ {vs ws : List Value}, p.Values vs ws →
      (vs.any fun x => h.itemEq x v) = ws.any fun x => h'.itemEq x v' :=
    fun hvs => any_eq_of_forall₂ hvs fun _ _ hx => hp.itemEq hx hv
  cases hw with
  | atom hatom =>
    cases w with
    | str s => exact hv.asText.bind_eq fun pat => .ok rfl
    | bytes bs => exact (TextKind.bytes.pattern_paired hv).bind_eq fun pat => .ok rfl
    | _ => first | exact Pairing.alike_error rfl | cases hatom
  | tuple hvs => exact .ok (hany hvs)
  | list hr =>
    refine .ok ?_
    rw [← Array.any_toList, ← Array.any_toList]
    exact hany (hp.items hr)
  | dict hr =>
    unfold Heap.holds
    dsimp only
    rw [hv.isKey]
    split
    · exact .ok (Pairing.isSome_eq (hp.lookup hr hv))
    · exact Pairing.alike_error rfl
  | _ => exact Pairing.alike_error rfl

theorem CompareOp.agrees_apply (op : CompareOp) (made : Bool) {v w v' w' : Value}
    (hv : v.Paired p v') (hw : w.Paired p w') :
    p.Agrees (fun _ => Eq) (op.apply made v w) (op.apply made v' w') := by
  refine agree_get_bind fun h h' hp => ?_
  cases op with
  | eq => exact agree_pure (hp.eq hv hw)
  | ne => exact agree_pure (congrArg not (hp.eq hv hw))
  | is => exact agree_pure (hv.isOne hw made)
  | isNot => exact agree_pure (congrArg not (hv.isOne hw made))
  | isIn => exact Pairing.agrees_lift (hp.holds hv hw)
  | notIn =>
    refine Pairing.agrees_lift_bind (hp.holds hv hw) ?_
    rintro b _ rfl
    exact agree_pure rfl
  | _ => exact Pairing.agrees_lift (hp.order _ hv hw)

end Wording
