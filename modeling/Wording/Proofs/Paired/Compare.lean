import Wording.Proofs.Paired.Heap
import Wording.Proofs.Value.Fuel
import Wording.Value.TextMethods

/-!
# Comparing and showing values that go together

Values that go together, on heaps that do, are told apart from others alike: identity, equality,
order, truth, the items of a walk and the shown text come out the same. The comparisons follow the
structure of the left value, and the lemmas do so too; on references they take over what is known for
one unit of fuel less.

* `Heap.Paired.eq`, `Heap.Paired.order`, `Heap.Paired.truthy`, `Heap.Paired.elements`
* `Heap.Paired.repr`, `Heap.Paired.display`
-/

namespace Wording

variable {p : Pairing}

/-- What is computed alike from what goes together comes out as one list. -/
theorem map_eq_of_forall₂ {α α' β : Type} {R : α → α' → Prop} {f : α → β} {g : α' → β}
    {xs : List α} {ys : List α'} (h : List.Forall₂ R xs ys) (hfg : ∀ x y, R x y → f x = g y) :
    xs.map f = ys.map g := by
  induction h with
  | nil => rfl
  | cons h _ ih => rw [List.map_cons, List.map_cons, hfg _ _ h, ih]

theorem all_eq_of_forall₂ {α α' : Type} {R : α → α' → Prop} {f : α → Bool} {g : α' → Bool}
    {xs : List α} {ys : List α'} (h : List.Forall₂ R xs ys) (hfg : ∀ x y, R x y → f x = g y) :
    xs.all f = ys.all g := by
  have hmap := congrArg (List.all · id) (map_eq_of_forall₂ h hfg)
  rwa [List.all_map, List.all_map] at hmap

theorem any_eq_of_forall₂ {α α' : Type} {R : α → α' → Prop} {f : α → Bool} {g : α' → Bool}
    {xs : List α} {ys : List α'} (h : List.Forall₂ R xs ys) (hfg : ∀ x y, R x y → f x = g y) :
    xs.any f = ys.any g := by
  have hmap := congrArg (List.any · id) (map_eq_of_forall₂ h hfg)
  rwa [List.any_map, List.any_map] at hmap

theorem getElem?_of_forall₂ {α α' : Type} {R : α → α' → Prop} {xs : List α} {ys : List α'}
    (h : List.Forall₂ R xs ys) (i : Nat) : Option.Rel R xs[i]? ys[i]? := by
  induction h generalizing i with
  | nil => exact .none
  | cons h _ ih =>
    cases i with
    | zero => exact .some h
    | succ i => exact ih i

/-- A result that fails in an ordinary way if it fails. -/
theorem Pairing.alike_self {α : Type} {x : Except Failure α}
    (h : ∀ f, x = .error f → f.isOrdinary = true) : p.Alike Eq x x := by
  cases x with
  | ok a => exact .ok rfl
  | error f => exact .error ⟨rfl, p.ordinary f (h f rfl)⟩

namespace Value.Paired

/-! ## Identity -/

mutual

theorem same {v w v' w' : Value} (hv : v.Paired p v') (hw : w.Paired p w') : v.same w = v'.same w' := by
  cases hv with
  | atom h =>
    cases hw with
    | atom _ => rfl
    | _ => cases v <;> first | rfl | cases h
  | tuple h =>
    cases hw with
    | atom h' => cases w <;> first | rfl | cases h'
    | tuple h' =>
      rw [Value.same, Value.same]
      exact Value.Paired.sameAll h h'
    | _ => rfl
  | slice _ _ _ => rfl
  | list h =>
    cases hw with
    | atom h' => cases w <;> first | rfl | cases h'
    | list h' => exact decide_eq_decide.mpr (p.unique h h')
    | _ => rfl
  | dict h =>
    cases hw with
    | atom h' => cases w <;> first | rfl | cases h'
    | dict h' => exact decide_eq_decide.mpr (p.unique h h')
    | _ => rfl
  | record h =>
    cases hw with
    | atom h' => cases w <;> first | rfl | cases h'
    | record h' => exact decide_eq_decide.mpr (p.unique h h')
    | _ => rfl
  | method h m =>
    cases hw with
    | atom h' => cases w <;> first | rfl | cases h'
    | method h' n =>
      rw [Value.same, Value.same]
      exact congrArg _ (h.same h')
    | _ => rfl
  | constant h =>
    cases hw with
    | atom h' => cases w <;> first | rfl | cases h'
    | constant h' =>
      rw [Value.same, Value.same]
      exact h.same h'
    | _ => rfl
  | entryAt h =>
    cases hw with
    | atom h' => cases w <;> first | rfl | cases h'
    | entryAt h' =>
      rw [Value.same, Value.same]
      exact h.same h'
    | _ => rfl
  | failing h =>
    cases hw with
    | atom h' => cases w <;> rfl
    | _ => rfl

theorem sameAll {vs ws vs' ws' : List Value} (hv : p.Values vs vs') (hw : p.Values ws ws') :
    Value.sameAll vs ws = Value.sameAll vs' ws' := by
  cases hv with
  | nil => cases hw <;> rfl
  | cons hx hxs =>
    cases hw with
    | nil => rfl
    | cons hy hys =>
      rw [Value.sameAll, Value.sameAll, hx.same hy, Value.Paired.sameAll hxs hys]

end

theorem isOne {v w v' w' : Value} (hv : v.Paired p v') (hw : w.Paired p w') (made : Bool) :
    v.isOne made w = v'.isOne made w' := by
  rw [Value.isOne, Value.isOne, hv.same hw, hv.isShared]

end Value.Paired

/-! ## Equality -/

/-- Comparisons that come out the same on values that go together. -/
abbrev Pairing.Compares {β : Type} (p : Pairing) (f g : Value → Value → β) : Prop :=
  ∀ ⦃v v' w w' : Value⦄, v.Paired p v' → w.Paired p w' → f v w = g v' w'

namespace Value.Paired

variable {deep deep' : Value → Value → Bool}

mutual

theorem eqWith {v w v' w' : Value} (hd : p.Compares deep deep') (hv : v.Paired p v') (hw : w.Paired p w') :
    v.eqWith deep w = v'.eqWith deep' w' := by
  have hatoms : (match Number.ofValue? v, Number.ofValue? w with
      | some m, some n => m.eq n
      | _, _ => v.same w) = match Number.ofValue? v', Number.ofValue? w' with
      | some m, some n => m.eq n
      | _, _ => v'.same w' := by
    rw [hv.ofValue?, hw.ofValue?, hv.same hw]
  cases hv with
  | tuple h =>
    cases hw with
    | atom h' => cases w <;> first | rfl | cases h'
    | tuple h' =>
      rw [Value.eqWith, Value.eqWith]
      exact Value.Paired.eqAllWith hd h h'
    | _ => rfl
  | list h =>
    cases hw with
    | atom h' => cases w <;> first | rfl | cases h'
    | list h' => exact hd (.list h) (.list h')
    | _ => rfl
  | dict h =>
    cases hw with
    | atom h' => cases w <;> first | rfl | cases h'
    | dict h' => exact hd (.dict h) (.dict h')
    | _ => rfl
  | record h =>
    cases hw with
    | atom h' => cases w <;> first | rfl | cases h'
    | record h' => exact hd (.record h) (.record h')
    | _ => rfl
  | atom h => cases v <;> first | exact hatoms | cases h
  | _ => exact hatoms

theorem eqAllWith {vs ws vs' ws' : List Value} (hd : p.Compares deep deep')
    (hv : p.Values vs vs') (hw : p.Values ws ws') :
    Value.eqAllWith deep vs ws = Value.eqAllWith deep' vs' ws' := by
  cases hv with
  | nil => cases hw <;> rfl
  | cons hx hxs =>
    cases hw with
    | nil => rfl
    | cons hy hys =>
      rw [Value.eqAllWith, Value.eqAllWith, hx.same hy, hx.eqWith hd hy,
        Value.Paired.eqAllWith hd hxs hys]

end

end Value.Paired

namespace Heap.Paired

variable {h h' : Heap} {v w v' w' : Value}

theorem eqEntries {eq eq' : Value → Value → Bool} {a b a' b' : Entries}
    (he : p.Compares eq eq') (ha : p.Entries a a') (hb : p.Entries b b') :
    Heap.eqEntries eq a b = Heap.eqEntries eq' a' b' := by
  rw [Heap.eqEntries, Heap.eqEntries, ha.length_eq, hb.length_eq]
  refine congrArg (_ && ·) (all_eq_of_forall₂ ha fun d e hde => ?_)
  have hfind : p.Optional (b.lookup d.1) (b'.lookup e.1) := Keyed.find?_paired hb hde.1
  generalize b.lookup d.1 = x, b'.lookup e.1 = y at hfind
  cases hfind with
  | none => rfl
  | some hv =>
    dsimp only
    rw [hde.2.same hv, he hde.2 hv]

theorem eqAt (hp : h.Paired p h') (fuel : Nat) : p.Compares (h.eqAt fuel) (h'.eqAt fuel) := by
  induction fuel with
  | zero => exact fun _ _ _ _ _ _ => rfl
  | succ fuel ih =>
    intro v v' w w' hv hw
    rw [Heap.eqAt, Heap.eqAt]
    refine hv.eqWith ?_ hw
    intro v v' w w' hv hw
    cases hv with
    | list hr =>
      cases hw with
      | list hs =>
        exact congrArg₂ (· || ·) (decide_eq_decide.mpr (p.unique hr hs))
          (Value.Paired.eqAllWith ih (hp.items hr) (hp.items hs))
      | atom h' => cases w <;> first | rfl | cases h'
      | _ => rfl
    | dict hr =>
      cases hw with
      | dict hs =>
        exact congrArg₂ (· || ·) (decide_eq_decide.mpr (p.unique hr hs))
          (eqEntries ih (hp.entries hr) (hp.entries hs))
      | atom h' => cases w <;> first | rfl | cases h'
      | _ => rfl
    | record hr =>
      have hnamed : ∀ {r s}, p.ref r s →
          p.Entries ((h.attributes r).map fun e => (Value.str e.1, e.2))
            ((h'.attributes s).map fun e => (Value.str e.1, e.2)) := by
        intro r s hr
        refine List.rel_map (fun m n hmn => ⟨?_, hmn.2⟩) (hp.attributes hr)
        rw [hmn.1]
        exact .atom rfl
      cases hw with
      | record hs =>
        exact congrArg₂ (· || ·) (decide_eq_decide.mpr (p.unique hr hs))
          (eqEntries ih (hnamed hr) (hnamed hs))
      | atom h' => cases w <;> first | rfl | cases h'
      | _ => rfl
    | atom h => cases v <;> first | rfl | cases h
    | _ => rfl

/-- The left heap is no larger than the right one. -/
theorem size_le (hp : h.Paired p h') : h.cells.size ≤ h'.cells.size :=
  hp.size ▸ Nat.le_add_right _ _

theorem depth_le (hp : h.Paired p h') : h.depth ≤ h'.depth :=
  Nat.succ_le_succ (Nat.mul_le_mul hp.size_le hp.size_le)

theorem depth (hp : h.Paired p h') (hlevel : p.gap = 0) : h.depth = h'.depth := by
  rw [Heap.depth, Heap.depth, hp.size_of_level hlevel]

/-- Whatever the larger heap could take longer to tell is told with the fuel of the smaller one. -/
theorem eq (hp : h.Paired p h') : p.Compares h.eq h'.eq := by
  intro v v' w w' hv hw
  rw [← h.eqAt_eq hp.depth_le]
  exact hp.eqAt _ hv hw

theorem itemEq (hp : h.Paired p h') : p.Compares h.itemEq h'.itemEq := by
  intro v v' w w' hv hw
  rw [Heap.itemEq, Heap.itemEq, hv.same hw, hp.eq hv hw]

end Heap.Paired

/-! ## Order -/

/-- Orders that come out the same on values that go together, or fail alike. -/
abbrev Pairing.Orders (p : Pairing) (f g : Value → Value → Except Failure Bool) : Prop :=
  ∀ ⦃v v' w w' : Value⦄, v.Paired p v' → w.Paired p w' → p.Alike Eq (f v w) (g v' w')

theorem Value.eq_type_of_orderAtoms {op : CompareOp} {v w : Value} {f : Failure}
    (h : v.orderAtoms op w = .error f) : f = .type := by
  unfold Value.orderAtoms at h
  split at h
  · split at h <;> cases h
    rfl
  · split at h <;> cases h
    rfl

namespace Value.Paired

theorem orderAtoms {v w v' w' : Value} (op : CompareOp) (hv : v.Paired p v')
    (hw : w.Paired p w') : p.Alike Eq (v.orderAtoms op w) (v'.orderAtoms op w') := by
  cases hv with
  | atom h =>
    cases hw with
    | atom _ => exact Pairing.alike_self fun f hf => by rw [Value.eq_type_of_orderAtoms hf]; rfl
    | _ => cases v <;> exact Pairing.alike_error rfl
  | _ =>
    cases hw with
    | atom h => cases w <;> exact Pairing.alike_error rfl
    | _ => exact Pairing.alike_error rfl

variable {eq eq' : Value → Value → Bool} {deep deep' : Value → Value → Except Failure Bool}

mutual

theorem orderWith {v w v' w' : Value} (he : p.Compares eq eq') (hd : p.Orders deep deep')
    (op : CompareOp) (hv : v.Paired p v') (hw : w.Paired p w') :
    p.Alike Eq (v.orderWith eq deep op w) (v'.orderWith eq' deep' op w') := by
  have hatoms := hv.orderAtoms op hw
  cases hv with
  | tuple h =>
    cases hw with
    | atom h' => cases w <;> first | exact Pairing.alike_error rfl | cases h'
    | tuple h' =>
      rw [Value.orderWith, Value.orderWith]
      exact Value.Paired.orderAllWith he hd op h h'
    | _ => exact Pairing.alike_error rfl
  | list h =>
    cases hw with
    | atom h' => cases w <;> first | exact Pairing.alike_error rfl | cases h'
    | list h' => exact hd (.list h) (.list h')
    | _ => exact Pairing.alike_error rfl
  | atom h => cases v <;> first | exact hatoms | cases h
  | _ => exact hatoms

theorem orderAllWith {vs ws vs' ws' : List Value} (he : p.Compares eq eq')
    (hd : p.Orders deep deep') (op : CompareOp) (hv : p.Values vs vs') (hw : p.Values ws ws') :
    p.Alike Eq (Value.orderAllWith eq deep op vs ws) (Value.orderAllWith eq' deep' op vs' ws') := by
  cases hv with
  | nil => cases hw <;> exact .ok rfl
  | cons hx hxs =>
    cases hw with
    | nil => exact .ok rfl
    | cons hy hys =>
      rw [Value.orderAllWith, Value.orderAllWith, hx.same hy, he hx hy]
      split
      · exact Value.Paired.orderAllWith he hd op hxs hys
      · exact hx.orderWith he hd op hy

end

end Value.Paired

namespace Heap.Paired

variable {h h' : Heap} {v w : Value}

theorem orderAt (hp : h.Paired p h') (op : CompareOp) (fuel : Nat) :
    p.Orders (h.orderAt op fuel) (h'.orderAt op fuel) := by
  induction fuel with
  | zero => exact fun _ _ _ _ _ _ => Pairing.alike_error rfl
  | succ fuel ih =>
    intro v v' w w' hv hw
    rw [Heap.orderAt, Heap.orderAt]
    refine hv.orderWith hp.eq ?_ op hw
    intro v v' w w' hv hw
    cases hv with
    | list hr =>
      cases hw with
      | list hs => exact Value.Paired.orderAllWith hp.eq ih op (hp.items hr) (hp.items hs)
      | atom h' => cases w <;> first | exact Pairing.alike_error rfl | cases h'
      | _ => exact Pairing.alike_error rfl
    | atom h => cases v <;> first | exact Pairing.alike_error rfl | cases h
    | _ => exact Pairing.alike_error rfl

theorem order (hp : h.Paired p h') (op : CompareOp) : p.Orders (h.order op) (h'.order op) := by
  intro v v' w w' hv hw
  rw [← h.orderAt_eq op hp.depth_le]
  exact hp.orderAt op _ hv hw

/-! ## Truth and items -/

theorem truthy (hp : h.Paired p h') (hv : v.Paired p w) : h.truthy v = h'.truthy w := by
  cases hv with
  | atom h => cases v <;> first | rfl | cases h
  | tuple h => cases h <;> rfl
  | list h =>
    rw [Heap.truthy, Heap.truthy, ← Array.length_toList, ← Array.length_toList,
      (hp.items h).length_eq]
  | dict h =>
    have he := hp.entries h
    rw [Heap.truthy, Heap.truthy]
    generalize Heap.entries _ _ = es, h'.entries _ = es' at he
    cases he <;> rfl
  | _ => rfl

theorem elements (hp : h.Paired p h') (hv : v.Paired p w) :
    p.Alike p.Values (h.elements v) (h'.elements w) := by
  have hsame : ∀ {vs : List Value}, (∀ v ∈ vs, v.isAtom = true) → p.Values vs vs :=
    fun h => List.forall₂_same.mpr fun v hv => .atom (h v hv)
  cases hv with
  | atom h =>
    cases v with
    | str s =>
      refine .ok (hsame ?_)
      simp only [List.mem_map]
      rintro v ⟨c, -, rfl⟩
      rfl
    | bytes bs =>
      refine .ok (hsame ?_)
      simp only [List.mem_map]
      rintro v ⟨c, -, rfl⟩
      rfl
    | _ => first | exact Pairing.alike_error rfl | cases h
  | tuple h => exact .ok h
  | list h => exact .ok (hp.items h)
  | dict h => exact .ok (List.rel_map (fun _ _ h => h.1) (hp.entries h))
  | _ => exact Pairing.alike_error rfl

end Heap.Paired

/-! ## Shown text -/

/-- Texts of values that come out the same on values that go together, or fail alike. -/
abbrev Pairing.Shows (p : Pairing) (f g : Value → Except Failure String) : Prop :=
  ∀ ⦃v w : Value⦄, v.Paired p w → p.Alike Eq (f v) (g w)

theorem alike_intText (n : Int) : p.Alike Eq (intText n) (intText n) := by
  refine Pairing.alike_self fun f hf => ?_
  rw [intText] at hf
  split at hf <;> cases hf
  rfl

namespace Value.Paired

theorem atomText {v w : Value} (hv : v.Paired p w) : p.Alike Eq v.atomText w.atomText := by
  cases hv with
  | atom h =>
    cases v with
    | int n => exact alike_intText n
    | helper f => cases f <;> exact .ok rfl
    | _ => exact .ok rfl
  | _ => exact .ok rfl

variable {deep deep' : Value → Except Failure String}

mutual

theorem reprWith {v w : Value} (hd : p.Shows deep deep') (hv : v.Paired p w) :
    p.Alike Eq (v.reprWith deep) (w.reprWith deep') := by
  have hatom := hv.atomText
  cases hv with
  | tuple h =>
    rw [Value.reprWith, Value.reprWith]
    refine (Value.Paired.reprAllWith hd h).bind ?_
    rintro texts _ rfl
    exact .ok rfl
  | list h => exact hd (.list h)
  | dict h => exact hd (.dict h)
  | record h => exact hd (.record h)
  | slice ha hb hc =>
    rw [Value.reprWith, Value.reprWith]
    refine (ha.reprWith hd).bind ?_
    rintro lower _ rfl
    refine (hb.reprWith hd).bind ?_
    rintro upper _ rfl
    refine (hc.reprWith hd).bind ?_
    rintro step _ rfl
    exact .ok rfl
  | atom h => cases v <;> first | exact hatom | cases h
  | _ => exact hatom

theorem reprAllWith {vs ws : List Value} (hd : p.Shows deep deep') (hv : p.Values vs ws) :
    p.Alike Eq (Value.reprAllWith deep vs) (Value.reprAllWith deep' ws) := by
  cases hv with
  | nil => exact .ok rfl
  | cons hx hxs =>
    rw [Value.reprAllWith, Value.reprAllWith]
    refine (hx.reprWith hd).bind ?_
    rintro text _ rfl
    refine (Value.Paired.reprAllWith hd hxs).bind ?_
    rintro texts _ rfl
    exact .ok rfl

end

end Value.Paired

namespace Heap.Paired

variable {h h' : Heap} {v w : Value} {text text' : Value → Except Failure String}

theorem entryTexts (ht : p.Shows text text') {es es' : Entries} (he : p.Entries es es') :
    p.Alike Eq (Heap.entryTexts text es) (Heap.entryTexts text' es') := by
  induction he with
  | nil => exact .ok rfl
  | cons he _ ih =>
    rw [Heap.entryTexts, Heap.entryTexts]
    refine (ht he.1).bind ?_
    rintro key _ rfl
    refine (ht he.2).bind ?_
    rintro value _ rfl
    refine ih.bind ?_
    rintro texts _ rfl
    exact .ok rfl

theorem attributeTexts (ht : p.Shows text text') {ms ns : List (String × Value)}
    (hn : p.Named ms ns) :
    p.Alike Eq (Heap.attributeTexts text ms) (Heap.attributeTexts text' ns) := by
  induction hn with
  | nil => exact .ok rfl
  | cons hn _ ih =>
    rw [Heap.attributeTexts, Heap.attributeTexts]
    refine (ht hn.2).bind ?_
    rintro value _ rfl
    refine ih.bind ?_
    rintro texts _ rfl
    rw [hn.1]
    exact .ok rfl

/-- The places that are being shown are the same on both sides. -/
theorem contains_eq {rs ss : List Ref} (h : List.Forall₂ p.ref rs ss) {r s : Ref}
    (hr : p.ref r s) : rs.contains r = ss.contains s := by
  induction h with
  | nil => rfl
  | cons hd _ ih =>
    rw [List.contains_cons, List.contains_cons, ih]
    exact congrArg (· || _) (decide_eq_decide.mpr (p.unique hr hd))

theorem reprAt (hp : h.Paired p h') (fuel : Nat) {rs ss : List Ref}
    (ha : List.Forall₂ p.ref rs ss) : p.Shows (h.reprAt fuel rs) (h'.reprAt fuel ss) := by
  induction fuel generalizing rs ss with
  | zero => exact fun _ _ _ => Pairing.alike_error rfl
  | succ fuel ih =>
    intro v w hv
    rw [Heap.reprAt, Heap.reprAt]
    refine hv.reprWith ?_
    intro v w hv
    have hatom := hv.atomText
    cases hv with
    | list hr =>
      dsimp only
      rw [contains_eq ha hr]
      split
      · exact .ok rfl
      · refine (Value.Paired.reprAllWith (ih (.cons hr ha)) (hp.items hr)).bind ?_
        rintro texts _ rfl
        exact .ok rfl
    | dict hr =>
      dsimp only
      rw [contains_eq ha hr]
      split
      · exact .ok rfl
      · refine (entryTexts (ih (.cons hr ha)) (hp.entries hr)).bind ?_
        rintro texts _ rfl
        exact .ok rfl
    | record hr =>
      dsimp only
      rw [contains_eq ha hr]
      split
      · exact .ok rfl
      · refine (attributeTexts (ih (.cons hr ha)) (hp.attributes hr)).bind ?_
        rintro texts _ rfl
        exact .ok rfl
    | atom h => cases v <;> first | exact hatom | cases h
    | _ => exact hatom

theorem repr (hp : h.Paired p h') : p.Shows h.repr h'.repr := by
  intro v w hv
  rw [← h.reprAt_eq (Nat.lt_add_right 1 (Nat.lt_succ_of_le hp.size_le))]
  exact hp.reprAt _ .nil hv

theorem display (hp : h.Paired p h') : p.Shows h.display h'.display := by
  intro v w hv
  have hrepr := hp.repr hv
  cases hv with
  | atom h => cases v <;> first | exact .ok rfl | exact hrepr
  | _ => exact hrepr

end Heap.Paired

end Wording
