import Wording.Proofs.Paired.Operators
import Wording.Value.Call

/-!
# Calls on values that go together

A callable gives, on arguments and heaps that go together, a value that does, and changes lists that
go together alike. What a callable calls in turn, for the keys of a comparison, is a parameter: two
ways to call go together in a pairing (`Pairing.Calls`) if they do so in all that it grows to.

* `Sorting.sort_paired`: sorting
* `Pairing.Calls.invoke`: all callables but compiled templates
-/

namespace Wording

variable {p : Pairing}

/-! ## Sorting -/

namespace Sorting

variable {α α' : Type} {R : α → α' → Prop} {less : α → α → Except Failure Bool}
  {less' : α' → α' → Except Failure Bool}

/-- What sorting gives: items that go together, and a failure that may be if one stopped it. -/
def Sorted (p : Pairing) (R : α → α' → Prop) (x : List α × Option Failure)
    (y : List α' × Option Failure) : Prop :=
  List.Forall₂ R x.1 y.1 ∧
    Option.Rel (fun f g => f = g ∧ p.fault (.failure f)) x.2 y.2

variable (hless : ∀ ⦃x x' y y'⦄, R x x' → R y y' → p.Alike Eq (less x y) (less' x' y'))

include hless

theorem runLength_paired (falling : Bool) {x : α} {x' : α'} (hx : R x x') {xs : List α}
    {xs' : List α'} (hxs : List.Forall₂ R xs xs') :
    p.Alike Eq (runLength less falling x xs) (runLength less' falling x' xs') := by
  induction hxs generalizing x x' with
  | nil => exact .ok rfl
  | cons hy _ ih =>
    rw [runLength, runLength]
    refine (hless hy hx).bind_eq fun b => ?_
    split
    · exact (ih hy).bind_eq fun n => .ok rfl
    · exact .ok rfl

theorem place_paired {x : α} {x' : α'} (hx : R x x') {items : Array α} {items' : Array α'}
    (hi : List.Forall₂ R items.toList items'.toList) (low high : Nat) :
    p.Alike Eq (place less x items low high) (place less' x' items' low high) := by
  induction hn : high - low using Nat.strongRecOn generalizing low high with
  | _ n ih =>
    have hget := getElem?_of_forall₂ hi (low + (high - low) / 2)
    rw [Array.getElem?_toList, Array.getElem?_toList] at hget
    rw [place, place]
    split
    · next hlt =>
      dsimp only
      generalize items[low + (high - low) / 2]? = y, items'[low + (high - low) / 2]? = y' at hget
      cases hget with
      | none => exact .ok rfl
      | some hy =>
        have hxy := hless hx hy
        dsimp only
        generalize less x _ = r, less' x' _ = r' at hxy
        cases hxy with
        | error h => exact .error h
        | @ok b _ h =>
          subst h
          cases b with
          | true => exact ih _ (by omega) _ _ rfl
          | false => exact ih _ (by omega) _ _ rfl
    · exact .ok rfl

omit hless in
theorem forall₂_insertIdx {xs : List α} {xs' : List α'} (hxs : List.Forall₂ R xs xs') {x : α}
    {x' : α'} (hx : R x x') (i : Nat) : List.Forall₂ R (xs.insertIdx i x) (xs'.insertIdx i x') := by
  induction hxs generalizing i with
  | nil =>
    cases i with
    | zero => exact .cons hx .nil
    | succ i => exact .nil
  | cons h hs ih =>
    cases i with
    | zero => exact .cons hx (.cons h hs)
    | succ i => exact .cons h (ih i)

theorem insertAll_paired {sorted : List α} {sorted' : List α'}
    (hs : List.Forall₂ R sorted sorted') {xs : List α} {xs' : List α'}
    (hxs : List.Forall₂ R xs xs') :
    Sorted p R (insertAll less sorted.toArray xs) (insertAll less' sorted'.toArray xs') := by
  induction hxs generalizing sorted sorted' with
  | nil => exact ⟨hs, .none⟩
  | @cons x x' xs xs' hx hxs ih =>
    have hitems : List.Forall₂ R sorted.toArray.toList sorted'.toArray.toList := hs
    have hplace := place_paired hless hx hitems 0 sorted.toArray.size
    rw [insertAll, insertAll]
    have hsize : sorted'.toArray.size = sorted.toArray.size := hs.length_eq.symm
    rw [hsize]
    generalize place less x _ 0 _ = r, place less' x' _ 0 _ = r' at hplace
    cases hplace with
    | error h => exact ⟨List.rel_append hs (.cons hx hxs), .some h⟩
    | ok h =>
      subst h
      dsimp only
      rw [List.insertIdxIfInBounds_toArray, List.insertIdxIfInBounds_toArray]
      exact ih (forall₂_insertIdx hs hx _)

/-- Sorting by comparisons that come out the same. -/
theorem sort_paired {xs : List α} {xs' : List α'} (hxs : List.Forall₂ R xs xs') :
    Sorted p R (sort less xs) (sort less' xs') := by
  obtain _ | @⟨x, x', _, _, hx, _ | @⟨y, y', ys, ys', hy, hys⟩⟩ := hxs
  · exact ⟨.nil, .none⟩
  · exact ⟨.cons hx .nil, .none⟩
  · have hall := List.Forall₂.cons hx (.cons hy hys)
    have hrun : p.Alike Eq
        (do
          let falling ← less y x
          return (falling, ← runLength less falling y ys))
        (do
          let falling ← less' y' x'
          return (falling, ← runLength less' falling y' ys')) :=
      (hless hy hx).bind_eq fun falling =>
        (runLength_paired hless falling hy hys).bind_eq fun n => .ok rfl
    rw [sort, sort]
    dsimp only
    generalize (do
      let falling ← less y x
      return (falling, ← runLength less falling y ys) : Except Failure (Bool × Nat)) = r at hrun ⊢
    generalize (do
      let falling ← less' y' x'
      return (falling, ← runLength less' falling y' ys') : Except Failure (Bool × Nat)) = r'
      at hrun ⊢
    cases hrun with
    | error h => exact ⟨hall, .some h⟩
    | @ok b _ h =>
      obtain ⟨falling, n⟩ := b
      subst h
      have hstart := List.forall₂_take (n + 1) hall
      have hrest := List.forall₂_drop (n + 1) hall
      cases falling with
      | true => exact insertAll_paired hless (List.rel_reverse hstart) hrest
      | false => exact insertAll_paired hless hstart hrest

theorem sortDown_paired {xs : List α} {xs' : List α'} (hxs : List.Forall₂ R xs xs') :
    Sorted p R (sortDown less xs) (sortDown less' xs') := by
  obtain ⟨hys, he⟩ := sort_paired hless (List.rel_reverse hxs)
  exact ⟨List.rel_reverse hys, he⟩

end Sorting

/-! ## Ways to call -/

/-- Two ways to call go together if they do in all that the pairing grows to. -/
def Pairing.Calls (p : Pairing) (call call' : Caller) : Prop :=
  ∀ ⦃q⦄, p ≤ q → ∀ ⦃f g⦄, f.Paired q g → ∀ ⦃a b⦄, a.Paired q b →
    q.Agrees Value.Paired (call f a) (call' g b)

namespace Pairing

variable {call call' : Caller} {q : Pairing}

theorem Calls.mono (h : p.Calls call call') (hpq : p ≤ q) : q.Calls call call' :=
  fun _ hq => h (hpq.trans hq)

theorem Calls.agrees (h : p.Calls call call') {f g : Value} (hf : f.Paired p g) {a b : Arguments}
    (ha : a.Paired p b) : p.Agrees Value.Paired (call f a) (call' g b) := h le_rfl hf ha

/-! ## Keys of comparisons -/

theorem Calls.sortKey (h : p.Calls call call') {k k' : Value} (hk : k.Paired p k') {v w : Value}
    (hv : v.Paired p w) :
    p.Agrees Value.Paired (Eval.sortKey call k v) (Eval.sortKey call' k' w) := by
  have hcall : p.Agrees Value.Paired
      (if k.isCallable then call k ⟨[v], []⟩ else Eval.fail .type)
      (if k'.isCallable then call' k' ⟨[w], []⟩ else Eval.fail .type) := by
    rw [hk.isCallable]
    split
    · exact h.agrees hk ⟨.cons hv .nil, .nil⟩
    · exact agrees_fail rfl
  cases hk with
  | atom hatom =>
    cases k with
    | null => exact agree_pure hv
    | _ => exact hcall
  | _ => exact hcall

theorem Calls.sortKeys (h : p.Calls call call') {k k' : Value} (hk : k.Paired p k')
    {vs ws : List Value} (hvs : p.Values vs ws) :
    p.Agrees Pairing.Entries (Eval.sortKeys call k vs) (Eval.sortKeys call' k' ws) := by
  induction vs generalizing p ws with
  | nil =>
    cases hvs
    exact agree_pure .nil
  | cons v vs ih =>
    cases hvs with
    | cons hv hvs =>
      refine (h.sortKey hk hv).bind fun q hpq x y hxy => ?_
      refine (ih (h.mono hpq) (hk.mono hpq) (Values.mono hpq hvs)).bind fun r hqr es es' hes => ?_
      exact agree_pure (.cons ⟨hxy.mono hqr, hv.mono (hpq.trans hqr)⟩ hes)

theorem Calls.sortBy (h : p.Calls call call') {k k' : Value} (hk : k.Paired p k') (down : Bool)
    {vs ws : List Value} (hvs : p.Values vs ws) :
    p.Agrees (fun q => Sorting.Sorted q (Value.Paired q)) (Eval.sortBy call k down vs)
      (Eval.sortBy call' k' down ws) := by
  refine (h.sortKeys hk hvs).bind fun q _ es es' hes => ?_
  refine agree_get_bind fun s t hp => ?_
  have hless : ∀ ⦃x x' y y' : Value × Value⦄, x.1.Paired q x'.1 ∧ x.2.Paired q x'.2 →
      y.1.Paired q y'.1 ∧ y.2.Paired q y'.2 →
      q.Alike Eq (s.order .lt x.1 y.1) (t.order .lt x'.1 y'.1) :=
    fun _ _ _ _ hx hy => hp.order .lt hx.1 hy.1
  have hvalues : ∀ {x : List (Value × Value) × Option Failure}
      {y : List (Value × Value) × Option Failure},
      Sorting.Sorted q (fun x y => x.1.Paired q y.1 ∧ x.2.Paired q y.2) x y →
      Sorting.Sorted q (Value.Paired q) (x.1.map (·.2), x.2) (y.1.map (·.2), y.2) :=
    fun hxy => ⟨List.rel_map (fun _ _ h => h.2) hxy.1, hxy.2⟩
  cases down with
  | true => exact agree_pure (hvalues (Sorting.sortDown_paired hless hes))
  | false => exact agree_pure (hvalues (Sorting.sort_paired hless hes))

end Pairing

/-! ## Methods of lists and tuples -/

section

variable {h h' : Heap} {vs ws : List Value} {a b : Arguments}

theorem findIdx?_paired (hp : h.Paired p h') (hvs : p.Values vs ws) {v w : Value}
    (hv : v.Paired p w) :
    (vs.findIdx? fun x => h.itemEq x v) = ws.findIdx? fun x => h'.itemEq x w := by
  have hmap := congrArg (List.findIdx? id) (map_eq_of_forall₂ hvs fun _ _ hx => hp.itemEq hx hv)
  rwa [List.findIdx?_map, List.findIdx?_map] at hmap

/-- The bound of a search, if one is given. -/
theorem alike_bound {x y : Option Value} (n default : Nat) : p.Optional x y →
    p.Alike Eq
      (match x with
        | none => .ok default
        | some i => (Sequence.clamp n) <$> i.asIndex)
      (match y with
        | none => .ok default
        | some i => (Sequence.clamp n) <$> i.asIndex) := by
  intro hxy
  cases hxy with
  | none => exact .ok rfl
  | some hi => exact hi.asIndex.map fun _ _ h => congrArg _ h

theorem indexIn_paired (hp : h.Paired p h') (hvs : p.Values vs ws) (ha : a.Paired p b) :
    p.Alike (Value.Paired p) (indexIn h vs a) (indexIn h' ws b) := by
  refine (ha.bind _).bind fun xs ys hxs => Pairing.alike_three hxs ?_
  intro v w hv start start' hstart stop stop' hstop
  dsimp only
  rw [hvs.length_eq]
  refine (alike_bound _ _ hstart).bind_eq fun low => (alike_bound _ _ hstop).bind_eq fun high => ?_
  rw [findIdx?_paired hp (List.forall₂_drop low (List.forall₂_take high hvs)) hv]
  split
  · exact .ok (.atom rfl)
  · exact Pairing.alike_error rfl

theorem countIn_paired (hp : h.Paired p h') (hvs : p.Values vs ws) (ha : a.Paired p b) :
    p.Alike (Value.Paired p) (countIn h vs a) (countIn h' ws b) := by
  refine (ha.bind _).bind fun xs ys hxs => Pairing.alike_one hxs fun v w hv => .ok ?_
  have hmap := congrArg (List.countP id) (map_eq_of_forall₂ hvs fun _ _ hx => hp.itemEq hx hv)
  rw [List.countP_map, List.countP_map] at hmap
  have hcount : (vs.countP fun x => h.itemEq x v) = ws.countP fun x => h'.itemEq x w := hmap
  rw [hcount]
  exact .atom rfl

variable {r s : Ref} {call call' : Caller}

theorem agrees_bind (q : Parameters) (ha : a.Paired p b) {α α' : Type}
    {S : Pairing → α → α' → Prop} {f : List (Option Value) → Eval α}
    {g : List (Option Value) → Eval α'}
    (hf : ∀ xs ys, List.Forall₂ p.Optional xs ys → p.Agrees S (f xs) (g ys)) :
    p.Agrees S (Eval.bind q a >>= f) (Eval.bind q b >>= g) :=
  Pairing.agrees_lift_bind (ha.bind q) hf

/-- What follows from the only argument. -/
theorem agrees_one {α α' : Type} {S : Pairing → α → α' → Prop} {f : Value → Eval α}
    {g : Value → Eval α'} {xs ys : List (Option Value)} :
    List.Forall₂ p.Optional xs ys → (∀ v w, v.Paired p w → p.Agrees S (f v) (g w)) →
    p.Agrees S (match xs with | [some v] => f v | _ => Eval.fail .type)
      (match ys with | [some v] => g v | _ => Eval.fail .type) := by
  intro h hf
  obtain _ | ⟨hv | _, _ | ⟨_, _⟩⟩ := h
  · exact Pairing.agrees_fail rfl
  · exact hf _ _ hv
  · exact Pairing.agrees_fail rfl
  · exact Pairing.agrees_fail rfl
  · exact Pairing.agrees_fail rfl

/-- What follows from the only argument, which has been taken out before. -/
theorem agrees_only (ha : a.Paired p b) {α α' : Type} {S : Pairing → α → α' → Prop}
    {f : Value → Eval α} {g : Value → Eval α'}
    (hf : ∀ v w, v.Paired p w → p.Agrees S (f v) (g w)) :
    p.Agrees S
      ((do
        match ← Eval.bind (.byPosition 1 1) a with
        | [some v] => return v
        | _ => Eval.fail .type) >>= f)
      ((do
        match ← Eval.bind (.byPosition 1 1) b with
        | [some v] => return v
        | _ => Eval.fail .type) >>= g) := by
  rw [bind_assoc, bind_assoc]
  refine agrees_bind _ ha fun xs ys hxs => ?_
  have hfail : p.Agrees S (Eval.fail .type >>= f) (Eval.fail .type >>= g) :=
    (Pairing.agrees_fail (R := fun _ _ _ => False) rfl).bind fun _ _ _ _ h => h.elim
  obtain _ | ⟨hv | _, _ | ⟨_, _⟩⟩ := hxs
  · exact hfail
  · exact hf _ _ hv
  · exact hfail
  · exact hfail
  · exact hfail

theorem forall₂_eraseIdx {α α' : Type} {R : α → α' → Prop} {xs : List α} {ys : List α'}
    (hxs : List.Forall₂ R xs ys) (i : Nat) : List.Forall₂ R (xs.eraseIdx i) (ys.eraseIdx i) := by
  induction hxs generalizing i with
  | nil => exact .nil
  | cons h hs ih =>
    cases i with
    | zero => exact hs
    | succ i => exact .cons h (ih i)

/-- Taking an item out of a list. -/
theorem agrees_popAt (hr : p.ref r s) (hvs : p.Values vs ws) (i : Int) :
    p.Agrees Value.Paired
      (do
        match Sequence.index? vs.length i with
        | none => Eval.fail .index
        | some i =>
          Eval.setItems r (vs.eraseIdx i)
          return vs[i]?.getD .null)
      (do
        match Sequence.index? ws.length i with
        | none => Eval.fail .index
        | some i =>
          Eval.setItems s (ws.eraseIdx i)
          return ws[i]?.getD .null) := by
  rw [hvs.length_eq]
  split
  · exact Pairing.agrees_fail rfl
  · next i _ =>
    refine Pairing.agrees_setItems_bind hr (forall₂_eraseIdx hvs i) (agree_pure ?_)
    have hi := getElem?_of_forall₂ hvs i
    generalize vs[i]? = x, ws[i]? = y at hi
    cases hi with
    | none => exact .atom rfl
    | some hv => exact hv

theorem agrees_listPop (hr : p.ref r s) (hvs : p.Values vs ws) (ha : a.Paired p b) :
    p.Agrees Value.Paired (listPop r vs a) (listPop s ws b) := by
  have hpop := agrees_popAt hr hvs
  unfold listPop
  refine agrees_bind _ ha fun xs ys hxs => ?_
  obtain _ | ⟨hv | _, _ | ⟨_, _⟩⟩ := hxs
  · exact hpop (-1)
  · refine Pairing.agrees_lift_bind hv.asSize ?_
    rintro i _ rfl
    exact hpop i
  · exact hpop (-1)
  · exact hpop (-1)
  · exact hpop (-1)

theorem Pairing.optional_getD {x y : Option Value} (h : p.Optional x y) :
    (x.getD .null).Paired p (y.getD .null) := by
  cases h with
  | none => exact .atom rfl
  | some h => exact h

theorem agrees_listSort (hc : p.Calls call call') (hr : p.ref r s) (hvs : p.Values vs ws)
    (ha : a.Paired p b) :
    p.Agrees Value.Paired (listSort call r vs a) (listSort call' s ws b) := by
  unfold listSort
  refine agrees_bind _ ha fun xs ys hxs => ?_
  refine Pairing.agrees_lift_bind (Value.Paired.asFlag (Pairing.optional_at hxs 1)) ?_
  rintro down _ rfl
  refine (hc.sortBy (Pairing.optional_getD (Pairing.optional_at hxs 0)) down hvs).bind ?_
  rintro q hpq ⟨sorted, e⟩ ⟨sorted', e'⟩ ⟨hsorted, he⟩
  refine Pairing.agrees_setItems_bind (Pairing.ref_of_le hpq hr) hsorted ?_
  dsimp only at he
  cases he with
  | none => exact agree_pure (.atom rfl)
  | some he =>
    obtain ⟨rfl, he⟩ := he
    exact Pairing.agrees_throw he

theorem Eval.agrees_elements {v w : Value} (hv : v.Paired p w) {α α' : Type}
    {S : Pairing → α → α' → Prop} {f : List Value → Eval α} {g : List Value → Eval α'}
    (hf : ∀ vs ws, p.Values vs ws → p.Agrees S (f vs) (g ws)) :
    p.Agrees S (Eval.elements v >>= f) (Eval.elements w >>= g) :=
  agree_get_bind fun _ _ hp => Pairing.agrees_lift_bind (hp.elements hv) hf

theorem agrees_callListMethod (hc : p.Calls call call') (hr : p.ref r s) (m : Method)
    (ha : a.Paired p b) :
    p.Agrees Value.Paired (callListMethod call r m a) (callListMethod call' s m b) := by
  unfold callListMethod
  refine Pairing.agrees_items_bind hr fun vs ws hvs => ?_
  have hnull : p.Agrees Value.Paired (return .null) (return .null) := agree_pure (.atom rfl)
  cases m with
  | append =>
    exact agrees_only ha fun v w hv =>
      Pairing.agrees_setItems_bind hr (List.rel_append hvs (.cons hv .nil)) hnull
  | clear =>
    exact agrees_bind _ ha fun _ _ _ => Pairing.agrees_setItems_bind hr .nil hnull
  | copy => exact agrees_bind _ ha fun _ _ _ => Pairing.agrees_newList hvs
  | count => exact agree_get_bind fun _ _ hp => Pairing.agrees_lift (countIn_paired hp hvs ha)
  | extend =>
    refine agrees_only ha fun v w hv => Eval.agrees_elements hv fun vs' ws' hvs' => ?_
    exact Pairing.agrees_setItems_bind hr (List.rel_append hvs hvs') hnull
  | index => exact agree_get_bind fun _ _ hp => Pairing.agrees_lift (indexIn_paired hp hvs ha)
  | insert =>
    refine agrees_bind _ ha fun xs ys hxs => ?_
    obtain _ | ⟨hi | _, _ | ⟨hv | _, _ | ⟨_, _⟩⟩⟩ := hxs
    all_goals try exact Pairing.agrees_fail rfl
    refine Pairing.agrees_lift_bind hi.asSize ?_
    rintro i _ rfl
    rw [hvs.length_eq]
    exact Pairing.agrees_setItems_bind hr (List.rel_append (List.forall₂_take _ hvs)
      (.cons hv (List.forall₂_drop _ hvs))) hnull
  | pop => exact agrees_listPop hr hvs ha
  | remove =>
    refine agrees_only ha fun v w hv => agree_get_bind fun _ _ hp => ?_
    rw [findIdx?_paired hp hvs hv]
    split
    · exact Pairing.agrees_setItems_bind hr (forall₂_eraseIdx hvs _) hnull
    · exact Pairing.agrees_fail rfl
  | reverse =>
    exact agrees_bind _ ha fun _ _ _ =>
      Pairing.agrees_setItems_bind hr (List.rel_reverse hvs) hnull
  | sort => exact agrees_listSort hc hr hvs ha
  | _ => exact Pairing.agrees_fail rfl

/-! ## Methods by receiver -/

theorem agrees_answerValue {x y : Value.Answer} (h : Value.Answer.Paired p x y) :
    p.Agrees Value.Paired (answerValue x) (answerValue y) := by
  cases h with
  | value h => exact agree_pure h
  | items h => exact Pairing.agrees_newList h
  | entries h => exact Pairing.agrees_newDict h

theorem agrees_callText (k : TextKind) (cs : List Char) (m : Method) (ha : a.Paired p b) :
    p.Agrees Value.Paired (callText k cs m a) (callText k cs m b) :=
  agree_get_bind fun _ _ hp =>
    Pairing.agrees_lift_bind (Value.callTextMethod_paired hp k cs m ha) fun _ _ h =>
      agrees_answerValue h

theorem agrees_callMethod (hc : p.Calls call call') {v w : Value} (hv : v.Paired p w) (m : Method)
    (ha : a.Paired p b) :
    p.Agrees Value.Paired (callMethod call v m a) (callMethod call' w m b) := by
  have hnumber : p.Agrees Value.Paired (do Eval.lift (callNumberMethod (← get) v m a))
      (do Eval.lift (callNumberMethod (← get) w m b)) :=
    agree_get_bind fun _ _ hp => Pairing.agrees_lift (callNumberMethod_paired hp hv m ha)
  cases hv with
  | list hr => exact agrees_callListMethod hc hr m ha
  | tuple hvs =>
    cases m with
    | count => exact agree_get_bind fun _ _ hp => Pairing.agrees_lift (countIn_paired hp hvs ha)
    | index => exact agree_get_bind fun _ _ hp => Pairing.agrees_lift (indexIn_paired hp hvs ha)
    | _ => exact Pairing.agrees_fail rfl
  | atom h =>
    cases v with
    | str s => exact agrees_callText .text _ m ha
    | bytes bs => exact agrees_callText .bytes _ m ha
    | _ => first | exact hnumber | cases h
  | _ => exact hnumber

theorem agrees_callStatic (k : Receiver) (m : Method) (ha : a.Paired p b) :
    p.Agrees Value.Paired (callStatic k m a) (callStatic k m b) := by
  cases k with
  | int => exact agree_get_bind fun _ _ hp => Pairing.agrees_lift (intOfBytes_paired hp ha)
  | float =>
    refine agrees_bind _ ha fun xs ys hxs => agrees_one hxs fun v w hv => Pairing.agrees_lift ?_
    exact hv.asText.bind_eq fun cs => floatOfHex_paired cs
  | bytes => exact agrees_callText .bytes _ m ha
  | _ => exact agrees_callText .text _ m ha

/-! ## Helpers -/

theorem readWhole_paired (base : Nat) (cs : List Char) :
    p.Alike (Value.Paired p) (readWhole base cs) (readWhole base cs) := by
  rw [readWhole]
  split
  · exact Pairing.alike_error rfl
  · exact Pairing.alike_guard rfl (.ok (.atom rfl))

theorem Value.Paired.digitsOf? {v w : Value} (hv : v.Paired p w) :
    Wording.digitsOf? v = Wording.digitsOf? w := by
  cases hv <;> rfl

/-- The whole number that a value gives, or the digits of a text. -/
theorem Value.Paired.alike_whole {v w : Value} (hv : v.Paired p w) :
    p.Alike (Value.Paired p)
      (match Wording.digitsOf? v with
        | some cs => readWhole 10 cs
        | none => do return .int (← v.asIndex))
      (match Wording.digitsOf? w with
        | some cs => readWhole 10 cs
        | none => do return .int (← w.asIndex)) := by
  rw [hv.digitsOf?]
  split
  · exact readWhole_paired _ _
  · exact hv.asIndex.bind_eq fun n => .ok (.atom rfl)

theorem helperInt_paired (ha : a.Paired p b) :
    p.Alike (Value.Paired p) (helperInt a) (helperInt b) := by
  refine (ha.bind _).bind fun xs ys hxs => ?_
  obtain _ | ⟨hv | _, _ | ⟨hbase | _, _ | ⟨_, _⟩⟩⟩ := hxs
  all_goals try first | exact Pairing.alike_error rfl | exact .ok (.atom rfl)
  · refine hbase.asIndex.bind_eq fun base => Pairing.alike_guard rfl ?_
    rw [hv.digitsOf?]
    split
    · exact Pairing.alike_error rfl
    · exact readWhole_paired _ _
  · rename_i v w
    have hwhole := hv.alike_whole
    cases hv with
    | atom h =>
      cases v with
      | float x =>
        dsimp only
        split
        · exact Pairing.alike_error rfl
        · exact Pairing.alike_error rfl
        · exact .ok (.atom rfl)
      | _ => exact hwhole
    | _ => exact hwhole

theorem helperFloat_paired (ha : a.Paired p b) :
    p.Alike (Value.Paired p) (helperFloat a) (helperFloat b) := by
  refine (ha.bind _).bind fun xs ys hxs => ?_
  obtain _ | ⟨hv | _, _ | ⟨_, _⟩⟩ := hxs
  all_goals try exact .ok (.atom rfl)
  dsimp only
  rw [hv.digitsOf?, hv.ofValue?]
  split
  · split
    · exact .ok (.atom rfl)
    · exact Pairing.alike_error rfl
  · split
    · next n _ => exact n.alike_toFloat.bind_eq fun x => .ok (.atom rfl)
    · exact Pairing.alike_error rfl

theorem helperStr_paired (hp : h.Paired p h') (ha : a.Paired p b) :
    p.Alike (Value.Paired p) (helperStr h a) (helperStr h' b) := by
  refine (ha.bind _).bind fun xs ys hxs => ?_
  obtain _ | ⟨@⟨v, w, hv⟩ | _, _ | ⟨hname, _ | @⟨x, y, _, _, hhandler, _ | _⟩⟩⟩ := hxs
  all_goals try first | exact Pairing.alike_error rfl | exact .ok (.atom rfl)
  · cases hname <;> exact Pairing.alike_error rfl
  · have hdecoded : ∀ bs x' y', p.Optional x' y' → p.Alike (Value.Paired p)
        (do
          TextKind.decodedBy bs (← TextKind.nameArgument "utf-8" x')
            (← TextKind.nameArgument "strict" x))
        (do
          TextKind.decodedBy bs (← TextKind.nameArgument "utf-8" y')
            (← TextKind.nameArgument "strict" y)) :=
      fun bs x' y' hname => (TextKind.nameArgument_paired _ hname).bind_eq fun name =>
        (TextKind.nameArgument_paired _ hhandler).bind_eq fun handler =>
          TextKind.decodedBy_paired bs name handler
    have hdisplay := (hp.display hv).bind_eq (S := Value.Paired p) (f := fun s => return .str s)
      (g := fun s => return .str s) fun text => .ok (.atom rfl)
    cases hname with
    | none =>
      cases hhandler with
      | none => exact hdisplay
      | some hh =>
        cases hv with
        | atom _ => cases v <;> first | exact hdecoded _ _ _ .none | exact Pairing.alike_error rfl
        | _ => exact Pairing.alike_error rfl
    | some hn =>
      cases hv with
      | atom _ => cases v <;> first | exact hdecoded _ _ _ (.some hn) | exact Pairing.alike_error rfl
      | _ => exact Pairing.alike_error rfl
  · cases hname <;> cases hhandler <;> exact Pairing.alike_error rfl

theorem helperLen_paired (hp : h.Paired p h') {v w : Value} (hv : v.Paired p w) :
    p.Alike (Value.Paired p) (helperLen h v) (helperLen h' w) := by
  have hlength : p.Alike (Value.Paired p) ((h.elements v).map fun vs => .ofNat vs.length)
      ((h'.elements w).map fun vs => .ofNat vs.length) := by
    refine (hp.elements hv).map fun vs ws hvs => ?_
    rw [hvs.length_eq]
    exact .atom rfl
  cases hv with
  | atom hatom =>
    cases v <;> exact hlength
  | _ => exact hlength

theorem agrees_contenders (ha : a.Paired p b) {x y : Option Value} (hx : p.Optional x y) :
    p.Agrees Pairing.Values (contenders a x) (contenders b y) := by
  unfold contenders
  have hpositional := ha.positional
  generalize a.positional = vs, b.positional = ws at hpositional
  obtain _ | ⟨hv, _ | ⟨hw, hvs⟩⟩ := hpositional
  · exact Pairing.agrees_fail rfl
  · exact agree_get_bind fun _ _ hp => Pairing.agrees_lift (hp.elements hv)
  · dsimp only
    rw [Pairing.isSome_eq hx]
    split
    · exact Pairing.agrees_fail rfl
    · exact agree_pure (.cons hv (.cons hw hvs))

theorem agrees_extreme (hc : p.Calls call call') {k k' : Value} (hk : k.Paired p k')
    (op : CompareOp) {best best' : Value × Value}
    (hbest : best.1.Paired p best'.1 ∧ best.2.Paired p best'.2) (hvs : p.Values vs ws) :
    p.Agrees Value.Paired (extreme call k op best vs) (extreme call' k' op best' ws) := by
  induction vs generalizing p best best' ws with
  | nil =>
    cases hvs
    exact agree_pure hbest.2
  | cons v vs ih =>
    cases hvs with
    | cons hv hvs =>
      rw [extreme, extreme]
      refine (hc.sortKey hk hv).bind fun q hpq x y hxy => agree_get_bind fun _ _ hp => ?_
      have hbest := And.intro (hbest.1.mono hpq) (hbest.2.mono hpq)
      refine Pairing.agrees_lift_bind (hp.order op hxy hbest.1) ?_
      rintro c _ rfl
      have hvs := Pairing.Values.mono hpq hvs
      cases c with
      | true => exact ih (hc.mono hpq) (hk.mono hpq) ⟨hxy, hv.mono hpq⟩ hvs
      | false => exact ih (hc.mono hpq) (hk.mono hpq) hbest hvs

theorem agrees_helperExtreme (hc : p.Calls call call') (op : CompareOp) (ha : a.Paired p b) :
    p.Agrees Value.Paired (helperExtreme call op a) (helperExtreme call' op b) := by
  unfold helperExtreme
  rw [any_eq_of_forall₂ ha.named (g := fun n => n.1 != "key" && n.1 != "default")
    fun m n h => by rw [h.1]]
  split
  · exact Pairing.agrees_fail rfl
  · have hkey := Pairing.optional_getD (ha.named.find? fun k => k == "key")
    have hdefault := ha.named.find? fun k => k == "default"
    refine (agrees_contenders ha hdefault).bind fun q hpq vs ws hvs => ?_
    dsimp only
    replace hdefault := Pairing.Optional.mono hpq hdefault
    replace hkey := hkey.mono hpq
    have hc := hc.mono hpq
    cases hvs with
    | cons hv hvs =>
      refine (hc.sortKey hkey hv).bind fun r hqr x y hxy => ?_
      exact agrees_extreme (hc.mono hqr) (hkey.mono hqr) op ⟨hxy, hv.mono hqr⟩
        (Pairing.Values.mono hqr hvs)
    | nil =>
      generalize Option.map _ (List.find? _ a.named) = x,
        Option.map _ (List.find? _ b.named) = y at hdefault
      cases hdefault with
      | some h => exact agree_pure h
      | none => exact Pairing.agrees_fail rfl

theorem agrees_helperSorted (hc : p.Calls call call') (ha : a.Paired p b) :
    p.Agrees Value.Paired (helperSorted call a) (helperSorted call' b) := by
  refine agrees_bind _ ha fun xs ys hxs => ?_
  obtain _ | ⟨hv | _, _ | ⟨hk, _ | ⟨hd, _ | ⟨_, _⟩⟩⟩⟩ := hxs
  all_goals try exact Pairing.agrees_fail rfl
  refine Eval.agrees_elements hv fun vs ws hvs => ?_
  refine Pairing.agrees_lift_bind (Value.Paired.asFlag hd) ?_
  rintro down _ rfl
  refine (hc.sortBy (Pairing.optional_getD hk) down hvs).bind ?_
  rintro q hpq ⟨sorted, e⟩ ⟨sorted', e'⟩ ⟨hsorted, he⟩
  dsimp only at he
  cases he with
  | none => exact Pairing.agrees_newList hsorted
  | some he =>
    obtain ⟨rfl, he⟩ := he
    exact Pairing.agrees_throw he

theorem itemTexts_paired (hp : h.Paired p h') (hvs : p.Values vs ws) :
    p.Alike Eq (itemTexts h vs) (itemTexts h' ws) := by
  refine Results.mapM_eq hvs fun v w hv => ?_
  have htext := (hp.display hv).bind_eq (S := Eq) (f := fun s => return s.toList)
    (g := fun s => return s.toList) fun s => .ok rfl
  cases hv with
  | atom hatom => cases v <;> first | exact .ok rfl | exact htext
  | _ => exact htext

/-- The separator that a call of `join` is given, if it is given one, is a text or bytes. -/
def Arguments.separates (a : Arguments) : Bool :=
  match Parameters.bind ⟨["items", "separator"], 2, 1⟩ a with
  | .ok [_, some v] => v.receiver? = some .str || v.receiver? = some .bytes
  | _ => true

theorem Arguments.Paired.separates (ha : a.Paired p b) : a.separates = b.separates := by
  have hbind := ha.bind ⟨["items", "separator"], 2, 1⟩
  unfold Arguments.separates
  generalize Parameters.bind ⟨["items", "separator"], 2, 1⟩ a = r,
    Parameters.bind ⟨["items", "separator"], 2, 1⟩ b = r' at hbind ⊢
  cases hbind with
  | error hf => rfl
  | ok hxs =>
    obtain _ | ⟨_, _ | ⟨hsep | _, _ | ⟨_, _⟩⟩⟩ := hxs
    all_goals try rfl
    dsimp only
    rw [hsep.receiver?]

theorem helperJoin_paired (hp : h.Paired p h') (ha : a.Paired p b)
    (hs : p.fault (.failure .attribute) ∨ a.separates) :
    p.Alike (Value.Paired p) (helperJoin h a) (helperJoin h' b) := by
  have hbind := ha.bind ⟨["items", "separator"], 2, 1⟩
  unfold Arguments.separates at hs
  unfold helperJoin
  generalize Parameters.bind ⟨["items", "separator"], 2, 1⟩ a = r,
    Parameters.bind ⟨["items", "separator"], 2, 1⟩ b = r' at hbind hs ⊢
  cases hbind with
  | error hf => exact .error hf
  | ok hxs =>
    obtain _ | ⟨hv | _, _ | ⟨hsep, _ | ⟨_, _⟩⟩⟩ := hxs
    all_goals try exact Pairing.alike_error rfl
    cases hsep with
    | none =>
      exact (hp.elements hv).bind fun vs ws hvs =>
        (itemTexts_paired hp hvs).bind_eq fun texts => .ok (.atom rfl)
    | @some sep sep' hsep =>
      have hbad : sep.receiver? ≠ some .str → sep.receiver? ≠ some .bytes →
          p.fault (.failure .attribute) := by
        intro hstr hbytes
        obtain hs | hs := hs
        · exact hs
        · simp [hstr, hbytes] at hs
      cases hsep with
      | atom hatom =>
        cases sep with
        | str s =>
          exact (hp.elements hv).bind fun vs ws hvs =>
            (itemTexts_paired hp hvs).bind_eq fun texts => .ok (.atom rfl)
        | bytes bs =>
          refine (hp.elements hv).bind fun vs ws hvs => (itemTexts_paired hp hvs).bind_eq ?_
          rintro (_ | _)
          · exact .ok (.atom rfl)
          · exact Pairing.alike_error rfl
        | _ => exact .error ⟨rfl, hbad nofun nofun⟩
      | _ => exact .error ⟨rfl, hbad nofun nofun⟩

theorem helperCase_paired (hp : h.Paired p h') (change : List Char → List Char)
    (ha : a.Paired p b) :
    p.Alike (Value.Paired p) (helperCase h change a) (helperCase h' change b) := by
  refine (ha.bind _).bind fun xs ys hxs => Pairing.alike_one hxs fun v w hv => ?_
  exact (hp.display hv).bind_eq fun text => .ok (.atom rfl)

theorem agrees_callHelper (hc : p.Calls call call') (f : Helper) (ha : a.Paired p b)
    (hs : p.fault (.failure .attribute) ∨ (f = .join → a.separates)) :
    p.Agrees Value.Paired (callHelper call f a) (callHelper call' f b) := by
  cases f with
  | abs =>
    refine agrees_only ha fun v w hv => ?_
    rw [hv.ofValue?]
    split
    · next n _ =>
      refine Pairing.agrees_lift (n.alike_abs.map ?_)
      rintro m _ rfl
      exact .atom m.isAtom_toValue
    · exact Pairing.agrees_fail rfl
  | float => exact Pairing.agrees_lift (helperFloat_paired ha)
  | int => exact Pairing.agrees_lift (helperInt_paired ha)
  | join =>
    exact agree_get_bind fun _ _ hp =>
      Pairing.agrees_lift (helperJoin_paired hp ha (hs.imp_right fun h => h rfl))
  | len =>
    refine agree_get_bind fun _ _ hp => agrees_only ha fun v w hv => ?_
    exact Pairing.agrees_lift (helperLen_paired hp hv)
  | lower => exact agree_get_bind fun _ _ hp => Pairing.agrees_lift (helperCase_paired hp _ ha)
  | upper => exact agree_get_bind fun _ _ hp => Pairing.agrees_lift (helperCase_paired hp _ ha)
  | max => exact agrees_helperExtreme hc .gt ha
  | min => exact agrees_helperExtreme hc .lt ha
  | round => exact Pairing.agrees_lift (round_paired ha)
  | sorted => exact agrees_helperSorted hc ha
  | str => exact agree_get_bind fun _ _ hp => Pairing.agrees_lift (helperStr_paired hp ha)

/-! ## Callables from outside -/

theorem mergeSort_paired {ms ns : List (String × Value)} (h : p.Named ms ns) :
    p.Named (ms.mergeSort fun x y => nameBefore x.1 y.1)
      (ns.mergeSort fun x y => nameBefore x.1 y.1) := by
  obtain ⟨hlength, hzip⟩ := List.forall₂_iff_zip.mp h
  let before := fun (x y : (String × Value) × (String × Value)) => nameBefore x.1.1 y.1.1
  have hleft : ((ms.zip ns).mergeSort before).map Prod.fst =
      ms.mergeSort fun x y => nameBefore x.1 y.1 := by
    rw [List.map_mergeSort, List.map_fst_zip (Nat.le_of_eq hlength)]
    exact fun _ _ _ _ => rfl
  have hright : ((ms.zip ns).mergeSort before).map Prod.snd =
      ns.mergeSort fun x y => nameBefore x.1 y.1 := by
    rw [List.map_mergeSort, List.map_snd_zip (Nat.le_of_eq hlength.symm)]
    intro x hx y hy
    show nameBefore x.1.1 y.1.1 = nameBefore x.2.1 y.2.1
    rw [(hzip hx).1, (hzip hy).1]
  rw [← hleft, ← hright]
  refine List.forall₂_map_left_iff.mpr (List.forall₂_map_right_iff.mpr (List.forall₂_same.mpr ?_))
  exact fun x hx => hzip (List.mem_mergeSort.mp hx)

theorem agrees_callEcho (ha : a.Paired p b) :
    p.Agrees Value.Paired (callEcho a) (callEcho b) := by
  refine (Pairing.agrees_newList ha.positional).bind fun q hpq v w hv => ?_
  have hentries : p.Entries
      ((a.named.mergeSort fun x y => nameBefore x.1 y.1).map fun n => (.str n.1, n.2))
      ((b.named.mergeSort fun x y => nameBefore x.1 y.1).map fun n => (.str n.1, n.2)) := by
    refine List.rel_map (fun m n h => ⟨?_, h.2⟩) (mergeSort_paired ha.named)
    rw [h.1]
    exact .atom rfl
  refine (Pairing.agrees_newDict (Pairing.Entries.mono hpq hentries)).bind fun r hqr x y hxy => ?_
  exact Pairing.agrees_newList (.cons (hv.mono hqr) (.cons hxy .nil))

theorem agrees_callKeyNames (ha : a.Paired p b) :
    p.Agrees Value.Paired (callKeyNames a) (callKeyNames b) := by
  refine agrees_bind _ ha fun xs ys hxs => agrees_one hxs fun v w hv => ?_
  refine Eval.agrees_elements hv fun vs ws hvs => agree_get_bind fun s t hp => ?_
  obtain ⟨hsorted, he⟩ := Sorting.sort_paired (hp.order .lt) hvs
  generalize Sorting.sort (s.order .lt) vs = x, Sorting.sort (t.order .lt) ws = y at hsorted he
  obtain ⟨x, e⟩ := x
  obtain ⟨y, e'⟩ := y
  dsimp only at hsorted he
  cases he with
  | some he =>
    obtain ⟨rfl, he⟩ := he
    exact Pairing.agrees_throw he
  | none =>
    refine Pairing.agrees_lift_bind (Results.mapM_eq hsorted fun _ _ hv => hv.asText) ?_
    rintro names _ rfl
    exact agree_pure (.atom rfl)

theorem agrees_callEntryAt {k k' : Value} (hk : k.Paired p k') (ha : a.Paired p b) :
    p.Agrees Value.Paired (callEntryAt k a) (callEntryAt k' b) := by
  refine agrees_bind _ ha fun xs ys hxs => agrees_one hxs fun v w hv => ?_
  refine (agrees_getItem hv hk).bind fun q _ x y hxy => agree_get_bind fun _ _ hp => ?_
  refine Pairing.agrees_lift_bind (hp.display hxy) ?_
  rintro text _ rfl
  exact agree_pure (.atom rfl)

/-! ## All callables -/

/-- **Callables give on arguments that go together values that do.** -/
theorem Pairing.Calls.invoke (hc : p.Calls call call') {f g : Value} (hf : f.Paired p g)
    (ha : a.Paired p b)
    (hs : p.fault (.failure .attribute) ∨ (f = .helper .join → a.separates)) :
    p.Agrees Value.Paired (invoke call f a) (invoke call' g b) := by
  cases hf with
  | method hv m => exact agrees_callMethod hc hv m ha
  | constant hv => exact agree_pure hv
  | entryAt hk => exact agrees_callEntryAt hk ha
  | failing he => exact agrees_throw (p.fault_of_raised _ he)
  | atom h =>
    cases f with
    | helper f => exact agrees_callHelper hc f ha (hs.imp_right fun h hf => h (hf ▸ rfl))
    | unbound k m =>
      unfold Wording.invoke
      have hpositional := ha.positional
      dsimp only
      generalize a.positional = vs, b.positional = ws at hpositional
      cases hpositional with
      | nil => exact agrees_fail rfl
      | cons hv hrest =>
        dsimp only
        rw [hv.receiver?]
        split
        · exact agrees_callMethod hc hv m ⟨hrest, ha.named⟩
        · exact agrees_fail rfl
    | static k m => exact agrees_callStatic k m ha
    | echo => exact agrees_callEcho ha
    | keyNames => exact agrees_callKeyNames ha
    | _ => first | exact agrees_fail rfl | cases h
  | _ => exact agrees_fail rfl

end

end Wording
