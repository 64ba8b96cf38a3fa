import Wording.Proofs.Expr.Ends
import Wording.Proofs.Template.Reported

/-!
# Loops with enough rounds

A loop walks over a list as it is at each round, and a round that lengthens the list gives the loop
further items. So loops have a bound on their rounds. That a loop ends is said without a bound: for
all large bounds it ends alike, and not for lack of rounds.

A loop over other items ends if its rounds do. A loop over a list ends if its rounds do and, at all
of them, the list stays within a length; and a loop that ends with a bound on its rounds has come to
finitely many lengths of the list.

* `Finishes`, `Eval.Below`: computations with a bound
* `StaysWithin`: lists that do not grow without bound
* `finishes_eachItem`: loops that end
* `exists_staysWithin`: lists that are walked over by loops that end
-/

namespace Wording

/-! ## Large bounds -/

/-- From a heap, a computation with a bound ends alike for all large bounds, and uses none up. -/
def Finishes {α : Type} (m : Nat → Eval α) (h : Heap) : Prop :=
  ∃ (N : Nat) (x : Except Fault α × Heap), x.1 ≠ .error .exhausted ∧
    ∀ n, N ≤ n → outcome (m n) h = x

/-- Something holds for all large bounds. -/
def Eventually (P : Nat → Prop) : Prop := ∃ N, ∀ n, N ≤ n → P n

theorem Eventually.of_forall {P : Nat → Prop} (h : ∀ n, P n) : Eventually P := ⟨0, fun n _ => h n⟩

theorem Eventually.and {P Q : Nat → Prop} (hP : Eventually P) (hQ : Eventually Q) :
    Eventually fun n => P n ∧ Q n := by
  obtain ⟨M, hP⟩ := hP
  obtain ⟨N, hQ⟩ := hQ
  exact ⟨max M N, fun n hn => ⟨hP n (by omega), hQ n (by omega)⟩⟩

theorem Eventually.mono {P Q : Nat → Prop} (hP : Eventually P) (h : ∀ n, P n → Q n) :
    Eventually Q := by
  obtain ⟨N, hP⟩ := hP
  exact ⟨N, fun n hn => h n (hP n hn)⟩

section

variable {α β : Type} {h : Heap}

theorem Eval.Ends.finishes {m : Eval α} (hm : m.Ends) (h : Heap) : Finishes (fun _ => m) h :=
  ⟨0, outcome m h, hm h, fun _ _ => rfl⟩

theorem Finishes.bind {m : Nat → Eval α} {f : Nat → α → Eval β} (hm : Finishes m h)
    (hf : ∀ a k, Eventually (fun n => outcome (m n) h = (.ok a, k)) →
      Finishes (fun n => f n a) k) : Finishes (fun n => m n >>= f n) h := by
  obtain ⟨M, ⟨r, k⟩, hends, hm⟩ := hm
  cases r with
  | error e =>
    refine ⟨M, (.error e, k), ?_, fun n hn => outcome_bind_of_error (hm n hn)⟩
    exact fun he => hends (by rw [Except.error.inj he])
  | ok a =>
    obtain ⟨N, x, hx, hf⟩ := hf a k ⟨M, hm⟩
    refine ⟨max M N, x, hx, fun n hn => ?_⟩
    rw [outcome_bind_of_ok (hm n (by omega)), hf n (by omega)]

theorem finishes_get_bind {f : Nat → Heap → Eval β} (hf : Finishes (fun n => f n h) h) :
    Finishes (fun n => get >>= f n) h := by
  obtain ⟨N, x, hx, hf⟩ := hf
  exact ⟨N, x, hx, fun n hn => by rw [outcome_get_bind, hf n hn]⟩

end

/-- Where a computation uses no bound up, another one ends alike. -/
def Eval.Below {α : Type} (m m' : Eval α) : Prop :=
  ∀ h, (outcome m h).1 ≠ .error .exhausted → outcome m' h = outcome m h

section

variable {α β : Type}

theorem Eval.Below.refl (m : Eval α) : m.Below m := fun _ _ => rfl

theorem Eval.Below.bind {m m' : Eval α} {f f' : α → Eval β} (hm : m.Below m')
    (hf : ∀ a, (f a).Below (f' a)) : (m >>= f).Below (m' >>= f') := by
  intro h hends
  have hm' := hm h fun he => hends (fst_outcome_bind_of_error he)
  cases hout : outcome m h with
  | mk r k =>
    rw [hout] at hm'
    cases r with
    | error e => rw [outcome_bind_of_error hm', outcome_bind_of_error hout]
    | ok a =>
      rw [outcome_bind_of_ok hout] at hends
      rw [outcome_bind_of_ok hm', outcome_bind_of_ok hout]
      exact hf a k hends

end

/-! ## Rounds -/

section

variable {round : Value → Page → Eval Page} {s t : Source} {a b : Page} {h k : Heap} {v w : Value}

theorem not_round_of_next? (hs : s.next? h = none) : ¬Round round s a h v b k := by
  intro hr
  cases hr with
  | first hs' => cases hs.symm.trans hs'
  | later hs' _ _ => cases hs.symm.trans hs'

/-- The rounds of a loop are the first one and those behind it. -/
theorem Round.first_or_later (hr : Round round s a h w b k) (hs : s.next? h = some (v, t)) :
    (w = v ∧ b = a ∧ k = h) ∨
      ∃ c l, outcome (round v a) h = (.ok c, l) ∧ Round round t c l w b k := by
  cases hr with
  | first hs' =>
    cases hs.symm.trans hs'
    exact .inl ⟨rfl, rfl, rfl⟩
  | later hs' hv hw =>
    cases hs.symm.trans hs'
    exact .inr ⟨_, _, hv, hw⟩

theorem Source.next?_list_of_none {r : Ref} {i : Nat} (hi : (h.items r)[i]? = none) :
    (Source.list r i).next? h = none := by
  rw [Source.next?, hi]
  rfl

theorem Source.next?_list_of_some {r : Ref} {i : Nat} (hi : (h.items r)[i]? = some v) :
    (Source.list r i).next? h = some (v, .list r (i + 1)) := by
  rw [Source.next?, hi]
  rfl

theorem outcome_eachIn_of_none {r : Ref} {i : Nat} (hi : (h.items r)[i]? = none) (limit : Nat) :
    outcome (eachIn round r (limit + 1) i a) h = (.ok a, h) := by
  rw [eachIn, outcome_get_bind, hi]
  rfl

theorem outcome_eachIn_of_some {r : Ref} {i : Nat} (hi : (h.items r)[i]? = some v) (limit : Nat) :
    outcome (eachIn round r (limit + 1) i a) h =
      outcome (round v a >>= eachIn round r limit (i + 1)) h := by
  rw [eachIn, outcome_get_bind, hi]

/-- A loop over another value than a list has its items before the first round. -/
theorem null_or_list_or_elements (x : Value) : x = .null ∨ (∃ r, x = .list r) ∨
    (∀ r, x ≠ .list r) ∧ ∀ limit (round : Value → Page → Eval Page) a,
      eachItem limit round x a = (do eachOf round (← Eval.elements x) a) := by
  cases x with
  | null => exact .inl rfl
  | list r => exact .inr (.inl ⟨r, rfl⟩)
  | _ =>
    refine .inr (.inr ⟨?_, fun _ _ _ => rfl⟩)
    rintro r ⟨⟩

/-- A round that uses a bound up is the end of its loop. -/
theorem Round.exhausted_eachOf {vs : List Value} (hr : Round round (.items vs) a h v b k)
    (he : (outcome (round v b) k).1 = .error .exhausted) :
    (outcome (eachOf round vs a) h).1 = .error .exhausted := by
  induction vs generalizing a h with
  | nil => exact absurd hr (not_round_of_next? rfl)
  | cons w vs ih =>
    rw [eachOf]
    obtain ⟨rfl, rfl, rfl⟩ | ⟨c, l, hw, hr⟩ := hr.first_or_later rfl
    · exact fst_outcome_bind_of_error he
    · rw [outcome_bind_of_ok hw]
      exact ih hr

theorem Round.exhausted_eachIn {r : Ref} {i : Nat} (hr : Round round (.list r i) a h v b k)
    (he : (outcome (round v b) k).1 = .error .exhausted) (limit : Nat) :
    (outcome (eachIn round r limit i a) h).1 = .error .exhausted := by
  induction limit generalizing i a h with
  | zero => rfl
  | succ limit ih =>
    cases hi : (h.items r)[i]? with
    | none => exact absurd hr (not_round_of_next? (Source.next?_list_of_none hi))
    | some w =>
      rw [outcome_eachIn_of_some hi]
      obtain ⟨rfl, rfl, rfl⟩ | ⟨c, l, hw, hr⟩ := hr.first_or_later (Source.next?_list_of_some hi)
      · exact fst_outcome_bind_of_error he
      · rw [outcome_bind_of_ok hw]
        exact ih hr

theorem Round.exhausted_eachItem {x : Value} (hr : Round round (.ofValue h x) a h v b k)
    (he : (outcome (round v b) k).1 = .error .exhausted) (limit : Nat) :
    (outcome (eachItem limit round x a) h).1 = .error .exhausted := by
  obtain rfl | ⟨r, rfl⟩ | ⟨hlist, hitems⟩ := null_or_list_or_elements x
  · exact absurd hr (not_round_of_next? rfl)
  · exact hr.exhausted_eachIn he limit
  · rw [hitems, Eval.elements, bind_assoc, outcome_get_bind]
    cases helements : h.elements x with
    | error f =>
      rw [Source.ofValue_of_error hlist helements] at hr
      exact absurd hr (not_round_of_next? rfl)
    | ok vs =>
      rw [Source.ofValue_of_elements hlist helements] at hr
      exact hr.exhausted_eachOf he

end

/-! ## Loops -/

section

variable {round : Nat → Value → Page → Eval Page}

/-- The rounds that a loop comes to finish. -/
def RoundsFinish (round : Nat → Value → Page → Eval Page) (s : Source) (a : Page) (h : Heap) :
    Prop :=
  ∀ v b k, Eventually (fun n => Round (round n) s a h v b k) → Finishes (fun n => round n v b) k

theorem RoundsFinish.first {s t : Source} {a : Page} {h : Heap} {v : Value}
    (hr : RoundsFinish round s a h) (hs : s.next? h = some (v, t)) :
    Finishes (fun n => round n v a) h :=
  hr v a h (.of_forall fun _ => .first hs)

/-- Behind a round the others are still rounds that the loop comes to. -/
theorem RoundsFinish.later {s t : Source} {a b : Page} {h k : Heap} {v : Value}
    (hr : RoundsFinish round s a h) (hs : s.next? h = some (v, t))
    (hv : Eventually fun n => outcome (round n v a) h = (.ok b, k)) :
    RoundsFinish round t b k :=
  fun w c l hw => hr w c l ((hv.and hw).mono fun _ hn => .later hs hn.1 hn.2)

theorem finishes_eachOf {vs : List Value} {a : Page} {h : Heap}
    (hr : RoundsFinish round (.items vs) a h) :
    Finishes (fun n => eachOf (round n) vs a) h := by
  induction vs generalizing a h with
  | nil => exact (Eval.composes_ends.pure a).finishes h
  | cons v vs ih => exact (hr.first rfl).bind fun b k hk => ih (hr.later rfl hk)

/-- A list stays within a length at the rounds that a walk over it comes to. -/
def StaysWithin (round : Nat → Value → Page → Eval Page) (r : Ref) (i : Nat) (a : Page) (h : Heap)
    (size : Nat) : Prop :=
  Eventually fun n => ∀ v b k, Round (round n) (.list r i) a h v b k → (k.items r).size ≤ size

/-- A walk ends, with enough rounds and enough of them for the loops within it. -/
theorem exists_outcome_eachIn {r : Ref} {size : Nat} (d : Nat) {i : Nat} {a : Page} {h : Heap}
    (hd : size ≤ i + d) (hsize : StaysWithin round r i a h size)
    (hr : RoundsFinish round (.list r i) a h) :
    ∃ (N : Nat) (x : Except Fault Page × Heap), x.1 ≠ .error .exhausted ∧
      ∀ n limit, N ≤ n → N ≤ limit → outcome (eachIn (round n) r limit i a) h = x := by
  cases hi : (h.items r)[i]? with
  | none =>
    refine ⟨1, (.ok a, h), nofun, fun n limit _ hlimit => ?_⟩
    obtain ⟨limit, rfl⟩ : ∃ l, limit = l + 1 := ⟨limit - 1, by omega⟩
    exact outcome_eachIn_of_none hi limit
  | some v =>
    have hnext := Source.next?_list_of_some hi
    have hlt : i < size := by
      obtain ⟨N, hN⟩ := hsize
      obtain ⟨hlt, -⟩ := Array.getElem?_eq_some_iff.mp hi
      exact Nat.lt_of_lt_of_le hlt (hN N (Nat.le_refl N) v a h (.first hnext))
    obtain ⟨M, ⟨p, k⟩, hends, hround⟩ := hr.first hnext
    cases p with
    | error e =>
      refine ⟨M + 1, (.error e, k), ?_, fun n limit hn hlimit => ?_⟩
      · exact fun he => hends (by rw [Except.error.inj he])
      · obtain ⟨limit, rfl⟩ : ∃ l, limit = l + 1 := ⟨limit - 1, by omega⟩
        rw [outcome_eachIn_of_some hi, outcome_bind_of_error (hround n (by omega))]
    | ok b =>
      cases d with
      | zero => omega
      | succ d =>
        have hv : Eventually fun n => outcome (round n v a) h = (.ok b, k) := ⟨M, hround⟩
        have hsize' : StaysWithin round r (i + 1) b k size :=
          (hv.and hsize).mono fun n hn w c l hw => hn.2 w c l (.later hnext hn.1 hw)
        obtain ⟨N, x, hx, hrest⟩ :=
          exists_outcome_eachIn d (by omega) hsize' (hr.later hnext hv)
        refine ⟨max M N + 1, x, hx, fun n limit hn hlimit => ?_⟩
        obtain ⟨limit, rfl⟩ : ∃ l, limit = l + 1 := ⟨limit - 1, by omega⟩
        rw [outcome_eachIn_of_some hi, outcome_bind_of_ok (hround n (by omega)),
          hrest n limit (by omega) (by omega)]

/-- A loop ends if its rounds do, and the list stays within a length if it walks over one. -/
theorem finishes_eachItem {v : Value} {a : Page} {h : Heap}
    (hsize : ∀ r, v = .list r → ∃ size, StaysWithin round r 0 a h size)
    (hr : RoundsFinish round (.ofValue h v) a h) :
    Finishes (fun n => eachItem n (round n) v a) h := by
  obtain rfl | ⟨r, rfl⟩ | ⟨hlist, hitems⟩ := null_or_list_or_elements v
  · exact (Eval.composes_ends.pure a).finishes h
  · obtain ⟨size, hsize⟩ := hsize r rfl
    obtain ⟨N, x, hx, hwalk⟩ := exists_outcome_eachIn size (by omega) hsize hr
    exact ⟨N, x, hx, fun n hn => hwalk n n hn hn⟩
  · simp only [hitems]
    refine ((Eval.composes_ends.elements v).finishes h).bind fun vs k hk => ?_
    obtain ⟨N, hk⟩ := hk
    have hvs := hk N (Nat.le_refl N)
    rw [Eval.elements, outcome_get_bind] at hvs
    cases helements : h.elements v with
    | error f =>
      rw [helements] at hvs
      cases hvs
    | ok ws =>
      rw [helements] at hvs
      cases hvs
      rw [Source.ofValue_of_elements hlist helements] at hr
      exact finishes_eachOf hr

end

/-! ## Loops with more rounds -/

section

variable {round round' : Value → Page → Eval Page}
  (hround : ∀ v p, (round v p).Below (round' v p))
include hround

theorem below_eachOf (vs : List Value) (a : Page) :
    (eachOf round vs a).Below (eachOf round' vs a) := by
  induction vs generalizing a with
  | nil => exact .refl _
  | cons v vs ih => exact (hround v a).bind ih

theorem below_eachIn (r : Ref) {limit limit' : Nat} (hlimit : limit ≤ limit') (i : Nat) (a : Page) :
    (eachIn round r limit i a).Below (eachIn round' r limit' i a) := by
  induction limit generalizing limit' i a with
  | zero => exact fun _ hends => absurd rfl hends
  | succ limit ih =>
    obtain ⟨limit', rfl⟩ : ∃ l, limit' = l + 1 := ⟨limit' - 1, by omega⟩
    refine Eval.Below.bind (.refl get) fun h => ?_
    cases (h.items r)[i]? with
    | none => exact .refl _
    | some v => exact (hround v a).bind (ih (by omega) (i + 1))

theorem below_eachItem {limit limit' : Nat} (hlimit : limit ≤ limit') (v : Value) (a : Page) :
    (eachItem limit round v a).Below (eachItem limit' round' v a) := by
  obtain rfl | ⟨r, rfl⟩ | ⟨-, hitems⟩ := null_or_list_or_elements v
  · exact .refl _
  · exact below_eachIn hround r hlimit 0 a
  · rw [hitems, hitems]
    exact Eval.Below.bind (.refl _) fun vs => below_eachOf hround vs a

end

end Wording
