import Mathlib.Data.List.Forall2
import Mathlib.Order.Basic
import Wording.Proofs.Outcome

/-!
# Two runs that agree

Two computations agree if, from states that go together, they end in states that go together, and
both in results that do or both in errors that do. What goes together is told by a view of the two
runs, which grows while they go on: what they make goes together too. The lemmas here say it for each
way in which computations are put together.

* `Results`: two results, or two errors
* `Agree`: two computations
-/

namespace Wording

variable {ε ε' σ τ α α' β β' : Type}

/-! ## Results -/

/-- Two values that go together, or two errors that do. -/
inductive Results (E : ε → ε' → Prop) (R : α → α' → Prop) : Except ε α → Except ε' α' → Prop
  | ok {a : α} {a' : α'} (h : R a a') : Results E R (.ok a) (.ok a')
  | error {e : ε} {e' : ε'} (h : E e e') : Results E R (.error e) (.error e')

namespace Results

variable {E : ε → ε' → Prop} {R R' : α → α' → Prop} {S : β → β' → Prop}

theorem mono {x : Except ε α} {y : Except ε' α'} (h : Results E R x y)
    (hR : ∀ a a', R a a' → R' a a') : Results E R' x y := by
  cases h with
  | ok h => exact .ok (hR _ _ h)
  | error h => exact .error h

theorem bind {x : Except ε α} {y : Except ε' α'} {f : α → Except ε β} {g : α' → Except ε' β'}
    (h : Results E R x y) (hf : ∀ a a', R a a' → Results E S (f a) (g a')) :
    Results E S (x >>= f) (y >>= g) := by
  cases h with
  | ok h => exact hf _ _ h
  | error h => exact .error h

/-- What follows from results that are the same. -/
theorem bind_eq {x : Except ε α} {y : Except ε' α} {f : α → Except ε β} {g : α → Except ε' β'}
    (h : Results E Eq x y) (hf : ∀ a, Results E S (f a) (g a)) :
    Results E S (x >>= f) (y >>= g) := by
  refine h.bind ?_
  rintro a _ rfl
  exact hf a

theorem map {x : Except ε α} {y : Except ε' α'} {f : α → β} {g : α' → β'} (h : Results E R x y)
    (hf : ∀ a a', R a a' → S (f a) (g a')) : Results E S (x.map f) (y.map g) := by
  cases h with
  | ok h => exact .ok (hf _ _ h)
  | error h => exact .error h

theorem mapM {f : α → Except ε β} {g : α' → Except ε' β'} {xs : List α} {ys : List α'}
    (h : List.Forall₂ R xs ys) (hf : ∀ a a', R a a' → Results E S (f a) (g a')) :
    Results E (List.Forall₂ S) (xs.mapM f) (ys.mapM g) := by
  induction h with
  | nil => exact .ok .nil
  | cons h _ ih =>
    rw [List.mapM_cons, List.mapM_cons]
    exact (hf _ _ h).bind fun _ _ hb => ih.bind fun _ _ hbs => .ok (.cons hb hbs)

theorem mapM_eq {f : α → Except ε β} {g : α' → Except ε' β} {xs : List α} {ys : List α'}
    (h : List.Forall₂ R xs ys) (hf : ∀ a a', R a a' → Results E Eq (f a) (g a')) :
    Results E Eq (xs.mapM f) (ys.mapM g) := by
  refine (mapM h hf).mono fun bs bs' hbs => ?_
  rwa [List.forall₂_eq_eq_eq] at hbs

end Results

/-! ## Computations -/

section

variable {ι : Type} [Preorder ι] {P : ι → σ → τ → Prop} {E : ι → ε → ε' → Prop}
  {R R' : ι → α → α' → Prop} {S : ι → β → β' → Prop} {i : ι}

/-- From two states, two computations end in states and results that go together in a view that has
grown from the one at the start. -/
def AgreeFrom (P : ι → σ → τ → Prop) (E : ι → ε → ε' → Prop) (R : ι → α → α' → Prop) (i : ι)
    (m : ExceptT ε (StateM σ) α) (m' : ExceptT ε' (StateM τ) α') (s : σ) (t : τ) : Prop :=
  ∃ j, i ≤ j ∧ P j (outcome m s).2 (outcome m' t).2 ∧
    Results (E j) (R j) (outcome m s).1 (outcome m' t).1

/-- Two computations agree from all states that go together. -/
def Agree (P : ι → σ → τ → Prop) (E : ι → ε → ε' → Prop) (R : ι → α → α' → Prop) (i : ι)
    (m : ExceptT ε (StateM σ) α) (m' : ExceptT ε' (StateM τ) α') : Prop :=
  ∀ s t, P i s t → AgreeFrom P E R i m m' s t

theorem agree_pure {a : α} {a' : α'} (h : R i a a') :
    Agree P E R i (pure a : ExceptT ε (StateM σ) α) (pure a' : ExceptT ε' (StateM τ) α') :=
  fun _ _ hs => ⟨i, le_rfl, hs, .ok h⟩

theorem agree_throw {e : ε} {e' : ε'} (h : E i e e') :
    Agree P E R i (throw e : ExceptT ε (StateM σ) α) (throw e' : ExceptT ε' (StateM τ) α') :=
  fun _ _ hs => ⟨i, le_rfl, hs, .error h⟩

theorem agree_modify {f : σ → σ} {g : τ → τ}
    (h : ∀ s t, P i s t → ∃ j, i ≤ j ∧ P j (f s) (g t)) :
    Agree P E (fun _ _ _ => True) i (modify f : ExceptT ε (StateM σ) PUnit)
      (modify g : ExceptT ε' (StateM τ) PUnit) := by
  intro s t hs
  obtain ⟨j, hij, hj⟩ := h s t hs
  exact ⟨j, hij, hj, .ok trivial⟩

variable {m : ExceptT ε (StateM σ) α} {m' : ExceptT ε' (StateM τ) α'}

theorem Agree.mono (h : Agree P E R i m m') (hR : ∀ j, i ≤ j → ∀ a a', R j a a' → R' j a a') :
    Agree P E R' i m m' := by
  intro s t hs
  obtain ⟨j, hij, hj, hr⟩ := h s t hs
  exact ⟨j, hij, hj, hr.mono (hR j hij)⟩

theorem AgreeFrom.bind {f : α → ExceptT ε (StateM σ) β} {g : α' → ExceptT ε' (StateM τ) β'}
    {s : σ} {t : τ} (h : AgreeFrom P E R i m m' s t)
    (hf : ∀ j, i ≤ j → ∀ a a', R j a a' → Agree P E S j (f a) (g a')) :
    AgreeFrom P E S i (m >>= f) (m' >>= g) s t := by
  obtain ⟨j, hij, hj, hr⟩ := h
  unfold AgreeFrom
  rw [outcome_bind, outcome_bind]
  cases hm : outcome m s with
  | mk x s' =>
    cases hm' : outcome m' t with
    | mk y t' =>
      rw [hm, hm'] at hj hr
      cases hr with
      | ok hr =>
        obtain ⟨k, hjk, hk⟩ := hf j hij _ _ hr s' t' hj
        exact ⟨k, hij.trans hjk, hk⟩
      | error hr => exact ⟨j, hij, hj, .error hr⟩

theorem Agree.bind {f : α → ExceptT ε (StateM σ) β} {g : α' → ExceptT ε' (StateM τ) β'}
    (h : Agree P E R i m m') (hf : ∀ j, i ≤ j → ∀ a a', R j a a' → Agree P E S j (f a) (g a')) :
    Agree P E S i (m >>= f) (m' >>= g) := fun s t hs => (h s t hs).bind hf

theorem Agree.map {f : α → β} {g : α' → β'} (h : Agree P E R i m m')
    (hf : ∀ j, i ≤ j → ∀ a a', R j a a' → S j (f a) (g a')) :
    Agree P E S i (f <$> m) (g <$> m') := by
  rw [map_eq_pure_bind, map_eq_pure_bind]
  exact h.bind fun j hij _ _ hr => agree_pure (hf j hij _ _ hr)

/-- What follows from two results. -/
theorem agreeFrom_bind_of_ok {f : α → ExceptT ε (StateM σ) β} {g : α' → ExceptT ε' (StateM τ) β'}
    {s s' : σ} {t t' : τ} {a : α} {a' : α'} (hm : outcome m s = (.ok a, s'))
    (hm' : outcome m' t = (.ok a', t')) (h : AgreeFrom P E S i (f a) (g a') s' t') :
    AgreeFrom P E S i (m >>= f) (m' >>= g) s t := by
  unfold AgreeFrom
  rw [outcome_bind_of_ok hm, outcome_bind_of_ok hm']
  exact h

theorem agreeFrom_get_bind {f : σ → ExceptT ε (StateM σ) β} {g : τ → ExceptT ε' (StateM τ) β'}
    {s : σ} {t : τ} (h : AgreeFrom P E S i (f s) (g t) s t) :
    AgreeFrom P E S i (get >>= f) (get >>= g) s t :=
  agreeFrom_bind_of_ok (outcome_get s) (outcome_get t) h

/-- What follows from a state that is read. -/
theorem agree_get_bind {f : σ → ExceptT ε (StateM σ) β} {g : τ → ExceptT ε' (StateM τ) β'}
    (h : ∀ s t, P i s t → Agree P E S i (f s) (g t)) : Agree P E S i (get >>= f) (get >>= g) :=
  fun s t hs => agreeFrom_get_bind (h s t hs s t hs)

theorem agree_set {s : σ} {t : τ} (h : P i s t) :
    Agree P E (fun _ _ _ => True) i (set s : ExceptT ε (StateM σ) PUnit)
      (set t : ExceptT ε' (StateM τ) PUnit) :=
  fun _ _ _ => ⟨i, le_rfl, h, .ok trivial⟩

/-- What is done behind two computations, whether they fail or not. -/
theorem Agree.tryFinally {f : ExceptT ε (StateM σ) β} {g : ExceptT ε' (StateM τ) β'}
    (h : Agree P E R i m m') (hR : ∀ j k, j ≤ k → ∀ a a', R j a a' → R k a a')
    (hE : ∀ j k, j ≤ k → ∀ e e', E j e e' → E k e e') (hf : ∀ j, i ≤ j → Agree P E S j f g) :
    Agree P E R i (tryFinally m f) (tryFinally m' g) := by
  intro s t hs
  obtain ⟨j, hij, hj, hr⟩ := h s t hs
  unfold AgreeFrom
  rw [outcome_tryFinally, outcome_tryFinally]
  cases hm : outcome m s with
  | mk x s' =>
    cases hm' : outcome m' t with
    | mk y t' =>
      rw [hm, hm'] at hj hr
      obtain ⟨k, hjk, hk, hr'⟩ := hf j hij s' t' hj
      dsimp only
      cases hn : outcome f s' with
      | mk x' s'' =>
        cases hn' : outcome g t' with
        | mk y' t'' =>
          rw [hn, hn'] at hk hr'
          refine ⟨k, hij.trans hjk, ?_⟩
          cases hr' with
          | error he => exact ⟨hk, .error he⟩
          | ok _ =>
            refine ⟨hk, ?_⟩
            cases hr with
            | ok h => exact .ok (hR j k hjk _ _ h)
            | error he => exact .error (hE j k hjk _ _ he)

theorem Agree.tryCatch {f : ε → ExceptT ε (StateM σ) α} {g : ε' → ExceptT ε' (StateM τ) α'}
    (h : Agree P E R i m m') (hf : ∀ j, i ≤ j → ∀ e e', E j e e' → Agree P E R j (f e) (g e')) :
    Agree P E R i (tryCatch m f) (tryCatch m' g) := by
  intro s t hs
  obtain ⟨j, hij, hj, hr⟩ := h s t hs
  unfold AgreeFrom
  rw [outcome_tryCatch, outcome_tryCatch]
  cases hm : outcome m s with
  | mk x s' =>
    cases hm' : outcome m' t with
    | mk y t' =>
      rw [hm, hm'] at hj hr
      cases hr with
      | ok hr => exact ⟨j, hij, hj, .ok hr⟩
      | error hr =>
        obtain ⟨k, hjk, hk⟩ := hf j hij _ _ hr s' t' hj
        exact ⟨k, hij.trans hjk, hk⟩

end

end Wording
