/-!
# Outcomes

Steps in the world, acts on a reactive graph and computations on values keep a state and may fail;
what they have done to the state stays done. `outcome m s` is what `m` ends in from the state `s`:
its result and the state behind it. The lemmas here say it for each way in which computations are put
together, so that no other proof opens the monad.
-/

namespace Wording

variable {ε σ α β : Type}

/-- The result of a computation from a state, and the state behind it. -/
def outcome (m : ExceptT ε (StateM σ) α) (s : σ) : Except ε α × σ := (ExceptT.run m).run s

theorem outcome_pure (a : α) (s : σ) :
    outcome (pure a : ExceptT ε (StateM σ) α) s = (.ok a, s) := rfl

theorem outcome_get (s : σ) : outcome (get : ExceptT ε (StateM σ) σ) s = (.ok s, s) := rfl

theorem outcome_modify (f : σ → σ) (s : σ) :
    outcome (modify f : ExceptT ε (StateM σ) PUnit) s = (.ok ⟨⟩, f s) := rfl

/-- What goes on behind a result. -/
theorem outcome_bind (m : ExceptT ε (StateM σ) α) (f : α → ExceptT ε (StateM σ) β) (s : σ) :
    outcome (m >>= f) s =
      match outcome m s with
      | (.ok a, s') => outcome (f a) s'
      | (.error e, s') => (.error e, s') := by
  unfold outcome
  rw [ExceptT.run_bind, StateT.run_bind]
  cases h : (ExceptT.run m).run s with
  | mk r s' => cases r <;> rfl

theorem outcome_bind_of_ok {m : ExceptT ε (StateM σ) α} {f : α → ExceptT ε (StateM σ) β}
    {s s' : σ} {a : α} (h : outcome m s = (.ok a, s')) :
    outcome (m >>= f) s = outcome (f a) s' := by
  rw [outcome_bind, h]

theorem outcome_bind_of_error {m : ExceptT ε (StateM σ) α} {f : α → ExceptT ε (StateM σ) β}
    {s s' : σ} {e : ε} (h : outcome m s = (.error e, s')) :
    outcome (m >>= f) s = (.error e, s') := by
  rw [outcome_bind, h]

theorem fst_outcome_bind_of_error {m : ExceptT ε (StateM σ) α} {f : α → ExceptT ε (StateM σ) β}
    {s : σ} {e : ε} (h : (outcome m s).1 = .error e) : (outcome (m >>= f) s).1 = .error e := by
  have hm : outcome m s = (.error e, (outcome m s).2) := Prod.ext h rfl
  rw [outcome_bind_of_error hm]

/-- What goes on behind a result gives one only if there was one. -/
theorem exists_of_outcome_bind_eq_ok {m : ExceptT ε (StateM σ) α} {f : α → ExceptT ε (StateM σ) β}
    {s s' : σ} {b : β} (h : outcome (m >>= f) s = (.ok b, s')) :
    ∃ a t, outcome m s = (.ok a, t) ∧ outcome (f a) t = (.ok b, s') := by
  rw [outcome_bind] at h
  cases hm : outcome m s with
  | mk r t =>
    rw [hm] at h
    cases r with
    | error e => cases h
    | ok a => exact ⟨a, t, rfl, h⟩

theorem exists_of_isOk {m : ExceptT ε (StateM σ) α} {s : σ} (h : (outcome m s).1.isOk = true) :
    ∃ a s', outcome m s = (.ok a, s') := by
  cases hm : outcome m s with
  | mk r s' =>
    rw [hm] at h
    cases r with
    | error e => cases h
    | ok a => exact ⟨a, s', rfl⟩

theorem outcome_map (f : α → β) (m : ExceptT ε (StateM σ) α) (s : σ) :
    outcome (f <$> m) s = ((outcome m s).1.map f, (outcome m s).2) := by
  rw [map_eq_pure_bind, outcome_bind]
  cases outcome m s with
  | mk r s' => cases r <;> rfl

theorem outcome_get_bind (f : σ → ExceptT ε (StateM σ) β) (s : σ) :
    outcome (get >>= f) s = outcome (f s) s := outcome_bind_of_ok (outcome_get s)

theorem outcome_modify_bind (g : σ → σ) (f : PUnit → ExceptT ε (StateM σ) β) (s : σ) :
    outcome (modify g >>= f) s = outcome (f ⟨⟩) (g s) := outcome_bind_of_ok (outcome_modify g s)

/-- A failure that is caught. -/
theorem outcome_tryCatch (m : ExceptT ε (StateM σ) α) (f : ε → ExceptT ε (StateM σ) α) (s : σ) :
    outcome (tryCatch m f) s =
      match outcome m s with
      | (.ok a, s') => (.ok a, s')
      | (.error e, s') => outcome (f e) s' := by
  show StateT.run (ExceptT.run m >>= fun r => match r with
    | .ok a => pure (.ok a)
    | .error e => ExceptT.run (f e)) s = _
  rw [StateT.run_bind]
  unfold outcome
  cases h : (ExceptT.run m).run s with
  | mk r s' => cases r <;> rfl

/-- What is done behind a computation whether it fails or not. -/
theorem outcome_tryFinally (m : ExceptT ε (StateM σ) α) (f : ExceptT ε (StateM σ) β) (s : σ) :
    outcome (tryFinally m f) s =
      match outcome m s with
      | (r, s') =>
        match outcome f s' with
        | (.ok _, s'') => (r, s'')
        | (.error e, s'') => (.error e, s'') := by
  unfold tryFinally
  rw [outcome_map]
  simp only [outcome, tryFinally', ExceptT.run, ExceptT.mk, StateT.run]
  cases h : m s with
  | mk r s' =>
    simp only [bind, StateT.bind, h, pure]
    cases h' : f s' with
    | mk r' s'' => cases r <;> cases r' <;> simp only [h', Except.map] <;> rfl

/-! ## What is kept -/

/-- A computation keeps what holds of the state, whatever it ends in, and all its results are of a
kind. -/
def Keeps (P : σ → Prop) (m : ExceptT ε (StateM σ) α) (Q : α → Prop) : Prop :=
  ∀ s, P s → P (outcome m s).2 ∧ ∀ a, (outcome m s).1 = .ok a → Q a

section

variable {P : σ → Prop} {Q : α → Prop} {R : β → Prop}

theorem keeps_pure {a : α} (h : Q a) : Keeps P (pure a : ExceptT ε (StateM σ) α) Q := by
  intro s hs
  refine ⟨hs, fun b hb => ?_⟩
  cases hb
  exact h

theorem keeps_return (a : α) : Keeps P (pure a : ExceptT ε (StateM σ) α) fun _ => True :=
  keeps_pure trivial

theorem keeps_throw (e : ε) : Keeps P (throw e : ExceptT ε (StateM σ) α) Q :=
  fun _ hs => ⟨hs, nofun⟩

theorem keeps_get : Keeps P (get : ExceptT ε (StateM σ) σ) P := by
  intro s hs
  refine ⟨hs, fun t ht => ?_⟩
  cases ht
  exact hs

theorem keeps_set {s : σ} (h : P s) :
    Keeps P (set s : ExceptT ε (StateM σ) PUnit) fun _ => True :=
  fun _ _ => ⟨h, fun _ _ => trivial⟩

theorem keeps_modify {f : σ → σ} (h : ∀ s, P s → P (f s)) :
    Keeps P (modify f : ExceptT ε (StateM σ) PUnit) fun _ => True :=
  fun s hs => ⟨h s hs, fun _ _ => trivial⟩

theorem Keeps.bind {m : ExceptT ε (StateM σ) α} {f : α → ExceptT ε (StateM σ) β}
    (hm : Keeps P m Q) (hf : ∀ a, Q a → Keeps P (f a) R) : Keeps P (m >>= f) R := by
  intro s hs
  obtain ⟨ht, hq⟩ := hm s hs
  rw [outcome_bind]
  cases hout : outcome m s with
  | mk r t =>
    rw [hout] at ht hq
    cases r with
    | error e => exact ⟨ht, nofun⟩
    | ok a => exact hf a (hq a rfl) t ht

theorem Keeps.tryCatch {m : ExceptT ε (StateM σ) α} {f : ε → ExceptT ε (StateM σ) α}
    (hm : Keeps P m Q) (hf : ∀ e, Keeps P (f e) Q) : Keeps P (tryCatch m f) Q := by
  intro s hs
  obtain ⟨ht, hq⟩ := hm s hs
  rw [outcome_tryCatch]
  cases hout : outcome m s with
  | mk r t =>
    rw [hout] at ht hq
    cases r with
    | error e => exact hf e t ht
    | ok a => exact ⟨ht, hq⟩

theorem Keeps.tryFinally {m : ExceptT ε (StateM σ) α} {f : ExceptT ε (StateM σ) β}
    (hm : Keeps P m Q) (hf : Keeps P f R) : Keeps P (tryFinally m f) Q := by
  intro s hs
  obtain ⟨ht, hq⟩ := hm s hs
  rw [outcome_tryFinally]
  cases hout : outcome m s with
  | mk r t =>
    rw [hout] at ht hq
    obtain ⟨hu, -⟩ := hf t ht
    dsimp only
    cases hout' : outcome f t with
    | mk r' u =>
      rw [hout'] at hu
      cases r' with
      | error e => exact ⟨hu, nofun⟩
      | ok b => exact ⟨hu, hq⟩

end

/-! ## What ends alike -/

/-- From all states of a kind, two computations end alike, and in a state of this kind. -/
def Coincide (P : σ → Prop) (m m' : ExceptT ε (StateM σ) α) : Prop :=
  ∀ s, P s → outcome m s = outcome m' s ∧ P (outcome m s).2

section

variable {P : σ → Prop} {Q : α → Prop} {m m' : ExceptT ε (StateM σ) α}

theorem Keeps.coincide (h : Keeps P m Q) : Coincide P m m := fun s hs => ⟨rfl, (h s hs).1⟩

theorem Coincide.keeps (h : Coincide P m m') : Keeps P m fun _ => True :=
  fun s hs => ⟨(h s hs).2, fun _ _ => trivial⟩

theorem Coincide.bind {f g : α → ExceptT ε (StateM σ) β} (h : Coincide P m m')
    (hf : ∀ a, Coincide P (f a) (g a)) : Coincide P (m >>= f) (m' >>= g) := by
  intro s hs
  obtain ⟨heq, ht⟩ := h s hs
  rw [outcome_bind, outcome_bind, ← heq]
  cases hout : outcome m s with
  | mk r t =>
    rw [hout] at ht
    cases r with
    | error e => exact ⟨rfl, ht⟩
    | ok a => exact hf a t ht

theorem Coincide.tryCatch {f : ε → ExceptT ε (StateM σ) α} (h : Coincide P m m')
    (hf : ∀ e, Coincide P (f e) (f e)) : Coincide P (tryCatch m f) (tryCatch m' f) := by
  intro s hs
  obtain ⟨heq, ht⟩ := h s hs
  rw [outcome_tryCatch, outcome_tryCatch, ← heq]
  cases hout : outcome m s with
  | mk r t =>
    rw [hout] at ht
    cases r with
    | error e => exact hf e t ht
    | ok a => exact ⟨rfl, ht⟩

theorem coincide_pure (a : α) : Coincide P (pure a : ExceptT ε (StateM σ) α) (pure a) :=
  (keeps_return a).coincide

theorem coincide_throw (e : ε) : Coincide P (throw e : ExceptT ε (StateM σ) α) (throw e) :=
  (keeps_throw (Q := fun _ => True) e).coincide

theorem coincide_get_bind {f g : σ → ExceptT ε (StateM σ) β} (h : ∀ s, Coincide P (f s) (g s)) :
    Coincide P (get >>= f) (get >>= g) := Coincide.bind keeps_get.coincide h

end

/-! ## Results without a state -/

theorem exists_of_bind_eq_ok {x : Except ε α} {f : α → Except ε β} {b : β}
    (h : x >>= f = .ok b) : ∃ a, x = .ok a ∧ f a = .ok b := by
  cases x with
  | error e => cases h
  | ok a => exact ⟨a, rfl, h⟩

theorem exists_eq_ok {x : Except ε α} (h : x.isOk = true) : ∃ a, x = .ok a := by
  cases x with
  | error e => cases h
  | ok a => exact ⟨a, rfl⟩

/-- A result of which something has been seen. -/
theorem exists_of_map_toOption {x : Except ε α} {f : α → β} {b : β}
    (h : x.toOption.map f = some b) : ∃ a, x = .ok a ∧ f a = b := by
  cases x with
  | error e => cases h
  | ok a => exact ⟨a, rfl, Option.some.inj h⟩

end Wording
