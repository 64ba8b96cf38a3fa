import Wording.Value.Key

/-!
# Entries by key

Dictionaries and catalogs are lists of entries in the order in which their keys first came. What is
looked up in them depends on the keys only, not on their order (`find?_put`).
-/

namespace Wording

/-- Two texts are the same key if they are the same. -/
theorem Value.keyEq_str (s t : String) : (Value.str s).keyEq (.str t) = decide (s = t) := by
  rw [Bool.eq_iff_iff]
  simp [keyEq, key]

namespace Keyed

variable {β : Type}

/-! ## Look-up -/

theorem find?_nil (k : Value) : find? ([] : List (Value × β)) k = none := rfl

theorem find?_cons (e : Value × β) (es : List (Value × β)) (k : Value) :
    find? (e :: es) k = if e.1.keyEq k then some e.2 else find? es k := by
  unfold find?
  rw [List.find?_cons]
  cases e.1.keyEq k <;> rfl

/-- Two forms of a key find the same. -/
theorem find?_congr {k k' : Value} (h : k.keyEq k' = true) (es : List (Value × β)) :
    find? es k = find? es k' := by
  induction es with
  | nil => rfl
  | cons e es ih =>
    have hk : e.1.keyEq k = e.1.keyEq k' := by
      rw [Bool.eq_iff_iff]
      refine ⟨fun h₁ => Value.keyEq_trans h₁ h, fun h₁ => Value.keyEq_trans h₁ ?_⟩
      rwa [Value.keyEq_comm]
    rw [find?_cons, find?_cons, hk, ih]

theorem find?_eq_none_of_forall {k : Value} {es : List (Value × β)}
    (h : ∀ e ∈ es, e.1.keyEq k = false) : find? es k = none := by
  induction es with
  | nil => rfl
  | cons e es ih =>
    rw [find?_cons, h e (by simp), ih fun e' he' => h e' (by simp [he'])]
    rfl

/-! ## Putting -/

/-- **A key finds what was put there last; all other keys find what they found before.** -/
theorem find?_put (k k' : Value) (v : β) (es : List (Value × β)) :
    find? (put k v es) k' = if k.keyEq k' then some v else find? es k' := by
  induction es with
  | nil => rw [put, find?_cons, find?_nil]
  | cons e es ih =>
    rw [put]
    by_cases he : e.1.keyEq k = true
    · rw [if_pos he, find?_cons, find?_cons]
      by_cases hk : k.keyEq k' = true
      · rw [if_pos (Value.keyEq_trans he hk), if_pos hk]
      · have hek : ¬ e.1.keyEq k' = true := by
          intro hek
          rw [Value.keyEq_comm] at he
          exact hk (Value.keyEq_trans he hek)
        rw [if_neg hek, if_neg hk, if_neg hek]
    · rw [if_neg he, find?_cons, find?_cons, ih]
      by_cases hk : k.keyEq k' = true
      · have hek : ¬ e.1.keyEq k' = true := by
          intro hek
          rw [Value.keyEq_comm] at hk
          exact he (Value.keyEq_trans hek hk)
        rw [if_neg hek, if_pos hk, if_pos hk]
      · rw [if_neg hk, if_neg hk]

/-- The keys behind a put are those before it and the one that was put. -/
theorem forall_mem_put {p : Value → Prop} {k : Value} {v : β} {es : List (Value × β)}
    (hk : p k) (hes : ∀ e ∈ es, p e.1) : ∀ e ∈ put k v es, p e.1 := by
  induction es with
  | nil => simpa [put] using hk
  | cons e es ih =>
    intro e' he'
    rw [put] at he'
    split at he'
    · rcases List.mem_cons.mp he' with rfl | hmem
      · exact hes e (by simp)
      · exact hes e' (by simp [hmem])
    · rcases List.mem_cons.mp he' with rfl | hmem
      · exact hes e' (by simp)
      · exact ih (fun x hx => hes x (by simp [hx])) e' hmem

theorem put_of_find?_eq_none {k : Value} {v : β} {es : List (Value × β)} (h : find? es k = none) :
    put k v es = es ++ [(k, v)] := by
  induction es with
  | nil => rfl
  | cons e es ih =>
    rw [find?_cons] at h
    by_cases hk : e.1.keyEq k = true
    · rw [if_pos hk] at h
      cases h
    · rw [if_neg hk] at h
      rw [put, if_neg hk, ih h, List.cons_append]

/-! ## Entries over others -/

/-- No key comes twice. -/
def Distinct : List (Value × β) → Prop
  | [] => True
  | e :: es => (∀ e' ∈ es, e'.1.keyEq e.1 = false) ∧ Distinct es

/-- **Entries that are put over others are found first.** -/
theorem find?_foldl_put {new : List (Value × β)} (h : Distinct new) (old : List (Value × β))
    (k : Value) :
    find? (new.foldl (fun acc e => put e.1 e.2 acc) old) k = (find? new k).or (find? old k) := by
  induction new generalizing old with
  | nil => rfl
  | cons e new ih =>
    obtain ⟨he, hnew⟩ := h
    rw [List.foldl_cons, ih hnew, find?_put, find?_cons]
    by_cases hk : e.1.keyEq k = true
    · -- The key does not come again among the new entries.
      rw [if_pos hk, if_pos hk, ← find?_congr hk, find?_eq_none_of_forall he]
      rfl
    · rw [if_neg hk, if_neg hk]

end Keyed

end Wording
