import Wording.Proofs.Outcome
import Wording.Template.Cache

/-!
# What caches keep

A cache into which only compiled templates are put gives each text the template that the text
compiles to.

* `combined_of_ofOffers`: markers that are accepted are put together from those of the roles
* `compile_of_get?`: what is found in a cache is what would be compiled
* `compiled_set`: keeping a compiled template
-/

namespace Wording

/-! ## Markers that are the same -/

namespace Markers

/-- Markers with the pattern that those of the roles give together. -/
def Combined (m : Markers) : Prop := combine m.escape m.interpolate m.evaluate = .ok m

theorem combined_of_combine {escape interpolate evaluate : Option Pattern.Compiled} {m : Markers}
    (h : combine escape interpolate evaluate = .ok m) : m.Combined := by
  obtain ⟨matcher, _, hm⟩ := exists_of_bind_eq_ok h
  cases hm
  exact h

/-- **Accepted markers are put together from those of the roles.** -/
theorem combined_of_ofOffers {escape interpolate evaluate : MarkerOffer} {m : Markers}
    (h : ofOffers escape interpolate evaluate = .ok m) : m.Combined := by
  obtain ⟨escape, _, h⟩ := exists_of_bind_eq_ok h
  obtain ⟨interpolate, _, h⟩ := exists_of_bind_eq_ok h
  obtain ⟨evaluate, _, h⟩ := exists_of_bind_eq_ok h
  exact combined_of_combine h

/-- Markers that are the same for each role have the same pattern of all of them. -/
theorem eq_of_same {m n : Markers} (hm : m.Combined) (hn : n.Combined) (h : m.same n = true) :
    m = n := by
  have hget : ∀ r, m.get? r = n.get? r := by
    intro r
    have hr : r ∈ Role.all := by cases r <;> simp [Role.all]
    simpa using List.all_eq_true.mp h r hr
  have he : m.escape = n.escape := hget .escape
  have hi : m.interpolate = n.interpolate := hget .interpolate
  have hv : m.evaluate = n.evaluate := hget .evaluate
  unfold Combined at hm hn
  rw [he, hi, hv, hn] at hm
  exact (Except.ok.inj hm).symm

end Markers

/-! ## Entries -/

/-- An entry with the template that its text compiles to. -/
structure CacheEntry.Compiled (e : CacheEntry) : Prop where
  combined : e.markers.Combined
  compile_eq : Template.compile e.markers e.text = .ok e.template

theorem CacheEntry.Compiled.of_isFor {e : CacheEntry} {text : String} {m : Markers}
    (he : e.Compiled) (hm : m.Combined) (h : e.isFor text m = true) :
    e.text = text ∧ e.markers = m := by
  rw [CacheEntry.isFor, Bool.and_eq_true] at h
  exact ⟨by simpa using h.1, Markers.eq_of_same he.combined hm h.2⟩

namespace Cache

/-- A cache that holds nothing but what its texts compile to. -/
def Compiled (c : Cache) : Prop := ∀ e ∈ c.entries, e.Compiled

/-- **What is found in a cache is what would be compiled.** -/
theorem compile_of_get? {c : Cache} {text : String} {m : Markers} {t : Template} (hc : c.Compiled)
    (hm : m.Combined) (h : c.get? text m = some t) : Template.compile m text = .ok t := by
  obtain ⟨e, he, rfl⟩ := Option.map_eq_some_iff.mp h
  have hmem : e ∈ c.entries := List.mem_of_find?_eq_some he
  have hfor : e.isFor text m = true := List.find?_some (p := fun e => CacheEntry.isFor e text m) he
  obtain ⟨rfl, rfl⟩ := (hc e hmem).of_isFor hm hfor
  exact (hc e hmem).compile_eq

theorem compiled_put {new : CacheEntry} {es : List CacheEntry} (hnew : new.Compiled)
    (hes : ∀ e ∈ es, e.Compiled) : ∀ e ∈ put new es, e.Compiled := by
  induction es with
  | nil => simpa [put] using hnew
  | cons e es ih =>
    obtain ⟨he, hes⟩ := List.forall_mem_cons.mp hes
    rw [put]
    by_cases hfor : e.isFor new.text new.markers = true
    · -- The entry keeps its own text and markers, which are those of the new one.
      obtain ⟨htext, hmarkers⟩ := he.of_isFor hnew.combined hfor
      rw [if_pos hfor]
      refine List.forall_mem_cons.mpr ⟨⟨he.combined, ?_⟩, hes⟩
      rw [htext, hmarkers]
      exact hnew.compile_eq
    · rw [if_neg hfor]
      exact List.forall_mem_cons.mpr ⟨he, ih hes⟩

/-- **A cache that takes a compiled template holds nothing else.** -/
theorem compiled_set {c : Cache} {text : String} {m : Markers} {t : Template} (hc : c.Compiled)
    (hm : m.Combined) (ht : Template.compile m text = .ok t) : (c.set text m t).Compiled := by
  refine compiled_put ⟨hm, ht⟩ fun e he => hc e ?_
  by_cases hfull : c.isFull = true
  · rw [if_pos hfull] at he
    exact List.mem_of_mem_tail he
  · rwa [if_neg hfull] at he

theorem compiled_empty (limit : Option Nat) : Compiled ⟨limit, []⟩ := by
  intro e he
  cases he

theorem compiled_ofLimit? {limit : Option Int} {c : Cache} (h : ofLimit? limit = some c) :
    c.Compiled := by
  unfold ofLimit? at h
  cases limit with
  | none =>
    cases h
    exact compiled_empty none
  | some n =>
    by_cases hn : n < 1
    · simp [hn] at h
    · simp only [hn, if_false, Option.some.injEq] at h
      subst h
      exact compiled_empty _

end Cache

end Wording
