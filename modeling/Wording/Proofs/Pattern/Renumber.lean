import Wording.Proofs.Pattern.Tiling
import Mathlib.Data.List.Basic

/-!
# Renumbering groups

The numbers of the groups of an expression are names: an expression whose groups get other numbers,
and whose references and conditions follow, matches the same characters in the same order of
preference.

* `Regex.toList_run_renumber`: the ways to match of a renumbered expression
* `Regex.groups_of_mem_run`: a way to match gives values to groups of the expression only
-/

namespace Wording.Pattern

variable {text : Array Char}

/-- Gives new numbers to groups, and to what refers to them. -/
def Regex.renumber (ρ : Nat → Nat) : Regex → Regex
  | .empty => .empty
  | .char set => .char set
  | .seq a b => .seq (a.renumber ρ) (b.renumber ρ)
  | .alt a b => .alt (a.renumber ρ) (b.renumber ρ)
  | .capture n r => .capture (ρ n) (r.renumber ρ)
  | .reference n f => .reference (ρ n) f
  | .loop least most isLazy r => .loop least most isLazy (r.renumber ρ)
  | .atomic r => .atomic (r.renumber ρ)
  | .look behind negated r => .look behind negated (r.renumber ρ)
  | .choice n yes no => .choice (ρ n) (yes.renumber ρ) (no.renumber ρ)
  | .anchor a => .anchor a

/-- The groups that have matched, under new numbers. -/
def State.renumber (ρ : Nat → Nat) (s : State) : State :=
  { s with groups := s.groups.map fun g => (ρ g.1, g.2) }

/-- A match under new numbers of its groups. -/
def Match.renumber (ρ : Nat → Nat) (m : Match) : Match :=
  { m with groups := m.groups.map fun g => (ρ g.1, g.2) }

/-- The numbers of the groups of an expression. -/
def Regex.captures : Regex → List Nat
  | .empty | .char _ | .reference _ _ | .anchor _ => []
  | .seq a b | .alt a b | .choice _ a b => a.captures ++ b.captures
  | .capture n r => n :: r.captures
  | .loop _ _ _ r | .atomic r | .look _ _ r => r.captures

/-- The number of a group when so many other groups come before it. -/
def shift (offset n : Nat) : Nat := if n = 0 then 0 else n + offset

theorem shift_injective (offset : Nat) : Function.Injective (shift offset) := by
  intro n m h
  unfold shift at h
  split at h <;> split at h <;> omega

theorem shift_of_pos {n : Nat} (h : 1 ≤ n) (offset : Nat) : shift offset n = n + offset := by
  rw [shift, if_neg (by omega)]

/-- No group before it has the number. -/
theorem shift_eq_zero_or_lt (offset n : Nat) : shift offset n = 0 ∨ offset < shift offset n := by
  unfold shift
  split <;> omega

theorem shift_zero : shift 0 = id := by
  funext n
  unfold shift
  split <;> simp_all

/-! ## Ways to match -/

section

variable {ρ : Nat → Nat} (hρ : Function.Injective ρ)

include hρ

theorem find?_renumber (groups : List (Nat × Nat × Nat)) (n : Nat) :
    (groups.map fun g => (ρ g.1, g.2)).find? (·.1 == ρ n) =
      (groups.find? (·.1 == n)).map fun g => (ρ g.1, g.2) := by
  rw [List.find?_map]
  have heq : ((fun g : Nat × Nat × Nat => g.1 == ρ n) ∘ fun g : Nat × Nat × Nat => (ρ g.1, g.2)) =
      fun g => g.1 == n := by
    funext g
    rw [Function.comp_apply, Bool.eq_iff_iff, beq_iff_eq, beq_iff_eq]
    exact hρ.eq_iff
  rw [heq]

theorem State.group?_renumber (s : State) (n : Nat) :
    (s.renumber ρ).group? (ρ n) = s.group? n := by
  rw [group?, renumber, find?_renumber hρ, group?, Option.map_map]
  rfl

omit hρ in
/-- Rounds under new numbers, if each of them keeps to the new numbers. -/
theorem toList_rounds_renumber {body body' : State → Search State}
    (h : ∀ s : State, (body' (s.renumber ρ)).toList = (body s).toList.map (State.renumber ρ))
    (least : Nat) (most : Option Nat) (isLazy : Bool) (fuel count : Nat) (last : Option Nat)
    (s : State) :
    (rounds body' least most isLazy fuel count last (s.renumber ρ)).toList =
      (rounds body least most isLazy fuel count last s).toList.map (State.renumber ρ) := by
  induction fuel generalizing count last s with
  | zero => rfl
  | succ fuel ih =>
    have hmore : ∀ k l, ((body' (s.renumber ρ)).bind fun t =>
        rounds body' least most isLazy fuel k l t).toList =
          ((body s).bind fun t => rounds body least most isLazy fuel k l t).toList.map
            (State.renumber ρ) := by
      intro k l
      rw [Search.toList_bind, Search.toList_bind, h, List.flatMap_map, List.map_flatMap]
      simp only [ih]
    have hpos : (s.renumber ρ).pos = s.pos := rfl
    rw [rounds, rounds, hpos]
    split
    · exact hmore _ _
    · split
      · cases isLazy with
        | true =>
          rw [if_pos rfl, if_pos rfl, Search.toList_append, Search.toList_append, List.map_append,
            hmore]
          rfl
        | false =>
          rw [if_neg Bool.false_ne_true, if_neg Bool.false_ne_true, Search.toList_append,
            Search.toList_append, List.map_append, hmore]
          rfl
      · rfl

/-- **The ways to match of a renumbered expression** are those of the expression, under the new
numbers. -/
theorem Regex.toList_run_renumber (r : Regex) (s : State) :
    ((r.renumber ρ).run text (s.renumber ρ)).toList =
      (r.run text s).toList.map (State.renumber ρ) := by
  have hpos : ∀ s : State, (s.renumber ρ).pos = s.pos := fun _ => rfl
  induction r generalizing s with
  | empty => rfl
  | char set =>
    rw [renumber, run, run, hpos]
    split
    · split <;> rfl
    · rfl
  | seq a b iha ihb =>
    rw [renumber, run, run, Search.toList_bind, Search.toList_bind, iha, List.flatMap_map,
      List.map_flatMap]
    simp only [ihb]
  | alt a b iha ihb =>
    rw [renumber, run, run, Search.toList_append, Search.toList_append, iha, ihb, List.map_append]
  | capture n r ih =>
    rw [renumber, run, run, Search.toList_bind, Search.toList_bind, ih, List.flatMap_map,
      List.map_flatMap]
    rfl
  | reference n f =>
    rw [renumber, run, run, State.group?_renumber hρ, hpos]
    split
    · split <;> rfl
    · rfl
  | loop least most isLazy r ih =>
    rw [renumber, run, run]
    exact toList_rounds_renumber ih _ _ _ _ _ _ _
  | atomic r ih =>
    rw [renumber, run, run, Search.toList_once, Search.toList_once, ih, List.map_take]
  | look behind negated r ih =>
    -- What is looked at decides by its first way, and that is the first way under the new numbers.
    have hfirst : ∀ t : State, ((r.renumber ρ).run text (t.renumber ρ)).first? =
        (r.run text t).first?.map (State.renumber ρ) := by
      intro t
      rw [Search.first?_eq_head?, Search.first?_eq_head?, ih, List.head?_map]
    cases behind with
    | none =>
      simp only [renumber, run, hfirst]
      cases (r.run text s).first? <;> cases negated <;> rfl
    | some n =>
      simp only [renumber, run, hpos]
      by_cases hn : n ≤ s.pos
      · have hback := hfirst { s with pos := s.pos - n }
        simp only [hn, if_true]
        rw [show ({ s.renumber ρ with pos := s.pos - n } : State) =
          State.renumber ρ { s with pos := s.pos - n } from rfl, hback]
        cases (r.run text { s with pos := s.pos - n }).first? <;> cases negated <;> rfl
      · simp only [hn, if_false]
        cases negated <;> rfl
  | choice n yes no ihyes ihno =>
    rw [renumber, run, run, State.group?_renumber hρ]
    split
    · exact ihyes s
    · exact ihno s
  | anchor a =>
    rw [renumber, run, run, hpos]
    split <;> rfl

theorem Match.group?_renumber (m : Match) (n : Nat) :
    (m.renumber ρ).group? text (ρ n) = m.group? text n := by
  rw [group?, renumber, find?_renumber hρ, group?, Option.map_map]
  rfl

omit hρ in
/-- A number that no group gets has no group. -/
theorem Match.group?_renumber_of_ne {m : Match} {n : Nat} (h : ∀ g ∈ m.groups, ρ g.1 ≠ n) :
    (m.renumber ρ).group? text n = none := by
  have hfind : (m.renumber ρ).groups.find? (·.1 == n) = none := by
    rw [List.find?_eq_none]
    intro g' hg' heq
    obtain ⟨g, hg, rfl⟩ := List.mem_map.mp hg'
    exact h g hg (beq_iff_eq.mp heq)
  rw [group?, hfind, Option.map_none]

/-- A renumbered expression matches at a place what the expression matches there. -/
theorem Regex.matchAt?_renumber (r : Regex) (pos : Nat) :
    (r.renumber ρ).matchAt? text pos false =
      (r.matchAt? text pos false).map (Match.renumber ρ) := by
  have hstart : (⟨pos, []⟩ : State) = (⟨pos, []⟩ : State).renumber ρ := rfl
  rw [matchAt?_false, hstart, toList_run_renumber hρ, List.head?_map, matchAt?_false,
    Option.map_map, Option.map_map]
  rfl

end

/-! ## The groups of a match -/

/-- **A way to match gives values to groups of the expression only.** -/
theorem Regex.groups_of_mem_run {r : Regex} {s t : State} (h : t ∈ (r.run text s).toList) :
    ∀ g ∈ t.groups, g ∈ s.groups ∨ g.1 ∈ r.captures := by
  induction r generalizing s t with
  | empty =>
    rw [run, Search.toList_pure, List.mem_singleton] at h
    exact fun g hg => .inl (h ▸ hg)
  | char set =>
    obtain ⟨-, rfl⟩ := of_mem_run_char h
    exact fun g hg => .inl hg
  | seq a b iha ihb =>
    rw [run, Search.toList_bind, List.mem_flatMap] at h
    obtain ⟨u, hu, ht⟩ := h
    intro g hg
    rw [captures, List.mem_append]
    obtain hg | hg := ihb ht g hg
    · exact (iha hu g hg).imp_right .inl
    · exact .inr (.inr hg)
  | alt a b iha ihb =>
    rw [run, Search.toList_append, List.mem_append] at h
    intro g hg
    rw [captures, List.mem_append]
    obtain h | h := h
    · exact (iha h g hg).imp_right .inl
    · exact (ihb h g hg).imp_right .inr
  | capture n r ih =>
    obtain ⟨u, hu, rfl⟩ := exists_of_mem_run_capture h
    intro g hg
    rw [captures, List.mem_cons]
    obtain rfl | hg := List.mem_cons.mp hg
    · exact .inr (.inl rfl)
    · exact (ih hu g hg).imp_right .inr
  | reference n f =>
    obtain ⟨i, k, -, rfl⟩ := exists_of_mem_run_reference h
    exact fun g hg => .inl hg
  | loop least most isLazy r ih =>
    rw [run] at h
    exact rel_of_mem_rounds
      (Q := fun s t => ∀ g ∈ t.groups, g ∈ s.groups ∨ g.1 ∈ (loop least most isLazy r).captures)
      (fun _ _ hg => .inl hg)
      (fun _ _ _ hst htu g hg => (htu g hg).elim (hst g) .inr) (fun _ _ ht => ih ht) h
  | atomic r ih =>
    rw [run, Search.toList_once] at h
    exact ih (List.mem_of_mem_take h)
  | look behind negated r ih =>
    -- The groups are those of the start, or those that the inner expression has matched.
    obtain rfl | ⟨u, v, hu, hv, rfl⟩ := exists_of_mem_run_look h
    · exact fun g hg => .inl hg
    · exact fun g hg => hu ▸ ih hv g hg
  | choice n yes no ihyes ihno =>
    rw [run] at h
    intro g hg
    rw [captures, List.mem_append]
    split at h
    · exact (ihyes h g hg).imp_right .inl
    · exact (ihno h g hg).imp_right .inr
  | anchor a =>
    rw [eq_of_mem_run_anchor h]
    exact fun g hg => .inl hg

/-- The groups of a match at a place are groups of the expression. -/
theorem Regex.groups_of_matchAt? {r : Regex} {pos : Nat} {m : Match}
    (h : r.matchAt? text pos false = some m) : ∀ g ∈ m.groups, g.1 ∈ r.captures := by
  rw [matchAt?_false] at h
  obtain ⟨t, ht, rfl⟩ := Option.map_eq_some_iff.mp h
  exact fun g hg => (groups_of_mem_run (List.mem_of_head? ht) g hg).resolve_left List.not_mem_nil

end Wording.Pattern
