import Wording.Pattern.Matcher

/-!
# Matches tile a text

Where the matches of a pattern lie in a text.

* `Regex.ahead_of_mem_run`: a way to match goes forward and stays within the text
* `Regex.tiles_scan`: the matches of a text come in order, none begins before the one in front of it
  ends, and the last one reaches the end of the text

The last statement needs that the pattern matches at the end of the text, as the pattern of all
markers does. It rests on two things: a search goes on where the match before it ended, and after a
match without characters it may not come back with another one at the same place.
-/

namespace Wording.Pattern

variable {text : Array Char}

/-! ## Ways to match -/

/-- `t` lies at `s` or behind it, within the text. -/
def State.Ahead (text : Array Char) (s t : State) : Prop := s.pos ≤ t.pos ∧ t.pos ≤ text.size

theorem State.Ahead.trans {s t u : State} (h : s.Ahead text t) (h' : t.Ahead text u) :
    s.Ahead text u := ⟨Nat.le_trans h.1 h'.1, h'.2⟩

/-- What repeats characters of the text lies within the text. -/
theorem le_size_of_repeats {f : Folding} {i j n : Nat} (hi : i ≤ text.size)
    (h : repeats text f i j n = true) : i + n ≤ text.size := by
  induction n generalizing i j with
  | zero => exact hi
  | succ n ih =>
    rw [repeats] at h
    cases ha : text[i]? with
    | none => simp [ha] at h
    | some a =>
      cases hb : text[j]? with
      | none => simp [ha, hb] at h
      | some b =>
        simp only [ha, hb, Bool.and_eq_true] at h
        have hlt : i < text.size := (Array.getElem?_eq_some_iff.mp ha).1
        have := ih hlt h.2
        omega

/-- What holds between the states at both ends of a round holds between those at both ends of a
loop, if it is reflexive and transitive. -/
theorem rel_of_mem_rounds {Q : State → State → Prop} (hrefl : ∀ s, Q s s)
    (htrans : ∀ s t u, Q s t → Q t u → Q s u) {body : State → Search State}
    (hbody : ∀ s, ∀ t ∈ (body s).toList, Q s t) {least : Nat} {most : Option Nat} {isLazy : Bool}
    {fuel count : Nat} {last : Option Nat} {s t : State}
    (h : t ∈ (rounds body least most isLazy fuel count last s).toList) : Q s t := by
  induction fuel generalizing count last s with
  | zero => simp [rounds] at h
  | succ fuel ih =>
    have hmore : ∀ {k l}, t ∈ ((body s).bind fun u =>
        rounds body least most isLazy fuel k l u).toList → Q s t := by
      intro k l hmem
      rw [Search.toList_bind, List.mem_flatMap] at hmem
      obtain ⟨u, hu, ht⟩ := hmem
      exact htrans s u t (hbody s u hu) (ih ht)
    rw [rounds] at h
    split at h
    · exact hmore h
    · split at h
      · cases isLazy with
        | true =>
          simp only [if_true, Search.toList_append, Search.toList_pure, List.mem_append,
            List.mem_singleton] at h
          obtain rfl | h := h
          · exact hrefl t
          · exact hmore h
        | false =>
          simp only [Bool.false_eq_true, if_false, Search.toList_append, Search.toList_pure,
            List.mem_append, List.mem_singleton] at h
          obtain h | rfl := h
          · exact hmore h
          · exact hrefl t
      · rw [Search.toList_pure, List.mem_singleton] at h
        rw [h]
        exact hrefl s

/-! ### Where a form leads to -/

section

variable {s t : State}

theorem Regex.of_mem_run_char {set : CharSet} (h : t ∈ ((char set).run text s).toList) :
    s.pos < text.size ∧ t = s.advance 1 := by
  rw [run] at h
  cases hc : text[s.pos]? with
  | none => simp [hc] at h
  | some c =>
    simp only [hc] at h
    split at h
    · rw [Search.toList_pure, List.mem_singleton] at h
      exact ⟨(Array.getElem?_eq_some_iff.mp hc).1, h⟩
    · simp at h

theorem Regex.exists_of_mem_run_reference {n : Nat} {f : Folding}
    (h : t ∈ ((reference n f).run text s).toList) :
    ∃ i k, repeats text f s.pos i k = true ∧ t = s.advance k := by
  rw [run] at h
  split at h
  · split at h
    · next i j _ hrepeats =>
      rw [Search.toList_pure, List.mem_singleton] at h
      exact ⟨i, j - i, hrepeats, h⟩
    · simp at h
  · simp at h

theorem Regex.eq_of_mem_run_anchor {a : Anchor} (h : t ∈ ((anchor a).run text s).toList) :
    t = s := by
  rw [run] at h
  split at h
  · rwa [Search.toList_pure, List.mem_singleton] at h
  · simp at h

theorem Regex.exists_of_mem_run_capture {n : Nat} {r : Regex}
    (h : t ∈ ((capture n r).run text s).toList) :
    ∃ u ∈ (r.run text s).toList, t = { u with groups := (n, s.pos, u.pos) :: u.groups } := by
  rw [run, Search.toList_bind, List.mem_flatMap] at h
  obtain ⟨u, hu, ht⟩ := h
  rw [Search.toList_pure, List.mem_singleton] at ht
  exact ⟨u, hu, ht⟩

/-- What is looked at is not taken: the place stays the same, and no groups come in but those of a
way to match the inner expression. -/
theorem Regex.exists_of_mem_run_look {behind : Option Nat} {negated : Bool} {r : Regex}
    (h : t ∈ ((look behind negated r).run text s).toList) :
    t = s ∨ ∃ u v : State, u.groups = s.groups ∧ v ∈ (r.run text u).toList ∧
      t = { s with groups := v.groups } := by
  simp only [run] at h
  split at h
  · next v hv =>
    split at h
    · simp at h
    · rw [Search.toList_pure, List.mem_singleton] at h
      rw [Search.first?_eq_head?] at hv
      cases behind with
      | none => exact .inr ⟨s, v, rfl, List.mem_of_head? hv, h⟩
      | some n =>
        dsimp only at hv
        split at hv
        · exact .inr ⟨{ s with pos := s.pos - n }, v, rfl, List.mem_of_head? hv, h⟩
        · cases hv
  · split at h
    · rw [Search.toList_pure, List.mem_singleton] at h
      exact .inl h
    · simp at h

end

/-! ### The place -/

/-- **A way to match goes forward and stays within the text.** -/
theorem Regex.ahead_of_mem_run {r : Regex} {s t : State} (hs : s.pos ≤ text.size)
    (h : t ∈ (r.run text s).toList) : s.Ahead text t := by
  induction r generalizing s t with
  | empty =>
    simp only [run, Search.toList_pure, List.mem_singleton] at h
    rw [h]
    exact ⟨Nat.le_refl _, hs⟩
  | char set =>
    obtain ⟨hlt, rfl⟩ := of_mem_run_char h
    exact ⟨Nat.le_succ _, hlt⟩
  | seq a b iha ihb =>
    rw [run, Search.toList_bind, List.mem_flatMap] at h
    obtain ⟨u, hu, ht⟩ := h
    exact (iha hs hu).trans (ihb (iha hs hu).2 ht)
  | alt a b iha ihb =>
    rw [run, Search.toList_append, List.mem_append] at h
    exact h.elim (iha hs) (ihb hs)
  | capture n r ih =>
    obtain ⟨u, hu, rfl⟩ := exists_of_mem_run_capture h
    have hahead : s.Ahead text u := ih hs hu
    exact hahead
  | reference n f =>
    obtain ⟨i, k, hrepeats, rfl⟩ := exists_of_mem_run_reference h
    exact ⟨Nat.le_add_right _ _, le_size_of_repeats hs hrepeats⟩
  | loop least most isLazy r ih =>
    rw [run] at h
    exact rel_of_mem_rounds (Q := fun s t => s.pos ≤ text.size → s.Ahead text t)
      (fun _ hs => ⟨Nat.le_refl _, hs⟩) (fun _ _ _ hst htu hs => (hst hs).trans (htu (hst hs).2))
      (fun _ _ ht hs => ih hs ht) h hs
  | atomic r ih =>
    rw [run, Search.toList_once] at h
    exact ih hs (List.mem_of_mem_take h)
  | look behind negated r _ =>
    have hpos : t.pos = s.pos := by
      obtain rfl | ⟨u, v, -, -, rfl⟩ := exists_of_mem_run_look h <;> rfl
    exact ⟨Nat.le_of_eq hpos.symm, hpos ▸ hs⟩
  | choice n yes no ihyes ihno =>
    rw [run] at h
    split at h
    · exact ihyes hs h
    · exact ihno hs h
  | anchor a =>
    rw [eq_of_mem_run_anchor h]
    exact ⟨Nat.le_refl _, hs⟩

/-! ## Searching -/

/-- The preferred way of alternatives is that of the first one that has any. -/
theorem Regex.head?_alt (a b : Regex) (s : State) :
    ((a.alt b).run text s).toList.head? =
      ((a.run text s).toList.head?).or ((b.run text s).toList.head?) := by
  rw [run, Search.toList_append, List.head?_append]

/-- The match at a place is the preferred way from there. -/
theorem Regex.matchAt?_false (r : Regex) (pos : Nat) :
    r.matchAt? text pos false =
      ((r.run text ⟨pos, []⟩).toList.head?).map fun t => ⟨pos, t.pos, t.groups⟩ := by
  rw [matchAt?, Search.find?_eq_find?]
  cases (r.run text ⟨pos, []⟩).toList <;> rfl

/-- What alternatives match at a place is what the first of them does that matches there. -/
theorem Regex.matchAt?_alt (a b : Regex) (pos : Nat) :
    (a.alt b).matchAt? text pos false =
      (a.matchAt? text pos false).or (b.matchAt? text pos false) := by
  rw [matchAt?_false, head?_alt, Option.map_or, ← matchAt?_false, ← matchAt?_false]

/-- **A match at a place starts there, goes forward and stays within the text.** -/
theorem Regex.of_matchAt? {r : Regex} {pos : Nat} {advance : Bool} {m : Match}
    (hpos : pos ≤ text.size) (h : r.matchAt? text pos advance = some m) :
    m.start = pos ∧ pos ≤ m.stop ∧ m.stop ≤ text.size ∧ (advance = true → m.stop ≠ pos) := by
  rw [matchAt?, Search.find?_eq_find?] at h
  obtain ⟨t, ht, rfl⟩ := Option.map_eq_some_iff.mp h
  have hahead : (⟨pos, []⟩ : State).Ahead text t :=
    ahead_of_mem_run hpos (List.mem_of_find?_eq_some ht)
  refine ⟨rfl, hahead.1, hahead.2, fun hadvance => ?_⟩
  have hmoved := List.find?_some ht
  simpa [hadvance] using hmoved

/-- Where a search comes to: a match at the place or behind it. -/
theorem Regex.of_searchFrom? {r : Regex} {pos n : Nat} {advance : Bool} {m : Match}
    (hpos : pos + n ≤ text.size) (h : r.searchFrom? text pos advance n = some m) :
    pos ≤ m.start ∧ m.start ≤ m.stop ∧ m.stop ≤ text.size ∧
      (advance = true → m.start = pos → m.stop ≠ m.start) := by
  induction n generalizing pos advance with
  | zero =>
    obtain ⟨hstart, hle, hsize, hmoved⟩ := of_matchAt? hpos h
    refine ⟨by omega, by omega, hsize, fun ha _ => ?_⟩
    have := hmoved ha
    omega
  | succ n ih =>
    rw [searchFrom?] at h
    cases hm : r.matchAt? text pos advance with
    | none =>
      simp only [hm] at h
      obtain ⟨hstart, hle, hsize, _⟩ := ih (by omega) h
      refine ⟨by omega, hle, hsize, fun _ heq => ?_⟩
      omega
    | some m' =>
      simp only [hm, Option.some.injEq] at h
      subst h
      obtain ⟨hstart, hle, hsize, hmoved⟩ := of_matchAt? (by omega) hm
      refine ⟨by omega, by omega, hsize, fun ha _ => ?_⟩
      have := hmoved ha
      omega

/-- A search that finds nothing has also looked at the last place. -/
theorem Regex.matchAt?_of_searchFrom?_eq_none {r : Regex} {pos n : Nat} {advance : Bool}
    (h : r.searchFrom? text pos advance n = none) :
    (n = 0 ∧ r.matchAt? text pos advance = none) ∨
      (0 < n ∧ r.matchAt? text (pos + n) false = none) := by
  induction n generalizing pos advance with
  | zero => exact Or.inl ⟨rfl, h⟩
  | succ n ih =>
    refine Or.inr ⟨Nat.succ_pos n, ?_⟩
    rw [searchFrom?] at h
    cases hm : r.matchAt? text pos advance with
    | some m => simp [hm] at h
    | none =>
      simp only [hm] at h
      rw [Nat.add_comm n 1, ← Nat.add_assoc]
      obtain ⟨rfl, h⟩ | ⟨_, h⟩ := ih h <;> exact h

/-! ## All matches -/

/-- Matches in order from `pos` on, none of which begins before the one in front of it ends, up to
the end of the text. -/
inductive Tiles (size : Nat) : Nat → List Match → Prop where
  | nil : Tiles size size []
  | cons {pos : Nat} {m : Match} {ms : List Match} (hstart : pos ≤ m.start)
      (hstop : m.start ≤ m.stop) (hms : Tiles size m.stop ms) : Tiles size pos (m :: ms)

theorem Tiles.of_nil {size pos : Nat} (h : Tiles size pos []) : pos = size := by
  cases h
  rfl

theorem Tiles.of_cons {size pos : Nat} {m : Match} {ms : List Match}
    (h : Tiles size pos (m :: ms)) : pos ≤ m.start ∧ m.start ≤ m.stop ∧ Tiles size m.stop ms := by
  cases h with
  | cons hstart hstop hms => exact ⟨hstart, hstop, hms⟩

theorem Tiles.pos_le {size pos : Nat} {ms : List Match} (h : Tiles size pos ms) : pos ≤ size := by
  induction h with
  | nil => exact Nat.le_refl _
  | cons hstart hstop _ ih => omega

/-- The matches behind a place, for a pattern that matches at the end of the text. -/
theorem Regex.tiles_scanFrom {r : Regex} (hend : (r.matchAt? text text.size false).isSome)
    {fuel pos : Nat} {advance : Bool} (hpos : pos ≤ text.size)
    (hfuel : 2 * (text.size - pos) + (if advance then 0 else 1) < fuel) :
    Tiles text.size pos (r.scanFrom text fuel pos advance) := by
  induction fuel generalizing pos advance with
  | zero => omega
  | succ fuel ih =>
    rw [scanFrom]
    cases hm : r.searchFrom? text pos advance (text.size - pos) with
    | none =>
      -- Only behind a match that ends with the text can nothing be found.
      have hsize : pos = text.size := by
        obtain ⟨hn, _⟩ | ⟨_, h⟩ := matchAt?_of_searchFrom?_eq_none hm
        · omega
        · rw [Nat.add_sub_cancel' hpos] at h
          simp [h] at hend
      rw [hsize]
      exact .nil
    | some m =>
      obtain ⟨hstart, hstop, hsize, hmoved⟩ := of_searchFrom? (by omega) hm
      refine .cons hstart hstop (ih hsize ?_)
      -- Either the place moves on, or a match without characters ends what may be found here.
      by_cases hempty : m.stop = m.start
      · have hbeq : (m.stop == m.start) = true := by simpa using hempty
        cases advance with
        | false =>
          simp only [hbeq, if_true, Bool.false_eq_true, if_false] at hfuel ⊢
          omega
        | true =>
          have hne : m.start ≠ pos := fun heq => hmoved rfl heq hempty
          simp only [hbeq, if_true] at hfuel ⊢
          omega
      · have hbeq : (m.stop == m.start) = false := by simpa using hempty
        simp only [hbeq, Bool.false_eq_true, if_false]
        cases advance <;> simp at hfuel <;> omega

/-- **The matches of a text tile it**, for a pattern that matches at the end of the text. -/
theorem Regex.tiles_scan {r : Regex} (hend : (r.matchAt? text text.size false).isSome) :
    Tiles text.size 0 (r.scan text) :=
  tiles_scanFrom hend (Nat.zero_le _) (by simp)

/-- There is a match, be it the one at the end of the text. -/
theorem Regex.scan_ne_nil {r : Regex} (hend : (r.matchAt? text text.size false).isSome) :
    r.scan text ≠ [] := by
  intro h
  rw [scan, scanFrom, Nat.sub_zero] at h
  cases hm : r.searchFrom? text 0 false text.size with
  | some m => simp [hm] at h
  | none =>
    obtain ⟨hsize, h⟩ | ⟨_, h⟩ := matchAt?_of_searchFrom?_eq_none hm
    · rw [hsize, h] at hend
      cases hend
    · rw [Nat.zero_add] at h
      rw [h] at hend
      cases hend

/-! ## One place after the other -/

theorem Regex.searchFrom?_of_some {r : Regex} {pos : Nat} {advance : Bool} {m : Match}
    (h : r.matchAt? text pos advance = some m) (n : Nat) :
    r.searchFrom? text pos advance n = some m := by
  cases n with
  | zero => exact h
  | succ n => rw [searchFrom?, h]

/-- A match at the place comes first. -/
theorem Regex.scanFrom_of_some {r : Regex} {pos : Nat} {advance : Bool} {m : Match}
    (h : r.matchAt? text pos advance = some m) (fuel : Nat) :
    r.scanFrom text (fuel + 1) pos advance =
      m :: r.scanFrom text fuel m.stop (m.stop == m.start) := by
  rw [scanFrom, searchFrom?_of_some h]

/-- Without a match at the place the scan goes on at the next one. -/
theorem Regex.scanFrom_of_none {r : Regex} {pos : Nat} {advance : Bool} (hpos : pos < text.size)
    (h : r.matchAt? text pos advance = none) (fuel : Nat) :
    r.scanFrom text fuel pos advance = r.scanFrom text fuel (pos + 1) false := by
  cases fuel with
  | zero => rfl
  | succ fuel =>
    obtain ⟨n, hn⟩ : ∃ n, text.size - pos = n + 1 := ⟨text.size - (pos + 1), by omega⟩
    rw [scanFrom, scanFrom, hn, searchFrom?, h, show text.size - (pos + 1) = n by omega]

/-- Behind a match without characters at the end of the text nothing is found. -/
theorem Regex.scanFrom_size (r : Regex) (fuel : Nat) :
    r.scanFrom text fuel text.size true = [] := by
  have h : r.matchAt? text text.size true = none := by
    cases hm : r.matchAt? text text.size true with
    | none => rfl
    | some m =>
      obtain ⟨_, hle, hsize, hmoved⟩ := of_matchAt? (Nat.le_refl _) hm
      exact absurd (Nat.le_antisymm hsize hle) (hmoved rfl)
  cases fuel with
  | zero => rfl
  | succ fuel => rw [scanFrom, Nat.sub_self, searchFrom?, h]

/-- The scan of a pattern that matches nowhere in front of the end of the text. -/
theorem Regex.scan_of_end {r : Regex} {groups : List (Nat × Nat × Nat)}
    (hnone : ∀ pos < text.size, r.matchAt? text pos false = none)
    (hend : r.matchAt? text text.size false = some ⟨text.size, text.size, groups⟩) :
    r.scan text = [⟨text.size, text.size, groups⟩] := by
  have hfrom : ∀ k pos, pos + k = text.size →
      r.scanFrom text (2 * text.size + 2) pos false = [⟨text.size, text.size, groups⟩] := by
    intro k
    induction k with
    | zero =>
      rintro pos rfl
      rw [Nat.add_zero] at *
      rw [scanFrom_of_some hend, beq_self_eq_true, scanFrom_size]
    | succ k ih =>
      intro pos hpos
      rw [scanFrom_of_none (by omega) (hnone pos (by omega))]
      exact ih (pos + 1) (by omega)
  exact hfrom text.size 0 (Nat.zero_add _)

end Wording.Pattern
