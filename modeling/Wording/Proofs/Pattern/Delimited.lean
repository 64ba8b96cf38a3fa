import Wording.Pattern.Matcher
import Mathlib.Data.List.Basic

/-!
# Delimited spans

The patterns of the known markers have one form: an opening, in a group a character of one kind and
lazily some of another kind, and a closing. What such a pattern matches from a place can be said
without a search among ways to match: the group reaches up to the first closing that its characters
reach.

* `toList_lazy_loop`: the ways of a lazy loop over a set of characters
* `Regex.head?_delimited`: the preferred way of a delimited span
-/

namespace Wording.Pattern

variable {text : Array Char}

/-! ## Characters -/

/-- Whether `cs` stands in the text from `i` on. -/
def standsAt (text : Array Char) (cs : List Char) (i : Nat) : Bool :=
  cs.isPrefixOf (text.toList.drop i)

theorem drop_toList_of_getElem? {i : Nat} {c : Char} (h : text[i]? = some c) :
    text.toList.drop i = c :: text.toList.drop (i + 1) := by
  obtain ⟨hi, rfl⟩ := Array.getElem?_eq_some_iff.mp h
  rw [← Array.getElem_toList hi]
  exact List.drop_eq_getElem_cons hi

theorem drop_toList_of_none {i : Nat} (h : text[i]? = none) : text.toList.drop i = [] := by
  rw [Array.getElem?_eq_none_iff] at h
  exact List.drop_eq_nil_of_le h

theorem standsAt_nil (i : Nat) : standsAt text [] i = true := rfl

theorem standsAt_cons (c : Char) (cs : List Char) (i : Nat) :
    standsAt text (c :: cs) i = (text[i]? == some c && standsAt text cs (i + 1)) := by
  unfold standsAt
  cases h : text[i]? with
  | none => simp [drop_toList_of_none h]
  | some d =>
    rw [drop_toList_of_getElem? h, List.isPrefixOf_cons_cons]
    rw [show (some d == some c) = (c == d) from Bool.beq_comm]

theorem rangeContains_self (c d : Char) :
    rangeContains .exact c.toNat c.toNat d = (d == c) := by
  rw [Bool.eq_iff_iff, beq_iff_eq, ← Char.toNat_inj]
  simp only [rangeContains, Bool.or_false, Bool.and_eq_true, decide_eq_true_eq]
  omega

/-- A set of characters that are written out. -/
def listed (cs : List Char) (negated : Bool) : CharSet :=
  ⟨cs.map fun c => .range c.toNat c.toNat, negated, .exact⟩

theorem contains_listed (cs : List Char) (negated : Bool) (d : Char) :
    (listed cs negated).contains d = (cs.contains d != negated) := by
  have h : ((cs.map fun c => CharItem.range c.toNat c.toNat).any (·.contains .exact d)) =
      cs.contains d := by
    rw [List.any_map]
    induction cs with
    | nil => rfl
    | cons c cs ih =>
      rw [List.any_cons, ih, List.contains_cons]
      simp only [Function.comp_apply, CharItem.contains, rangeContains_self]
  rw [CharSet.contains, listed, h]

/-! ## Sequences -/

/-- The expression of one character. -/
def literal (c : Char) : Regex := .char (listed [c] false)

theorem toList_char (set : CharSet) (s : State) :
    ((Regex.char set).run text s).toList =
      if text[s.pos]?.any set.contains then [s.advance 1] else [] := by
  rw [Regex.run]
  cases h : text[s.pos]? with
  | none => simp
  | some c => cases hc : set.contains c <;> simp [hc]

theorem toList_ofList_cons (r : Regex) (rs : List Regex) (s : State) :
    ((Regex.ofList (r :: rs)).run text s).toList =
      (r.run text s).toList.flatMap fun t => ((Regex.ofList rs).run text t).toList := by
  cases rs with
  | nil => simp [Regex.ofList, Regex.run]
  | cons r' rs => rw [Regex.ofList.eq_3 _ _ (by simp), Regex.run, Search.toList_bind]

/-- Characters that are written out are matched where they stand. -/
theorem toList_literals (cs : List Char) (rs : List Regex) (s : State) :
    ((Regex.ofList (cs.map literal ++ rs)).run text s).toList =
      if standsAt text cs s.pos then ((Regex.ofList rs).run text (s.advance cs.length)).toList
      else [] := by
  induction cs generalizing s with
  | nil => simp [standsAt_nil, State.advance]
  | cons c cs ih =>
    rw [List.map_cons, List.cons_append, toList_ofList_cons, literal, toList_char, standsAt_cons]
    have hc : text[s.pos]?.any (listed [c] false).contains = (text[s.pos]? == some c) := by
      cases text[s.pos]? with
      | none => rfl
      | some d =>
        rw [Option.any_some, contains_listed, List.contains_cons, List.contains_nil,
          Bool.or_false, Bool.bne_false]
        rfl
    rw [hc]
    cases text[s.pos]? == some c with
    | false => rfl
    | true =>
      simp only [if_true, List.flatMap_cons, List.flatMap_nil, List.append_nil, Bool.true_and]
      rw [ih, show (s.advance 1).pos = s.pos + 1 from rfl]
      simp only [State.advance, List.length_cons, Nat.add_assoc, Nat.add_comm cs.length 1]

/-! ## Lazy loops -/

/-- How many characters of a set stand in a row from a place on. -/
def reach (set : CharSet) (text : Array Char) (pos : Nat) : Nat :=
  ((text.toList.drop pos).takeWhile set.contains).length

theorem reach_of_not {set : CharSet} {pos : Nat} (h : text[pos]?.any set.contains = false) :
    reach set text pos = 0 := by
  unfold reach
  cases hc : text[pos]? with
  | none => simp [drop_toList_of_none hc]
  | some c =>
    rw [hc, Option.any_some] at h
    rw [drop_toList_of_getElem? hc, List.takeWhile_cons, h]
    rfl

theorem reach_of {set : CharSet} {pos : Nat} (h : text[pos]?.any set.contains = true) :
    reach set text pos = reach set text (pos + 1) + 1 := by
  unfold reach
  cases hc : text[pos]? with
  | none => simp [hc] at h
  | some c =>
    rw [hc, Option.any_some] at h
    rw [drop_toList_of_getElem? hc, List.takeWhile_cons, h]
    rfl

theorem reach_le (set : CharSet) (pos : Nat) : reach set text pos ≤ text.size - pos := by
  unfold reach
  refine Nat.le_trans (List.takeWhile_sublist _).length_le (Nat.le_of_eq ?_)
  rw [List.length_drop, Array.length_toList]

/-- Rounds over one more character reach the same places. -/
theorem map_advance_range' (s : State) (a n : Nat) :
    (List.range' a n).map (s.advance 1).advance = (List.range' (a + 1) n).map s.advance := by
  rw [List.range'_eq_map_range, List.range'_eq_map_range, List.map_map, List.map_map]
  refine List.map_congr_left fun k _ => ?_
  simp only [Function.comp_apply, State.advance, State.mk.injEq, and_true]
  omega

theorem toList_rounds_lazy (set : CharSet) (least : Nat) {fuel count : Nat} {last : Option Nat}
    {s : State} (hlast : ∀ l ∈ last, l < s.pos) (hfuel : reach set text s.pos < fuel) :
    (rounds ((Regex.char set).run text) least none true fuel count last s).toList =
      (List.range' (least - count) (reach set text s.pos + 1 - (least - count))).map
        s.advance := by
  induction fuel generalizing count last s with
  | zero => omega
  | succ fuel ih =>
    -- What the rounds behind one more character reach, if there is one.
    have hmore : ∀ l, (∀ k ∈ l, k < s.pos + 1) →
        (((Regex.char set).run text s).bind fun t =>
          rounds ((Regex.char set).run text) least none true fuel (count + 1) l t).toList =
        (List.range' (least - (count + 1) + 1)
          (reach set text s.pos - (least - (count + 1)))).map s.advance := by
      intro l hl
      rw [Search.toList_bind, toList_char]
      cases hc : text[s.pos]?.any set.contains with
      | false => simp [reach_of_not hc]
      | true =>
        have hreach := reach_of hc
        simp only [if_true, List.flatMap_cons, List.flatMap_nil, List.append_nil]
        rw [ih (s := s.advance 1) hl (by simp only [State.advance]; omega), map_advance_range',
          show reach set text (s.advance 1).pos = reach set text s.pos - 1 by
            simp only [State.advance]; omega]
        congr 2
        omega
    have hmoves : (last != some s.pos) = true := by
      rw [bne_iff_ne]
      intro heq
      exact Nat.lt_irrefl _ (hlast s.pos (by rw [heq]; rfl))
    rw [rounds]
    by_cases hcount : count < least
    · rw [if_pos hcount, hmore last fun k hk => Nat.lt_succ_of_lt (hlast k hk)]
      rw [show least - (count + 1) + 1 = least - count by omega]
      congr 2
      omega
    · rw [if_neg hcount, if_pos (by simp [hmoves])]
      simp only [if_true, Search.toList_append, Search.toList_pure]
      rw [hmore (some s.pos) (by simp), show least - (count + 1) + 1 = 1 by omega,
        show least - count = 0 by omega, show least - (count + 1) = 0 by omega, Nat.sub_zero,
        Nat.sub_zero, List.range'_succ]
      simp [State.advance]

/-- **A lazy loop over a set of characters takes as few of them as it may, then one more each
time.** -/
theorem toList_lazy_loop (set : CharSet) (least : Nat) (s : State) :
    ((Regex.loop least none true (.char set)).run text s).toList =
      (List.range' least (reach set text s.pos + 1 - least)).map s.advance := by
  rw [Regex.run]
  have hle : reach set text s.pos ≤ text.size - s.pos := reach_le set s.pos
  exact toList_rounds_lazy set least (by simp) (by omega)

/-! ## Delimited spans -/

/-- An opening, a group with a character of `first` and lazily at least `least` of `rest`, and a
closing. -/
def delimited (opening : List Char) (group : Nat) (first : CharSet) (least : Nat)
    (rest : CharSet) (closing : List Char) : Regex :=
  .ofList (opening.map literal ++
    .capture group (.ofList [.char first, .loop least none true (.char rest)]) ::
      closing.map literal)

theorem flatMap_ite {α β : Type} (l : List α) (p : α → Bool) (f : α → β) :
    (l.flatMap fun a => if p a then [f a] else []) = (l.filter p).map f := by
  induction l with
  | nil => rfl
  | cons a l ih => cases h : p a <;> simp [h, ih]

/-- **The preferred way of a delimited span**: the first closing that the group can reach. -/
theorem head?_delimited (opening : List Char) (group : Nat) (first : CharSet) (least : Nat)
    (rest : CharSet) (closing : List Char) (pos : Nat) :
    ((delimited opening group first least rest closing).run text ⟨pos, []⟩).toList.head? =
      if standsAt text opening pos && text[pos + opening.length]?.any first.contains then
        ((List.range' (pos + opening.length + 1 + least)
          (reach rest text (pos + opening.length + 1) + 1 - least)).find?
            (standsAt text closing)).map fun j =>
              ⟨j + closing.length, [(group, pos + opening.length, j)]⟩
      else none := by
  have hclosing : ∀ s : State, ((Regex.ofList (closing.map literal)).run text s).toList =
      if standsAt text closing s.pos then [s.advance closing.length] else [] := by
    intro s
    rw [← List.append_nil (closing.map literal), toList_literals closing [] s]
    rfl
  rw [delimited, toList_literals]
  by_cases hopen : standsAt text opening pos = true
  case neg => simp [hopen]
  rw [if_pos hopen, hopen, Bool.true_and, toList_ofList_cons, Regex.run, Search.toList_bind,
    toList_ofList_cons, toList_char]
  have hat : ((⟨pos, []⟩ : State).advance opening.length).pos = pos + opening.length := rfl
  rw [hat]
  by_cases hfirst : text[pos + opening.length]?.any first.contains = true
  case neg => simp [hfirst]
  rw [if_pos hfirst, if_pos hfirst, List.flatMap_singleton,
    show Regex.ofList [.loop least none true (.char rest)] =
      .loop least none true (.char rest) from rfl, toList_lazy_loop]
  -- From here on the ways are numbered by how many characters of `rest` they take.
  simp only [hclosing, Search.toList_pure, List.flatMap_map, List.flatMap_singleton,
    List.flatMap_assoc, State.advance]
  rw [flatMap_ite, List.head?_map, List.head?_filter]
  rw [← List.map_add_range', List.find?_map, Option.map_map]
  rfl

end Wording.Pattern
