import Wording.Proofs.Pattern.Delimited

/-!
# What an expression takes

An expression of characters, loops over a set of characters and sequences has a language: from a
place it goes on behind every text of the language that stands there, and to no other place. Whether
its loops are lazy decides which way comes first and not which ways there are.

* `Takes`: an expression has a language
* `takes_loop`, `Takes.seq`: the languages of loops and sequences
* `isSome_matchAt?`: a match as a way
-/

namespace Wording.Pattern

namespace Regex

/-- From every place the ways of `r` take the texts with `P` that stand there. -/
def Takes (r : Regex) (P : List Char → Prop) : Prop :=
  ∀ (text : Array Char) (s t : State), t ∈ (r.run text s).toList ↔
    ∃ p, P p ∧ p <+: text.toList.drop s.pos ∧ t = s.advance p.length

theorem takes_char (set : CharSet) :
    (Regex.char set).Takes fun p => ∃ c, set.contains c = true ∧ p = [c] := by
  intro text s t
  rw [toList_char]
  cases hc : text[s.pos]? with
  | none =>
    rw [drop_toList_of_none hc]
    simp
  | some c =>
    rw [drop_toList_of_getElem? hc, Option.any_some]
    constructor
    · intro ht
      split at ht
      · next hset =>
        rw [List.mem_singleton] at ht
        exact ⟨[c], ⟨c, hset, rfl⟩, by simp, ht⟩
      · cases ht
    · rintro ⟨p, ⟨d, hset, rfl⟩, hstands, rfl⟩
      have hd : d = c := by simpa using hstands
      rw [if_pos (hd ▸ hset)]
      exact List.mem_singleton_self _

/-! ## Loops -/

/-- A greedy loop has the same ways as a lazy one. -/
theorem mem_rounds_lazy {body : State → Search State} {least : Nat} {most : Option Nat}
    {fuel count : Nat} {last : Option Nat} {s t : State} :
    t ∈ (rounds body least most false fuel count last s).toList ↔
      t ∈ (rounds body least most true fuel count last s).toList := by
  induction fuel generalizing count last s with
  | zero => rfl
  | succ fuel ih =>
    have hmore (last' : Option Nat) :
        t ∈ ((body s).bind fun u => rounds body least most false fuel (count + 1) last' u).toList ↔
          t ∈ ((body s).bind fun u =>
            rounds body least most true fuel (count + 1) last' u).toList := by
      rw [Search.toList_bind, Search.toList_bind, List.mem_flatMap, List.mem_flatMap]
      exact exists_congr fun u => and_congr_right fun _ => ih
    rw [rounds, rounds]
    split
    · exact hmore last
    · split
      · rw [if_neg Bool.false_ne_true, if_pos rfl, Search.toList_append, Search.toList_append,
          List.mem_append, List.mem_append, hmore, or_comm]
      · rfl

/-- So many characters of a set stand in a row. -/
theorem le_reach_iff {set : CharSet} {text : Array Char} {pos n : Nat} :
    n ≤ reach set text pos ↔
      ∃ p, p.length = n ∧ (∀ c ∈ p, set.contains c = true) ∧ p <+: text.toList.drop pos := by
  unfold reach
  constructor
  · intro h
    refine ⟨((text.toList.drop pos).takeWhile set.contains).take n, ?_, ?_, ?_⟩
    · rw [List.length_take, Nat.min_eq_left h]
    · exact fun c hc => List.all_eq_true.mp List.all_takeWhile c (List.mem_of_mem_take hc)
    · exact (List.take_prefix _ _).trans (List.takeWhile_prefix _)
  · rintro ⟨p, rfl, hall, rest, hrest⟩
    rw [← hrest, List.takeWhile_append_of_pos hall, List.length_append]
    exact Nat.le_add_right _ _

theorem takes_loop (set : CharSet) (least : Nat) (lazy : Bool) :
    (Regex.loop least none lazy (.char set)).Takes fun p =>
      least ≤ p.length ∧ ∀ c ∈ p, set.contains c = true := by
  intro text s t
  have hways : t ∈ ((Regex.loop least none lazy (.char set)).run text s).toList ↔
      t ∈ ((Regex.loop least none true (.char set)).run text s).toList := by
    cases lazy with
    | false => exact mem_rounds_lazy
    | true => rfl
  rw [hways, toList_lazy_loop, List.mem_map]
  simp only [List.mem_range'_1]
  constructor
  · rintro ⟨n, ⟨hleast, hn⟩, rfl⟩
    obtain ⟨p, rfl, hall, hstands⟩ := le_reach_iff.mp (show n ≤ reach set text s.pos by omega)
    exact ⟨p, ⟨hleast, hall⟩, hstands, rfl⟩
  · rintro ⟨p, ⟨hleast, hall⟩, hstands, rfl⟩
    have hreach := le_reach_iff.mpr ⟨p, rfl, hall, hstands⟩
    exact ⟨p.length, ⟨hleast, by omega⟩, rfl⟩

/-! ## Sequences -/

variable {r a b : Regex} {P Q : List Char → Prop}

theorem prefix_append_iff {α : Type} {p q l : List α} :
    p ++ q <+: l ↔ p <+: l ∧ q <+: l.drop p.length := by
  constructor
  · rintro ⟨rest, rfl⟩
    rw [List.append_assoc, List.drop_left]
    exact ⟨List.prefix_append _ _, List.prefix_append _ _⟩
  · rintro ⟨⟨rest, rfl⟩, hq⟩
    rw [List.drop_left] at hq
    exact (List.prefix_append_right_inj p).mpr hq

theorem Takes.seq (ha : a.Takes P) (hb : b.Takes Q) :
    (Regex.seq a b).Takes fun p => ∃ q, P q ∧ ∃ r, Q r ∧ p = q ++ r := by
  intro text s t
  rw [run, Search.toList_bind, List.mem_flatMap]
  simp only [ha text s, hb text]
  constructor
  · rintro ⟨_, ⟨q, hq, hfirst, rfl⟩, r, hr, hsecond, rfl⟩
    refine ⟨q ++ r, ⟨q, hq, r, hr, rfl⟩, ?_, ?_⟩
    · rw [State.advance, ← List.drop_drop] at hsecond
      exact prefix_append_iff.mpr ⟨hfirst, hsecond⟩
    · simp only [State.advance, List.length_append, Nat.add_assoc]
  · rintro ⟨_, ⟨q, hq, r, hr, rfl⟩, hstands, rfl⟩
    obtain ⟨hfirst, hsecond⟩ := prefix_append_iff.mp hstands
    refine ⟨_, ⟨q, hq, hfirst, rfl⟩, r, hr, ?_, ?_⟩
    · rwa [State.advance, ← List.drop_drop]
    · simp only [State.advance, List.length_append, Nat.add_assoc]

theorem Takes.congr (h : r.Takes P) (hpq : ∀ p, P p ↔ Q p) : r.Takes Q := by
  intro text s t
  simp only [h text s t, hpq]

/-- The ways of the rest go on from each way of what stands before it. -/
theorem toList_ofList_append (rs rs' : List Regex) (text : Array Char) (s : State) :
    ((ofList (rs ++ rs')).run text s).toList =
      ((ofList rs).run text s).toList.flatMap fun t => ((ofList rs').run text t).toList := by
  induction rs generalizing s with
  | nil => rw [List.nil_append, ofList, run, Search.toList_pure, List.flatMap_singleton]
  | cons r rs ih =>
    rw [List.cons_append, toList_ofList_cons, toList_ofList_cons, List.flatMap_assoc]
    simp only [ih]

theorem toList_anchor (a : Anchor) (text : Array Char) (s : State) :
    ((Regex.anchor a).run text s).toList = if a.holds text s.pos then [s] else [] := by
  rw [run]
  split <;> rfl

/-! ## Matches -/

/-- There is a match where there is a way. -/
theorem isSome_matchAt? (r : Regex) (text : Array Char) (pos : Nat) :
    (r.matchAt? text pos false).isSome ↔ ∃ t, t ∈ (r.run text ⟨pos, []⟩).toList := by
  rw [matchAt?, Option.isSome_map, Search.find?_eq_find?, List.find?_isSome]
  simp

end Regex

end Wording.Pattern
