import Wording.Proofs.Pattern.Beside

/-!
# Patterns within a pattern

A pattern is read from its written form, and other patterns may stand in that, each in a group that
only holds it together. The larger pattern takes each of them for the same expression, with the
numbers of its groups moved behind those of the groups before it: `of_reads_enclosed`.

What stands before a pattern is known by the stage that reading has come to: so many groups, all of
them opened, and no flags that matter.
-/

namespace Wording.Pattern

open Wording.Pattern.Reader

/-! ## Written forms -/

theorem Glyph.ofChars_cons {c : Char} (h : c ≠ '\\') (cs : List Char) :
    ofChars (c :: cs) = .plain c :: ofChars cs := by
  rw [ofChars]
  · exact fun hc => absurd hc h
  · exact fun _ _ hc => absurd hc h

/-- Written forms one behind the other, if the first one does not end with a lone backslash. -/
theorem Glyph.ofChars_append {cs : List Char} (h : .dangling ∉ ofChars cs) (ds : List Char) :
    ofChars (cs ++ ds) = ofChars cs ++ ofChars ds := by
  induction cs using ofChars.induct with
  | case1 => rfl
  | case2 => exact absurd List.mem_cons_self h
  | case3 c cs ih =>
    rw [ofChars, List.mem_cons, not_or] at h
    rw [List.cons_append, List.cons_append, ofChars, ofChars, ih h.2, List.cons_append]
  | case4 c cs hlast hmore ih =>
    have hc : c ≠ '\\' := by
      rintro rfl
      cases cs with
      | nil => exact hlast rfl rfl
      | cons d ds => exact hmore d ds rfl rfl
    rw [ofChars_cons hc, List.mem_cons, not_or] at h
    rw [List.cons_append, ofChars_cons hc, ofChars_cons hc, ih h.2, List.cons_append]

/-! ## Whole patterns -/

/-- Where reading a pattern starts. -/
def ReaderState.start (source : String) (flags : Flags) : ReaderState :=
  ⟨Glyph.ofChars source.toList, 0, [], [], [], none, flags⟩

/-- A run that reads a pattern. -/
structure Compiled.Run (p : Compiled) (n : Nat) (flags : Flags) (s : ReaderState) : Prop where
  reads : Reads (alternatives n flags true) (.start p.source flags) p.regex s
  rest : s.rest = []
  groupCount : s.groupCount = p.groupCount
  numbered : s.numbered = p.numbered
  flags : s.flags.completed = p.flags

theorem Compiled.source_of_read {source : String} {flags : Flags} {p : Compiled}
    (h : Compiled.read source flags = .ok p) : p.source = source := by
  unfold Compiled.read at h
  dsimp only at h
  split at h
  · cases h
    rfl
  · cases h

/-- The units that a written form is read with. -/
def units (glyphs : List Glyph) : Nat := 4 * glyphs.length + 8

/-- How a whole pattern is read: as alternatives, of which nothing is left and which refer to no
group by number that is not there. -/
theorem reads_whole {n : Nat} {r : Regex} {s s' : ReaderState} :
    Reads (whole n) s r s' ↔ Reads (alternatives n s.flags true) s r s' ∧
      ¬ (s'.flags.ascii = true ∧ s'.flags.unicode = true) ∧ s'.rest = [] ∧
      ∀ k ∈ s'.numbered, k ≤ s'.groupCount := by
  have hany : s'.numbered.any (· > s'.groupCount) = true ↔ ¬ ∀ k ∈ s'.numbered, k ≤ s'.groupCount := by
    simp
  constructor
  · intro h
    obtain ⟨r', u, hr, h⟩ := reads_bind.mp (reads_get_bind.mp h)
    have h := reads_get_bind.mp h
    by_cases hclasses : u.flags.ascii = true ∧ u.flags.unicode = true
    · rw [if_pos hclasses] at h
      exact absurd h nofun
    · rw [if_neg hclasses] at h
      obtain ⟨hempty, h⟩ := reads_demand.mp h
      split at h
      · exact absurd h nofun
      · rename_i hnumbered
        obtain ⟨rfl, rfl⟩ := reads_pure.mp h
        exact ⟨hr, hclasses, List.isEmpty_iff.mp hempty, not_not.mp (mt hany.mpr hnumbered)⟩
  · rintro ⟨hr, hclasses, hrest, hnumbered⟩
    refine reads_get_bind.mpr (reads_bind.mpr ⟨r, s', hr, reads_get_bind.mpr ?_⟩)
    rw [if_neg hclasses]
    refine reads_demand.mpr ⟨List.isEmpty_iff.mpr hrest, ?_⟩
    rw [if_neg (mt hany.mp (not_not.mpr hnumbered))]
    exact reads_pure.mpr ⟨rfl, rfl⟩

/-- Reading a pattern is a run over its written form, with as many units as it takes. -/
theorem Compiled.exists_whole {source : String} {flags : Flags} {p : Compiled}
    (h : Compiled.read source flags = .ok p) : ∃ s,
      Reads (whole (units (Glyph.ofChars source.toList))) (.start source flags) p.regex s ∧
        p = ⟨source, s.flags.completed, s.groupCount, s.numbered, p.regex⟩ := by
  unfold Compiled.read at h
  dsimp only at h
  split at h
  · rename_i r s hrun
    cases h
    exact ⟨s, hrun, rfl⟩
  · cases h

/-- What reading a pattern as a whole says of it. -/
theorem Compiled.run_of_reads {source : String} {flags : Flags} {r : Regex} {n : Nat}
    {s : ReaderState} (h : Reads (whole n) (.start source flags) r s) :
    Run ⟨source, s.flags.completed, s.groupCount, s.numbered, r⟩ n flags s ∧
      ∀ k ∈ s.numbered, k ≤ s.groupCount := by
  obtain ⟨hr, -, hrest, hnumbered⟩ := reads_whole.mp h
  exact ⟨⟨hr, hrest, rfl, rfl, rfl⟩, hnumbered⟩

theorem Compiled.exists_run {source : String} {flags : Flags} {p : Compiled}
    (h : Compiled.read source flags = .ok p) : ∃ n s, p.Run n flags s := by
  obtain ⟨s, hs, hp⟩ := exists_whole h
  rw [hp]
  exact ⟨_, s, (run_of_reads hs).1⟩

theorem Flags.Alike.of_union {f g : Flags} (h : (f.union g).Alike {}) : f.Alike {} := by
  obtain ⟨h1, h2, h3, h4, h5⟩ := h
  simp only [union, Bool.or_eq_false_iff] at h1 h2 h3 h4 h5
  exact ⟨h1.1, h2.1, h3.1, h4.1, h5.1⟩

namespace Compiled.Run

variable {p : Compiled} {n : Nat} {flags : Flags} {s : ReaderState}

theorem later (h : p.Run n flags s) : Later (.start p.source flags) s :=
  (onward_alternatives n flags true _ _ _ h.reads).toLater

theorem not_mem_dangling (h : p.Run n flags s) : .dangling ∉ Glyph.ofChars p.source.toList := by
  obtain ⟨used, hused, hno⟩ := h.later.taken
  rw [h.rest, List.append_nil] at hused
  rwa [← hused] at hno

/-- A pattern that has come to no flags that matter has been read with none. -/
theorem alike (h : p.Run n flags s) (hp : p.flags.Alike {}) : flags.Alike {} := by
  obtain ⟨f, hf⟩ := h.later.flags
  have hs : s.flags.Alike {} := by
    rw [← h.flags] at hp
    exact ⟨hp.1, hp.2, hp.3, hp.4, hp.5⟩
  rw [hf] at hs
  exact hs.of_union

end Compiled.Run

/-! ## Steps of a larger pattern -/

/-- `f` reads something with `P`, or is refused as malformed, for which `Excuse` is the only reason.
-/
inductive Tries {α : Type} (Excuse : Prop) (f : Reader α) (s : ReaderState)
    (P : α → ReaderState → Prop) : Prop where
  | refused (h : Excuse) (hf : f.run s = .error .malformed)
  | reads {a : α} {s' : ReaderState} (hf : Reads f s a s') (h : P a s')

theorem Tries.congr {α : Type} {Excuse : Prop} {f g : Reader α} {s t : ReaderState}
    {P : α → ReaderState → Prop} (h : f.run s = g.run t) (hg : Tries Excuse g t P) :
    Tries Excuse f s P := by
  cases hg with
  | refused he hg => exact .refused he (h.trans hg)
  | reads hg hp => exact .reads (h.trans hg) hp

theorem Tries.mono {α : Type} {Excuse Excuse' : Prop} {f : Reader α} {s : ReaderState}
    {P Q : α → ReaderState → Prop} (h : Tries Excuse f s P) (hE : Excuse → Excuse')
    (hP : ∀ a s', P a s' → Q a s') : Tries Excuse' f s Q := by
  cases h with
  | refused he hf => exact .refused (hE he) hf
  | reads hf hp => exact .reads hf (hP _ _ hp)

theorem Tries.bind {α β : Type} {Excuse : Prop} {f : Reader α} {g : α → Reader β} {s : ReaderState}
    {P : α → ReaderState → Prop} {Q : β → ReaderState → Prop} (hf : Tries Excuse f s P)
    (hg : ∀ a s', Reads f s a s' → P a s' → Tries Excuse (g a) s' Q) :
    Tries Excuse (f >>= g) s Q := by
  cases hf with
  | refused h hf => exact .refused h (run_bind_of_error hf)
  | @reads a s' hf h =>
    cases hg a s' hf h with
    | refused h hg => exact .refused h ((run_bind_of_reads hf).trans hg)
    | reads hg h => exact .reads ((run_bind_of_reads hf).trans hg) h


section

variable {n : Nat} {flags : Flags} {top : Bool} {acc : List Piece} {t u : ReaderState} {r : Regex}

/-- At a bar or at the end, a sequence is what has been read of it. -/
theorem run_sequence_stop (ht : ∀ g ∈ t.rest.head?, g = .plain '|') :
    (sequence (n + 1) flags top acc).run t = .ok (Piece.joined acc, t) := by
  have hpeek : Reads peek t t.rest.head? t :=
    reads_peek.mpr ⟨rfl, (fun h => nomatch ht _ h), rfl⟩
  refine (run_bind_of_reads hpeek).trans ?_
  split
  · rfl
  · rw [if_pos (.inl (ht _ ‹_›))]
    rfl

/-- One more glyph of a sequence. -/
theorem run_sequence_cons {g : Glyph} {gs : List Glyph} (ht : t.rest = g :: gs)
    (hg : ¬ (g = .plain '|' ∨ g = .plain ')')) (hne : g ≠ .dangling) :
    (sequence (n + 1) flags top acc).run t =
      (take (group n) flags top acc g >>= fun taken => sequence n taken.2 top taken.1).run
        (t.withRest gs) := by
  have hpeek : Reads peek t (some g) t :=
    reads_peek.mpr ⟨by rw [ht, List.head?_cons], by simpa using hne, rfl⟩
  refine (run_bind_of_reads hpeek).trans ?_
  dsimp only
  rw [if_neg hg]
  exact run_bind_of_reads (reads_next.mpr ⟨ht, hne, rfl⟩)

/-- One more alternative. -/
theorem run_moreAlternatives {gs : List Glyph} (ht : t.rest = .plain '|' :: gs) :
    (moreAlternatives (n + 1) flags).run t =
      (do
        let r ← sequence n flags false []
        return r :: (← moreAlternatives n flags)).run (t.withRest gs) := by
  refine run_bind_of_reads (a := true) (reads_accept.mpr ⟨?_, ?_⟩)
  · rw [ht]
    exact nofun
  · rw [ht, List.head?_cons, if_pos rfl]
    exact ⟨rfl, rfl⟩

/-- At the end there are no more alternatives. -/
theorem run_moreAlternatives_nil (ht : t.rest = []) :
    (moreAlternatives (n + 1) flags).run t = .ok ([], t) := by
  refine run_bind_of_reads (a := false) (t := t) (reads_accept.mpr ⟨?_, ?_⟩)
  · rw [ht]
    exact nofun
  · rw [ht, List.head?_nil, if_neg nofun]
    exact ⟨rfl, rfl⟩

/-- The first alternative of a whole pattern, and the others. -/
theorem alternatives_top : alternatives (n + 1) flags true = (do
    let first ← sequence n flags true []
    let s ← get
    return Regex.alternatives (first :: (← moreAlternatives n s.flags))) := rfl

/-- The end of the text as a piece. -/
theorem take_textEnd {group : Flags → Reader GroupResult} :
    take group flags top acc (.escaped 'Z') = pure (.anchor (.anchor .textEnd) :: acc, flags) :=
  rfl

theorem take_group {group : Flags → Reader GroupResult} :
    take group flags top acc (.plain '(') = group flags >>= place flags top acc := by
  simp [take, isVerboseBlank, Text.isAsciiBlank]

/-- A group that only holds its inside together. -/
theorem run_group {gs : List Glyph} (ht : t.rest = .plain '?' :: .plain ':' :: gs) :
    (group (n + 1) flags).run t = (plainGroup n flags {} {}).run (t.withRest gs) := by
  have hmark : Reads (accept '?') t true (t.withRest (.plain ':' :: gs)) := by
    refine reads_accept.mpr ⟨?_, ?_⟩
    · rw [ht]
      exact nofun
    · rw [ht, List.head?_cons, if_pos rfl]
      exact ⟨rfl, rfl⟩
  have hcolon : Reads next (t.withRest (.plain ':' :: gs)) (.plain ':') (t.withRest gs) :=
    reads_next.mpr ⟨rfl, nofun, rfl⟩
  refine (run_bind_of_reads hmark).trans ?_
  rw [if_pos rfl]
  refine (run_bind_of_reads hcolon).trans ?_
  dsimp only
  rw [if_neg (by decide), if_pos rfl]

/-- One more glyph of a sequence that has been read. -/
theorem of_reads_sequence_cons {g : Glyph} {gs : List Glyph} (ht : t.rest = g :: gs)
    (hg : ¬ (g = .plain '|' ∨ g = .plain ')')) (hne : g ≠ .dangling)
    (h : Reads (sequence n flags top acc) t r u) :
    ∃ k acc' flags' v, Reads (take (group k) flags top acc g) (t.withRest gs) (acc', flags') v ∧
      Reads (sequence k flags' top acc') v r u := by
  cases n with
  | zero => exact absurd h not_reads_fail
  | succ n =>
    rw [Reads, run_sequence_cons ht hg hne] at h
    obtain ⟨⟨acc', flags'⟩, v, htake, hseq⟩ := reads_bind.mp h
    exact ⟨n, acc', flags', v, htake, hseq⟩

theorem of_reads_sequence_stop (ht : ∀ g ∈ t.rest.head?, g = .plain '|')
    (h : Reads (sequence n flags top acc) t r u) : r = Piece.joined acc ∧ u = t := by
  cases n with
  | zero => exact absurd h not_reads_fail
  | succ n =>
    rw [Reads, run_sequence_stop ht] at h
    exact ok_pair_iff.mp h

theorem of_reads_moreAlternatives {gs : List Glyph} {rs : List Regex}
    (ht : t.rest = .plain '|' :: gs) (h : Reads (moreAlternatives n flags) t rs u) :
    ∃ k v first more, Reads (sequence k flags false []) (t.withRest gs) first v ∧
      Reads (moreAlternatives k flags) v more u ∧ rs = first :: more := by
  cases n with
  | zero => exact absurd h not_reads_fail
  | succ n =>
    rw [Reads, run_moreAlternatives ht] at h
    obtain ⟨first, v, hfirst, hrest⟩ := reads_bind.mp h
    obtain ⟨more, _, hmore, hpure⟩ := reads_bind.mp hrest
    obtain ⟨rfl, rfl⟩ := reads_pure.mp hpure
    exact ⟨n, v, first, more, hfirst, hmore, rfl⟩

theorem of_reads_moreAlternatives_nil {rs : List Regex} (ht : t.rest = [])
    (h : Reads (moreAlternatives n flags) t rs u) : rs = [] ∧ u = t := by
  cases n with
  | zero => exact absurd h not_reads_fail
  | succ n =>
    rw [Reads, run_moreAlternatives_nil ht] at h
    exact ok_pair_iff.mp h

theorem of_reads_alternatives_top (h : Reads (alternatives n flags true) t r u) :
    ∃ k v first more, Reads (sequence k flags true []) t first v ∧
      Reads (moreAlternatives k v.flags) v more u ∧ r = Regex.alternatives (first :: more) := by
  cases n with
  | zero => exact absurd h not_reads_fail
  | succ n =>
    rw [alternatives_top] at h
    obtain ⟨first, v, hfirst, hrest⟩ := reads_bind.mp h
    obtain ⟨more, _, hmore, hpure⟩ := reads_bind.mp (reads_get_bind.mp hrest)
    obtain ⟨rfl, rfl⟩ := reads_pure.mp hpure
    exact ⟨n, v, first, more, hfirst, hmore, rfl⟩

theorem of_reads_take_group {gs : List Glyph} {acc' : List Piece} {flags' : Flags}
    (ht : t.rest = .plain '?' :: .plain ':' :: gs)
    (h : Reads (take (group n) flags top acc (.plain '(')) t (acc', flags') u) :
    ∃ k r v, Reads (alternatives k (flags.within {} {}) false) (t.withRest gs) r v ∧
      v.rest = .plain ')' :: u.rest ∧ u = v.withRest u.rest ∧ acc' = .other r :: acc ∧
      flags' = flags := by
  rw [take_group] at h
  obtain ⟨result, v, hgroup, hplace⟩ := reads_bind.mp h
  cases n with
  | zero => exact absurd hgroup not_reads_fail
  | succ n =>
    rw [Reads, run_group ht] at hgroup
    cases n with
    | zero => exact absurd hgroup not_reads_fail
    | succ n =>
      obtain ⟨r, w, hr, hend⟩ := reads_bind.mp hgroup
      obtain ⟨_, x, hexpect, hpure⟩ := reads_bind.mp hend
      obtain ⟨rfl, rfl⟩ := reads_pure.mp hpure
      obtain ⟨hp, rfl⟩ := reads_pure.mp hplace
      obtain ⟨hacc, hflags⟩ := Prod.mk.inj hp
      obtain ⟨hrest, hx⟩ := reads_expect.mp hexpect
      exact ⟨n, r, w, hr, hrest, hx, hacc, hflags⟩

end

/-! ## A pattern in a group -/

/-- The glyphs of a pattern in a group that only holds it together. -/
def enclosed (source : String) (more : List Glyph) : List Glyph :=
  .plain '(' :: .plain '?' :: .plain ':' ::
    (Glyph.ofChars source.toList ++ .plain ')' :: more)

/-- How far reading has come: `k` groups, and what is left. -/
structure Stage (k : Nat) (left : List Glyph) (t : ReaderState) : Prop where
  rest : t.rest = left
  groupCount : t.groupCount = k
  closed : ClosedWithin t
  behind : t.behind = none
  flags : t.flags.Alike {}

theorem Stage.withRest {k : Nat} {left : List Glyph} {t : ReaderState} (h : Stage k left t)
    (left' : List Glyph) : Stage k left' (t.withRest left') :=
  ⟨rfl, h.groupCount, h.closed, h.behind, h.flags⟩

/-- `r` is the expression of `p` behind `k` groups. References by number that `p` has go elsewhere
unless `k` is zero. -/
structure Placed (k : Nat) (p : Compiled) (r : Regex) : Prop where
  captures : ∀ n ∈ p.regex.captures, 1 ≤ n ∧ n ≤ p.groupCount
  eq_renumber : k = 0 ∨ p.numbered = [] → r = p.regex.renumber (shift k)

/-- Before a pattern no group is closed that would have one of its numbers. -/
theorem find?_closed_shift {t : ReaderState} (h : ClosedWithin t) (n : Nat) :
    t.closed.find? (·.1 == shift t.groupCount n) = none := by
  rw [List.find?_eq_none]
  intro c hc heq
  obtain ⟨hpos, hle⟩ := h c hc
  rw [beq_iff_eq] at heq
  have := shift_eq_zero_or_lt t.groupCount n
  omega

section

variable {p : Compiled} {n m k : Nat} {flags outer : Flags} {top : Bool} {more : List Glyph}
  {s t u : ReaderState} {r : Regex}

/-- The inside of the group stands beside the pattern alone: both are still to be read as a whole.
Only a verbose pattern may overrun. -/
theorem Compiled.Run.meets (hrun : p.Run n flags s) (hp : p.flags.Alike {})
    (houter : outer.Alike {}) (ht : Stage k (enclosed p.source (.plain '|' :: more)) t)
    (lenient : Prop) (hm : lenient ∨ n ≤ m) :
    Surroundings.Meets ⟨t, .plain '|' :: more, s, lenient⟩ False
      (Surroundings.Same ⟨t, .plain '|' :: more, s, lenient⟩)
      (alternatives m (outer.within {} {}) false)
      (t.withRest (Glyph.ofChars p.source.toList ++ .plain ')' :: .plain '|' :: more)) p.regex s := by
  let o : Surroundings := ⟨t, .plain '|' :: more, s, lenient⟩
  have hbeside : o.Beside (.start p.source flags)
      (t.withRest (Glyph.ofChars p.source.toList ++ .plain ')' :: .plain '|' :: more)) :=
    { rest := rfl
      groupCount := (Nat.zero_add _).symm
      names := rfl
      numbered := rfl
      closed := fun _ n => congrArg (Option.map _) (find?_closed_shift ht.closed n)
      behind := ht.behind
      flags := ⟨hrun.alike hp, ht.flags⟩ }
  have hflags : flags.Alike (outer.within {} {}) :=
    (hrun.alike hp).trans (houter.within {} {}).symm
  have hm : o.Enough n m := hm
  refine (Surroundings.alongside_alternatives n m hm hflags (fun _ => hrun.alike hp) _ _ _ _
    hrun.reads hbeside (.refl s)).mono (fun hverbose => ?_) fun _ h => h
  rw [(hrun.alike hp).verbose] at hverbose
  cases hverbose

/-- **A pattern in a group of a larger one is read as on its own**, with the numbers of its groups
behind those of the groups before it. -/
theorem of_reads_enclosed (hrun : p.Run n flags s) (hp : p.flags.Alike {})
    (houter : outer.Alike {}) (ht : Stage k (enclosed p.source (.plain '|' :: more)) t)
    (h : Reads (sequence m outer top []) t r u) :
    Placed k p r ∧ Stage (k + p.groupCount) (.plain '|' :: more) u := by
  have honward : Level t u := onward_sequence m outer top [] t r u h
  obtain ⟨m, acc, outer', v, htake, hseq⟩ := of_reads_sequence_cons ht.rest (by simp) nofun h
  obtain ⟨m', r', w, hr', hclose, hv, hacc, houter'⟩ := of_reads_take_group rfl htake
  cases hrun.meets hp houter ht True (m := m') (.inl trivial) with
  | overrun h => exact h.elim
  | refused _ hg => exact nomatch hg.symm.trans hr'
  | reads hg hsame hw =>
    obtain ⟨rfl, rfl⟩ := hg.unique hr'
    -- Alone nothing is left, so the group ends here and a bar follows.
    have hleft : v.rest = .plain '|' :: more := by
      have := hw.rest
      rw [hclose, hrun.rest, List.nil_append, List.cons.injEq] at this
      exact this.2
    obtain ⟨rfl, hu⟩ := of_reads_sequence_stop (by simp [hleft]) hseq
    rw [hu] at honward ⊢
    have hcount : v.groupCount = k + p.groupCount := by
      rw [hv]
      show w.groupCount = k + p.groupCount
      rw [hw.groupCount, hrun.groupCount, Surroundings.offset, ht.groupCount, Nat.add_comm]
    have hnoflags : v.flags.Alike {} := by
      rw [hv]
      exact hw.flags.2
    refine ⟨⟨?_, fun hname => ?_⟩, ⟨hleft, hcount, honward.closed ht.closed,
      honward.behind.trans ht.behind, hnoflags⟩⟩
    · rw [← hrun.groupCount]
      exact hsame.captures
    · rw [← hrun.numbered, ← ht.groupCount] at hname
      rw [hacc, ← ht.groupCount]
      exact hsame.eq_renumber hname

end

end Wording.Pattern
