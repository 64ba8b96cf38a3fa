import Wording.Proofs.Pattern.Reading

/-!
# Reading goes on

What reading does to the state, whatever is read: glyphs are taken from the front and none of them
is a lone backslash, groups are added and never forgotten, and so are their names, flags and
references by number. A look behind that has been entered is left again.

`onward_alternatives` says it of a whole expression; the readers that call each other do so with
fewer units, and the proof follows them.
-/

namespace Wording.Pattern

theorem Flags.union_empty (f : Flags) : f.union {} = f := by
  cases f
  simp [union]

theorem Flags.union_assoc (f g h : Flags) : (f.union g).union h = f.union (g.union h) := by
  simp only [union, Bool.or_assoc]

namespace Reader

variable {α β : Type}

/-- The closed groups are groups that have been opened. -/
def ClosedWithin (s : ReaderState) : Prop := ∀ c ∈ s.closed, 1 ≤ c.1 ∧ c.1 ≤ s.groupCount

/-- A state that reading may come to from another one. -/
structure Later (s s' : ReaderState) : Prop where
  taken : ∃ used, s.rest = used ++ s'.rest ∧ .dangling ∉ used
  groupCount_le : s.groupCount ≤ s'.groupCount
  names : s.names ⊆ s'.names
  numbered : ∀ n ∈ s.numbered, n ∈ s'.numbered
  closed : ClosedWithin s → ClosedWithin s'
  flags : ∃ f, s'.flags = s.flags.union f

theorem Later.refl (s : ReaderState) : Later s s where
  taken := ⟨[], rfl, List.not_mem_nil⟩
  groupCount_le := Nat.le_refl _
  names := List.Subset.refl _
  numbered := fun _ h => h
  closed := id
  flags := ⟨{}, (Flags.union_empty _).symm⟩

theorem Later.trans {s t u : ReaderState} (h : Later s t) (h' : Later t u) : Later s u where
  taken := by
    obtain ⟨used, hused, hno⟩ := h.taken
    obtain ⟨used', hused', hno'⟩ := h'.taken
    refine ⟨used ++ used', by rw [hused, hused', List.append_assoc], ?_⟩
    rw [List.mem_append, not_or]
    exact ⟨hno, hno'⟩
  groupCount_le := Nat.le_trans h.groupCount_le h'.groupCount_le
  names := List.Subset.trans h.names h'.names
  numbered := fun n hn => h'.numbered n (h.numbered n hn)
  closed := h'.closed ∘ h.closed
  flags := by
    obtain ⟨f, hf⟩ := h.flags
    obtain ⟨g, hg⟩ := h'.flags
    exact ⟨f.union g, by rw [hg, hf, Flags.union_assoc]⟩

/-- Where a look behind is entered or left. -/
theorem later_behind (s : ReaderState) (b : Option Nat) : Later s { s with behind := b } :=
  ⟨⟨[], rfl, List.not_mem_nil⟩, Nat.le_refl _, List.Subset.refl _, fun _ h => h, id,
    ⟨{}, (Flags.union_empty _).symm⟩⟩

/-- Nothing is left once nothing was left. -/
theorem Later.rest_eq_nil {s s' : ReaderState} (h : Later s s') (hs : s.rest = []) :
    s'.rest = [] := by
  obtain ⟨used, hused, _⟩ := h.taken
  rw [hs] at hused
  exact (List.append_eq_nil_iff.mp hused.symm).2

/-- A state that reading may come to from another one at the same depth. -/
structure Level (s s' : ReaderState) : Prop extends Later s s' where
  behind : s'.behind = s.behind

theorem Level.refl (s : ReaderState) : Level s s := ⟨.refl s, rfl⟩

theorem Level.trans {s t u : ReaderState} (h : Level s t) (h' : Level t u) : Level s u :=
  ⟨h.toLater.trans h'.toLater, h'.behind.trans h.behind⟩

theorem Level.of_moves {s s' : ReaderState} (h : Moves s s') : Level s s' := by
  obtain ⟨htaken, hsame⟩ := h
  rw [hsame]
  exact ⟨⟨htaken, Nat.le_refl _, List.Subset.refl _, fun _ h => h, id,
    ⟨{}, (Flags.union_empty _).symm⟩⟩, rfl⟩

/-- `f` goes on from every state. -/
def Onward (f : Reader α) : Prop := ∀ s a s', Reads f s a s' → Level s s'

theorem onward_pure (a : α) : Onward (pure a) := by
  intro s b s' h
  obtain ⟨_, rfl⟩ := reads_pure.mp h
  exact .refl _

theorem onward_fail : Onward (fail : Reader α) := fun _ _ _ h => absurd h not_reads_fail

theorem Onward.bind {f : Reader α} {g : α → Reader β} (hf : Onward f) (hg : ∀ a, Onward (g a)) :
    Onward (f >>= g) := by
  intro s b s'' h
  obtain ⟨a, s', ha, hb⟩ := reads_bind.mp h
  exact (hf s a s' ha).trans (hg a s' b s'' hb)

theorem Onward.of_local {f f' : Reader α} (h : Local [] f f') : Onward f :=
  fun s a s' hf => .of_moves (h s a s' hf).1

theorem onward_ite {p : Prop} [Decidable p] {f g : Reader α} (hf : p → Onward f)
    (hg : ¬ p → Onward g) : Onward (if p then f else g) := by
  split
  · exact hf ‹_›
  · exact hg ‹_›

theorem onward_modify {m : ReaderState → ReaderState} (h : ∀ s, Level s (m s)) :
    Onward (modify m : Reader PUnit) := by
  intro s u s' hm
  rw [reads_modify.mp hm]
  exact h s

theorem onward_get : Onward (get : Reader ReaderState) := by
  intro s t s' h
  obtain ⟨_, rfl⟩ := reads_get.mp h
  exact .refl _

theorem onward_peek : Onward peek := by
  intro s o s' h
  obtain ⟨_, _, rfl⟩ := reads_peek.mp h
  exact .refl _

theorem onward_next : Onward next := .of_local local_next

theorem onward_accept (c : Char) : Onward (accept c) := by
  intro s b s' h
  obtain ⟨hne, h⟩ := reads_accept.mp h
  split at h
  · rename_i hhead
    obtain ⟨r, hr⟩ := List.head?_eq_some_iff.mp hhead
    obtain ⟨_, rfl⟩ := h
    rw [hr]
    exact .of_moves (Moves.of_cons (g := .plain c) hr nofun rfl)
  · rw [h.2]
    exact .refl _

theorem onward_expect : Onward (expect ')') := .of_local local_expect

/-- An expression up to the end of its group. -/
theorem Onward.then_expect {f : Reader α} (hf : Onward f) (g : α → β) :
    Onward (do
      let a ← f
      expect ')'
      return g a) :=
  hf.bind fun _ => onward_expect.bind fun _ => onward_pure _

theorem onward_elseBranch {f : Reader Regex} (hf : Onward f) : Onward (elseBranch f) :=
  (onward_accept '|').bind fun _ => onward_ite (fun _ => hf) fun _ => onward_pure _

/-! ## References -/

theorem onward_noteNumber (n : Nat) : Onward (noteNumber n) :=
  onward_modify fun _ => ⟨⟨⟨[], rfl, List.not_mem_nil⟩, Nat.le_refl _, List.Subset.refl _,
    fun _ h => List.mem_cons_of_mem _ h, id, ⟨{}, (Flags.union_empty _).symm⟩⟩, rfl⟩

theorem onward_checkBehind (n : Nat) : Onward (checkBehind n) := by
  intro s u s' h
  rw [(reads_checkBehind.mp h).2]
  exact .refl _

theorem onward_checkReference (n : Nat) : Onward (checkReference n) := by
  intro s u s' h
  rw [(reads_checkReference.mp h).2.2]
  exact .refl _

theorem onward_groupNamed (name : String) : Onward (groupNamed name) := by
  intro s n s' h
  rw [(reads_groupNamed.mp h).2]
  exact .refl _

theorem onward_fixedWidth (r : Regex) : Onward (fixedWidth r) := by
  intro s n s' h
  rw [(reads_fixedWidth.mp h).2.2]
  exact .refl _

theorem onward_reference (flags : Flags) (n : Nat) : Onward (reference flags n) :=
  (onward_checkReference n).bind fun _ => (onward_noteNumber n).bind fun _ => onward_pure _

theorem onward_octalCharacter (flags : Flags) (code : Nat) : Onward (octalCharacter flags code) :=
  .of_local (local_octalCharacter flags code)

theorem onward_numberEscape (flags : Flags) (c : Char) : Onward (numberEscape flags c) := by
  refine onward_ite (fun _ => (Onward.of_local (local_takeUpTo (by decide) 2)).bind fun _ =>
    onward_octalCharacter flags _) fun _ =>
      (Onward.of_local (local_takeUpTo (by decide) 1)).bind fun ds => ?_
  split
  · refine onward_ite (fun _ => (Onward.of_local (local_takeUpTo (by decide) 1)).bind fun es => ?_)
      fun _ => onward_reference flags _
    split
    · exact onward_octalCharacter flags _
    · exact onward_reference flags _
  · exact onward_reference flags _

theorem onward_escape (flags : Flags) (c : Char) : Onward (escape flags c) := by
  unfold escape
  split
  · exact onward_pure _
  · refine onward_ite (fun _ => onward_pure _) fun _ => onward_ite (fun _ => onward_pure _)
      fun _ => onward_ite (fun _ => onward_pure _) fun _ => onward_ite (fun _ => onward_pure _)
      fun _ => onward_ite (fun _ => onward_numberEscape flags c) fun _ => ?_
    exact (Onward.of_local (local_characterEscape c)).bind fun _ => onward_pure _

theorem onward_groupOf (name : List Char) : Onward (groupOf name) := by
  refine onward_ite (fun _ => onward_groupNamed _) fun _ => ?_
  split
  · exact (onward_noteNumber _).bind fun _ => onward_pure _
  · exact onward_fail

theorem onward_conditionGroup : Onward conditionGroup :=
  (Onward.of_local (local_nameUntil ')')).bind onward_groupOf

theorem level_openGroup {name : Option String} {n : Nat} {s s' : ReaderState}
    (h : Reads (openGroup name) s n s') : Level s s' := by
  obtain ⟨-, hn, hs'⟩ := reads_openGroup.mp h
  rw [hs']
  refine ⟨⟨⟨[], rfl, List.not_mem_nil⟩, hn ▸ Nat.le_succ _, List.subset_append_right _ _,
    fun _ h => h, fun h c hc => ?_, ⟨{}, (Flags.union_empty _).symm⟩⟩, rfl⟩
  obtain ⟨hpos, hle⟩ := h c hc
  exact ⟨hpos, hn ▸ Nat.le_succ_of_le hle⟩

/-- A group that has been opened may be closed. -/
theorem level_closeGroup {n : Nat} {r : Regex} {s s' : ReaderState} {u : Unit}
    (hn : 1 ≤ n ∧ n ≤ s.groupCount) (h : Reads (closeGroup n r) s u s') : Level s s' := by
  rw [reads_closeGroup.mp h]
  refine ⟨⟨⟨[], rfl, List.not_mem_nil⟩, Nat.le_refl _, List.Subset.refl _, fun _ h => h,
    fun h c hc => ?_, ⟨{}, (Flags.union_empty _).symm⟩⟩, rfl⟩
  obtain rfl | hc := List.mem_cons.mp hc
  · exact hn
  · exact h c hc

/-- What a reader does between the opening and the closing of a group. -/
theorem level_closeGroup_of_openGroup {name : Option String} {n : Nat} {r : Regex}
    {s t u s' : ReaderState} {a : Unit} (hopen : Reads (openGroup name) s n t) (h : Later t u)
    (hclose : Reads (closeGroup n r) u a s') : Level u s' := by
  obtain ⟨-, hn, ht⟩ := reads_openGroup.mp hopen
  have hpos : 1 ≤ n := hn ▸ Nat.succ_pos _
  have hle := h.groupCount_le
  rw [ht] at hle
  exact level_closeGroup ⟨hpos, hle⟩ hclose

/-! ## Pieces -/

theorem onward_repeatLast (least : Nat) (most : Option Nat) (acc : List Piece) :
    Onward (repeatLast least most acc) := by
  unfold repeatLast
  split
  · refine (onward_accept _).bind fun _ => onward_ite (fun _ => onward_pure _) fun _ =>
      (onward_accept _).bind fun _ => onward_ite (fun _ => onward_pure _) fun _ => onward_pure _
  · exact onward_fail

theorem onward_next? : Onward next? := by
  intro s o s' h
  obtain ⟨rfl, hne, rfl⟩ := reads_next?.mp h
  cases hr : s.rest with
  | nil =>
    rw [List.drop_nil, ← hr]
    exact .refl _
  | cons g r =>
    rw [hr, List.head?_cons, Ne, Option.some.injEq] at hne
    exact .of_moves (Moves.of_cons hr hne rfl)

theorem onward_skipUpTo (n : Nat) : Onward (skipUpTo n) := by
  induction n with
  | zero => exact onward_pure _
  | succ n ih =>
    refine onward_next?.bind fun o => ?_
    cases o with
    | none => exact onward_pure _
    | some g => exact onward_ite (fun _ => onward_pure _) fun _ => ih

theorem onward_remaining : Onward remaining := by
  intro s n s' h
  obtain ⟨_, rfl⟩ := reads_remaining.mp h
  exact .refl _

theorem onward_skipLine : Onward skipLine := onward_remaining.bind fun _ => onward_skipUpTo _

theorem onward_place (flags : Flags) (top : Bool) (acc : List Piece) (result : GroupResult) :
    Onward (place flags top acc result) := by
  cases result with
  | piece p => exact onward_pure _
  | nothing => exact onward_pure _
  | global f =>
    refine onward_ite (fun _ _ _ _ h => absurd h nofun) fun _ => (onward_modify fun s => ?_).bind
      fun _ => onward_get.bind fun _ => onward_pure _
    exact ⟨⟨⟨[], rfl, List.not_mem_nil⟩, Nat.le_refl _, List.Subset.refl _, fun _ h => h, id,
      ⟨f, rfl⟩⟩, rfl⟩

theorem onward_take {group : Flags → Reader GroupResult} (hgroup : ∀ flags, Onward (group flags))
    (flags : Flags) (top : Bool) (acc : List Piece) (g : Glyph) :
    Onward (take group flags top acc g) := by
  cases g with
  | dangling => exact onward_fail
  | escaped c => exact (onward_escape flags c).bind fun _ => onward_pure _
  | plain c =>
    have hrepeat : ∀ least most, Onward (do return (← repeatLast least most acc, flags)) :=
      fun least most => (onward_repeatLast least most acc).bind fun _ => onward_pure _
    refine onward_ite (fun _ => onward_pure _) fun _ => onward_ite (fun _ => ?_) fun _ =>
      onward_ite (fun _ => hrepeat _ _) fun _ => onward_ite (fun _ => hrepeat _ _) fun _ =>
      onward_ite (fun _ => hrepeat _ _) fun _ => onward_ite (fun _ => ?_) fun _ =>
      onward_ite (fun _ => ?_) fun _ => onward_ite (fun _ => onward_pure _) fun _ =>
      onward_ite (fun _ => onward_pure _) fun _ => onward_ite (fun _ => onward_pure _) fun _ =>
      onward_ite (fun _ => ?_) fun _ => onward_pure _
    -- A comment up to the end of the line.
    · exact onward_skipLine.bind fun _ => onward_pure _
    -- Counts, or a brace that stands for itself.
    · refine (Onward.of_local local_counts?).bind fun o => ?_
      cases o with
      | none => exact onward_pure _
      | some c => exact hrepeat _ _
    -- A set.
    · exact (Onward.of_local (local_charSet flags)).bind fun _ => onward_pure _
    -- A group.
    · exact (hgroup flags).bind (onward_place flags top acc)

/-! ## Expressions -/

/-- How a look behind is read: within it only the groups before it can be named. -/
theorem reads_lookBehind {n : Nat} {flags : Flags} {negated : Bool} {s s' : ReaderState}
    {result : GroupResult} : Reads (lookBehind (n + 1) flags negated) s result s' ↔
      ∃ r u v w, Reads (alternatives n flags false)
          { s with behind := some (s.behind.getD s.groupCount) } r u ∧
        Reads (expect ')') { u with behind := s.behind } ⟨⟩ v ∧ Reads (fixedWidth r) v w s' ∧
        result = .piece (.other (.look (some w) negated r)) := by
  simp only [lookBehind, reads_bind, reads_get, reads_modify, reads_pure]
  constructor
  · rintro ⟨_, _, ⟨rfl, rfl⟩, _, _, rfl, r, u, hr, _, _, rfl, _, v, hv, w, _, hw, rfl, rfl⟩
    exact ⟨r, u, v, w, hr, hv, hw, rfl⟩
  · rintro ⟨r, u, v, w, hr, hv, hw, rfl⟩
    exact ⟨s, s, ⟨rfl, rfl⟩, ⟨⟩, _, rfl, r, u, hr, ⟨⟩, _, rfl, ⟨⟩, v, hv, w, s', hw, rfl, rfl⟩

mutual

theorem onward_alternatives : (n : Nat) → (flags : Flags) → (top : Bool) →
    Onward (alternatives n flags top)
  | 0, _, _ => onward_fail
  | n + 1, flags, top =>
    (onward_sequence n flags top []).bind fun _ => by
      refine onward_ite (fun _ => onward_get.bind fun _ => (onward_pure _).bind ?_)
        fun _ => (onward_pure _).bind ?_
      all_goals exact fun flags => (onward_moreAlternatives n flags).bind fun _ => onward_pure _

theorem onward_moreAlternatives : (n : Nat) → (flags : Flags) →
    Onward (moreAlternatives n flags)
  | 0, _ => onward_fail
  | n + 1, flags =>
    (onward_accept '|').bind fun _ => onward_ite
      (fun _ => (onward_sequence n flags false []).bind fun _ =>
        (onward_moreAlternatives n flags).bind fun _ => onward_pure _)
      fun _ => onward_pure _

theorem onward_sequence : (n : Nat) → (flags : Flags) → (top : Bool) → (acc : List Piece) →
    Onward (sequence n flags top acc)
  | 0, _, _, _ => onward_fail
  | n + 1, flags, top, acc => by
    refine onward_peek.bind fun o => ?_
    cases o with
    | none => exact onward_pure _
    | some g =>
      exact onward_ite (fun _ => onward_pure _) fun _ => onward_next.bind fun _ =>
        (onward_take (onward_group n) flags top acc g).bind fun _ => onward_sequence n _ top _

theorem onward_group : (n : Nat) → (flags : Flags) → Onward (group n flags)
  | 0, _ => onward_fail
  | n + 1, flags => by
    refine (onward_accept '?').bind fun _ => onward_ite (fun _ => onward_next.bind fun g => ?_)
      fun _ => onward_capturing n flags none
    cases g with
    | escaped c => exact onward_fail
    | dangling => exact onward_fail
    | plain c =>
      refine onward_ite (fun _ => ?_) fun _ =>
        onward_ite (fun _ => onward_plainGroup n flags {} {}) fun _ =>
        onward_ite (fun _ => ?_) fun _ =>
        onward_ite (fun _ => onward_lookAhead n flags false) fun _ =>
        onward_ite (fun _ => onward_lookAhead n flags true) fun _ =>
        onward_ite (fun _ => ?_) fun _ =>
        onward_ite (fun _ => onward_condition n flags) fun _ =>
        onward_ite (fun _ => ?_) fun _ => onward_ite (fun _ => ?_) fun _ => onward_fail
      -- A group with a name, or a reference by name.
      · refine (onward_accept _).bind fun _ => onward_ite (fun _ => ?_) fun _ =>
          (onward_accept _).bind fun _ => onward_ite (fun _ => ?_) fun _ => onward_fail
        · exact (Onward.of_local (local_identifierUntil _)).bind fun name =>
            onward_capturing n flags (some name)
        · exact (Onward.of_local (local_identifierUntil _)).bind fun name =>
            (onward_groupNamed name).bind fun _ => (onward_checkReference _).bind fun _ =>
            onward_pure _
      -- A comment.
      · exact onward_remaining.bind fun _ =>
          (Onward.of_local (local_skipComment (Nat.le_refl _))).bind fun _ => onward_pure _
      -- A look behind.
      · exact (onward_accept _).bind fun _ =>
          onward_ite (fun _ => onward_lookBehind n flags false) fun _ =>
          (onward_accept _).bind fun _ =>
          onward_ite (fun _ => onward_lookBehind n flags true) fun _ => onward_fail
      -- An expression of which only the first way counts.
      · exact (onward_alternatives n flags false).then_expect _
      -- Flags.
      · refine (Onward.of_local (local_flagGroup c)).bind fun result => ?_
        rcases result with f | ⟨add, del⟩
        · exact onward_pure _
        · exact onward_plainGroup n flags add del

theorem onward_capturing : (n : Nat) → (flags : Flags) → (name : Option String) →
    Onward (capturing n flags name)
  | 0, _, _ => onward_fail
  | n + 1, flags, name => by
    intro s result s' h
    obtain ⟨k, t, hopen, hrun⟩ := reads_bind.mp h
    obtain ⟨r, u, hr, hrest⟩ := reads_bind.mp hrun
    obtain ⟨_, v, hend, hclose⟩ := reads_bind.mp hrest
    obtain ⟨_, w, hw, hpure⟩ := reads_bind.mp hclose
    obtain ⟨_, rfl⟩ := reads_pure.mp hpure
    have hinner : Level t v := (onward_alternatives n flags false t r u hr).trans
      (onward_expect u _ v hend)
    exact (level_openGroup hopen).trans
      (hinner.trans (level_closeGroup_of_openGroup hopen hinner.toLater hw))

theorem onward_plainGroup : (n : Nat) → (flags : Flags) → (add : Flags) → (del : Flags) →
    Onward (plainGroup n flags add del)
  | 0, _, _, _ => onward_fail
  | n + 1, _, _, _ => (onward_alternatives n _ false).then_expect _

theorem onward_lookAhead : (n : Nat) → (flags : Flags) → (negated : Bool) →
    Onward (lookAhead n flags negated)
  | 0, _, _ => onward_fail
  | n + 1, flags, _ => (onward_alternatives n flags false).then_expect _

theorem onward_lookBehind : (n : Nat) → (flags : Flags) → (negated : Bool) →
    Onward (lookBehind n flags negated)
  | 0, _, _ => onward_fail
  | n + 1, flags, negated => by
    intro s result s' h
    obtain ⟨r, u, v, w, hr, hv, hw, rfl⟩ := reads_lookBehind.mp h
    have hinner : Later s u :=
      (later_behind s _).trans (onward_alternatives n flags false _ r u hr).toLater
    have hend : Level _ s' := (onward_expect _ _ v hv).trans (onward_fixedWidth r v w s' hw)
    exact ⟨hinner.trans ((later_behind u _).trans hend.toLater), hend.behind⟩

theorem onward_condition : (n : Nat) → (flags : Flags) → Onward (condition n flags)
  | 0, _ => onward_fail
  | n + 1, flags =>
    onward_conditionGroup.bind fun k => (onward_checkBehind k).bind fun _ =>
      (onward_sequence n flags false []).bind fun _ =>
        (onward_elseBranch (onward_sequence n flags false [])).then_expect _

end

end Reader

end Wording.Pattern
