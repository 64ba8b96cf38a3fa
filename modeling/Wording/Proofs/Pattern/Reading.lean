import Wording.Pattern.Reader
import Mathlib.Data.List.Basic

/-!
# What readers take

A reader that succeeds has taken some glyphs from the front of what was left. Most readers look at
nothing else: what they take is decided by these glyphs, whatever stands behind the closing
parenthesis of the group that they stand in. `Local` says this of two runs at once, one with the
group's inside alone and one with the group's end and more behind it: if the first one succeeds, so
does the second.

The readers here are those of single items: names, numbers, escapes of characters, sets, flags,
comments.
-/

namespace Wording.Pattern

/-- The state with other glyphs left. -/
def ReaderState.withRest (s : ReaderState) (r : List Glyph) : ReaderState := { s with rest := r }

@[simp] theorem ReaderState.rest_withRest (s : ReaderState) (r : List Glyph) :
    (s.withRest r).rest = r := rfl

@[simp] theorem ReaderState.withRest_withRest (s : ReaderState) (r r' : List Glyph) :
    (s.withRest r).withRest r' = s.withRest r' := rfl

theorem ReaderState.eq_withRest {s : ReaderState} {r : List Glyph} (h : s.rest = r) :
    s = s.withRest r := by
  rw [← h]
  rfl

namespace Reader

variable {α β : Type}

/-! ## Successful runs -/

/-- `f` reads `a` from the state `s` on and leaves the state `s'`. -/
def Reads (f : Reader α) (s : ReaderState) (a : α) (s' : ReaderState) : Prop :=
  f.run s = .ok (a, s')

section

variable {f : Reader α} {g : α → Reader β} {s s' t : ReaderState} {a b : α}

theorem ok_pair_iff : (Except.ok (a, t) : Except ReadError (α × ReaderState)) = .ok (b, s') ↔
    b = a ∧ s' = t := by
  rw [Except.ok.injEq, Prod.mk.injEq, eq_comm, @eq_comm _ t]

theorem reads_pure : Reads (pure a) s b s' ↔ b = a ∧ s' = s := ok_pair_iff

/-- A reader that succeeds does so in one way. -/
theorem Reads.unique (h : Reads f s a s') (h' : Reads f s b t) : b = a ∧ t = s' :=
  ok_pair_iff.mp (h.symm.trans h')

theorem reads_bind {c : β} :
    Reads (f >>= g) s c s' ↔ ∃ a t, Reads f s a t ∧ Reads (g a) t c s' := by
  simp only [Reads, StateT.run_bind]
  cases f.run s with
  | error e => simp [bind, Except.bind]
  | ok r => cases r; simp [bind, Except.bind]

theorem not_reads_fail : ¬ Reads (fail : Reader α) s a s' := nofun

theorem run_bind_of_reads (h : Reads f s a t) : (f >>= g).run s = (g a).run t := by
  have h : f.run s = .ok (a, t) := h
  rw [StateT.run_bind, h]
  rfl

theorem run_bind_of_error {e : ReadError} (h : f.run s = .error e) :
    (f >>= g).run s = .error e := by
  rw [StateT.run_bind, h]
  rfl

theorem reads_get {r : ReaderState} : Reads get s r s' ↔ r = s ∧ s' = s := ok_pair_iff

/-- What is read from the state as it is. -/
theorem reads_get_bind {h : ReaderState → Reader β} {c : β} :
    Reads (get >>= h) s c s' ↔ Reads (h s) s c s' := by
  simp only [reads_bind, reads_get]
  constructor
  · rintro ⟨_, _, ⟨rfl, rfl⟩, hr⟩
    exact hr
  · exact fun hr => ⟨s, s, ⟨rfl, rfl⟩, hr⟩

theorem reads_modify {m : ReaderState → ReaderState} {u : PUnit} :
    Reads (modify m) s u s' ↔ s' = m s := by
  show Except.ok (PUnit.unit, m s) = .ok (u, s') ↔ _
  rw [ok_pair_iff]
  exact and_iff_right rfl

theorem reads_set {u : PUnit} : Reads (set t) s u s' ↔ s' = t := by
  show Except.ok (PUnit.unit, t) = .ok (u, s') ↔ _
  rw [ok_pair_iff]
  exact and_iff_right rfl

/-! ## One glyph -/

theorem reads_peek {o : Option Glyph} :
    Reads peek s o s' ↔ o = s.rest.head? ∧ o ≠ some .dangling ∧ s' = s := by
  rw [peek, reads_bind]
  simp only [reads_get]
  cases hr : s.rest with
  | nil => grind [reads_pure]
  | cons g r => cases g <;> grind [reads_pure, not_reads_fail]

theorem reads_peek_bind {h : Option Glyph → Reader β} {c : β} :
    Reads (peek >>= h) s c s' ↔ s.rest.head? ≠ some .dangling ∧ Reads (h s.rest.head?) s c s' := by
  rw [reads_bind]
  constructor
  · rintro ⟨_, _, hpeek, hr⟩
    obtain ⟨rfl, hne, rfl⟩ := reads_peek.mp hpeek
    exact ⟨hne, hr⟩
  · rintro ⟨hne, hr⟩
    exact ⟨_, _, reads_peek.mpr ⟨rfl, hne, rfl⟩, hr⟩

theorem reads_next? {o : Option Glyph} :
    Reads next? s o s' ↔
      o = s.rest.head? ∧ o ≠ some .dangling ∧ s' = s.withRest (s.rest.drop 1) := by
  simp only [next?, reads_bind, reads_peek, reads_modify, reads_pure]
  grind [ReaderState.withRest]

theorem reads_next {g : Glyph} :
    Reads next s g s' ↔ s.rest = g :: s'.rest ∧ g ≠ .dangling ∧ s' = s.withRest s'.rest := by
  rw [next, reads_bind]
  simp only [reads_next?]
  cases hr : s.rest with
  | nil => grind [not_reads_fail]
  | cons g' r => 
    simp [reads_pure]
    grind [reads_pure, ReaderState.withRest]

theorem reads_accept {c : Char} {b : Bool} :
    Reads (accept c) s b s' ↔
      s.rest.head? ≠ some .dangling ∧
        if s.rest.head? = some (.plain c) then b = true ∧ s' = s.withRest (s.rest.drop 1)
        else b = false ∧ s' = s := by
  have hpeek : Reads (accept c) s b s' ↔ s.rest.head? ≠ some .dangling ∧
      Reads (if s.rest.head? = some (.plain c) then do
          modify fun s => { s with rest := s.rest.drop 1 }
          return true
        else return false) s b s' := by
    rw [accept, reads_bind]
    simp only [reads_peek]
    constructor
    · rintro ⟨_, _, ⟨rfl, hne, rfl⟩, h⟩
      exact ⟨hne, h⟩
    · rintro ⟨hne, h⟩
      exact ⟨_, _, ⟨rfl, hne, rfl⟩, h⟩
  rw [hpeek]
  split
  · simp only [reads_bind, reads_modify, reads_pure]
    grind [ReaderState.withRest]
  · rw [reads_pure]

end

/-! ## Taking from the front -/

/-- Some glyphs are taken from the front, and nothing else is done. -/
structure Moves (s s' : ReaderState) : Prop where
  taken : ∃ used, s.rest = used ++ s'.rest ∧ .dangling ∉ used
  same : s' = s.withRest s'.rest

theorem Moves.refl (s : ReaderState) : Moves s s := ⟨⟨[], rfl, List.not_mem_nil⟩, rfl⟩

theorem Moves.trans {s t u : ReaderState} (h : Moves s t) (h' : Moves t u) : Moves s u := by
  obtain ⟨⟨used, hused, hno⟩, hsame⟩ := h
  obtain ⟨⟨used', hused', hno'⟩, hsame'⟩ := h'
  refine ⟨⟨used ++ used', by rw [hused, hused', List.append_assoc], ?_⟩, ?_⟩
  · rw [List.mem_append, not_or]
    exact ⟨hno, hno'⟩
  · rw [hsame', hsame, ReaderState.withRest_withRest]
    rfl

theorem Moves.of_cons {s s' : ReaderState} {g : Glyph} (h : s.rest = g :: s'.rest)
    (hg : g ≠ .dangling) (hs : s' = s.withRest s'.rest) : Moves s s' :=
  ⟨⟨[g], h, by rwa [List.mem_singleton, eq_comm]⟩, hs⟩

/-- `f` takes glyphs from the front; with the end of a group and more behind them, `g` takes the same
glyphs and yields the same. -/
def Local (more : List Glyph) (f g : Reader α) : Prop :=
  ∀ s a s', Reads f s a s' → Moves s s' ∧
    ∀ t, t.rest = s.rest ++ .plain ')' :: more →
      Reads g t a (t.withRest (s'.rest ++ .plain ')' :: more))

variable {more : List Glyph}

theorem local_pure (a : α) : Local more (pure a) (pure a) := by
  intro s b s' h
  obtain ⟨rfl, rfl⟩ := reads_pure.mp h
  exact ⟨.refl _, fun t ht => reads_pure.mpr ⟨rfl, (ReaderState.eq_withRest ht).symm⟩⟩

theorem local_fail (g : Reader α) : Local more fail g := fun _ _ _ h => absurd h not_reads_fail

theorem Local.bind {f f' : Reader α} {g g' : α → Reader β} (hf : Local more f f')
    (hg : ∀ a, Local more (g a) (g' a)) : Local more (f >>= g) (f' >>= g') := by
  intro s b s'' h
  obtain ⟨a, s', ha, hb⟩ := reads_bind.mp h
  obtain ⟨hmove, hlocal⟩ := hf s a s' ha
  obtain ⟨hmove', hlocal'⟩ := hg a s' b s'' hb
  exact ⟨hmove.trans hmove', fun t ht => reads_bind.mpr ⟨a, _, hlocal t ht, hlocal' _ rfl⟩⟩

/-- What is decided alike on both sides goes on alike. -/
theorem local_ite {p : Prop} [Decidable p] {f f' g g' : Reader α} (hf : p → Local more f f')
    (hg : ¬ p → Local more g g') :
    Local more (if p then f else g) (if p then f' else g') := by
  split
  · exact hf ‹_›
  · exact hg ‹_›

/-- What is refused on both sides, or else goes on alike. -/
theorem local_refuse {p : Prop} [Decidable p] {f f' : PUnit → Reader α} {g g' : Reader α}
    (hg : ¬ p → Local more g g') :
    Local more (if p then fail >>= f else g) (if p then fail >>= f' else g') :=
  local_ite (fun _ _ _ _ h => absurd h nofun) hg

theorem local_demand {p : Prop} [Decidable p] {f f' : PUnit → Reader α} {g g' : Reader α}
    (hg : p → Local more g g') :
    Local more (if p then g else fail >>= f) (if p then g' else fail >>= f') :=
  local_ite hg fun _ _ _ _ h => absurd h nofun

theorem local_next : Local more next next := by
  intro s g s' h
  obtain ⟨hrest, hg, hs⟩ := reads_next.mp h
  refine ⟨.of_cons hrest hg hs, fun t ht => reads_next.mpr ⟨?_, hg, rfl⟩⟩
  rw [ht, hrest, List.cons_append]
  rfl

/-- A glyph other than the closing parenthesis is next inside a group if it is next before the end
of the group. -/
theorem head?_append_closing {r : List Glyph} {g : Glyph} (hg : g ≠ .plain ')') :
    (r ++ .plain ')' :: more).head? = some g ↔ r.head? = some g := by
  cases r with
  | nil => simpa using Ne.symm hg
  | cons g' r => rfl

theorem head?_ne_dangling {r : List Glyph} (h : r.head? ≠ some .dangling) :
    (r ++ .plain ')' :: more).head? ≠ some .dangling :=
  fun hd => h ((head?_append_closing (by decide)).mp hd)

/-- Whether a character other than the closing parenthesis is next is decided by the glyphs in front
of that. -/
theorem local_accept {c : Char} (hc : c ≠ ')') : Local more (accept c) (accept c) := by
  intro s b s' h
  obtain ⟨hne, h⟩ := reads_accept.mp h
  have hc' : Glyph.plain c ≠ .plain ')' := fun h => hc (Glyph.plain.inj h)
  have hne' : ∀ t : ReaderState, t.rest = s.rest ++ .plain ')' :: more →
      t.rest.head? ≠ some .dangling := fun t ht => ht ▸ head?_ne_dangling hne
  split at h
  · rename_i hhead
    obtain ⟨r, hr⟩ := List.head?_eq_some_iff.mp hhead
    obtain ⟨rfl, rfl⟩ := h
    refine ⟨.of_cons (g := .plain c) ?_ nofun rfl, fun t ht => reads_accept.mpr ⟨hne' t ht, ?_⟩⟩
    · rw [hr]
      rfl
    · rw [ht, hr, List.cons_append, List.head?_cons, if_pos rfl]
      exact ⟨rfl, rfl⟩
  · rename_i hhead
    obtain ⟨rfl, rfl⟩ := h
    refine ⟨.refl _, fun t ht => reads_accept.mpr ⟨hne' t ht, ?_⟩⟩
    rw [if_neg (by rwa [ht, head?_append_closing hc'])]
    exact ⟨rfl, (ReaderState.eq_withRest ht).symm⟩

/-- The end of a group is taken only if it is there. -/
theorem reads_expect {s s' : ReaderState} {u : Unit} :
    Reads (expect ')') s u s' ↔ s.rest = .plain ')' :: s'.rest ∧ s' = s.withRest s'.rest := by
  constructor
  · intro h
    obtain ⟨b, t, hb, hrun⟩ := reads_bind.mp h
    obtain ⟨_, hb⟩ := reads_accept.mp hb
    split at hb
    · rename_i hhead
      obtain ⟨rfl, rfl⟩ := hb
      obtain ⟨_, rfl⟩ := reads_pure.mp hrun
      obtain ⟨r, hr⟩ := List.head?_eq_some_iff.mp hhead
      rw [hr]
      exact ⟨rfl, rfl⟩
    · rw [hb.1] at hrun
      exact absurd hrun not_reads_fail
  · rintro ⟨hrest, hs⟩
    refine reads_bind.mpr ⟨true, s', reads_accept.mpr ⟨?_, ?_⟩, reads_pure.mpr ⟨rfl, rfl⟩⟩
    · rw [hrest, List.head?_cons]
      exact nofun
    · rw [hrest, List.head?_cons, if_pos rfl]
      exact ⟨rfl, hs⟩

/-- The end of a group that is taken is not the one behind its inside. -/
theorem local_expect : Local more (expect ')') (expect ')') := by
  intro s u s' h
  obtain ⟨hrest, hs⟩ := reads_expect.mp h
  refine ⟨.of_cons hrest nofun hs, fun t ht => reads_expect.mpr ⟨?_, rfl⟩⟩
  rw [ht, hrest, List.cons_append]
  rfl

/-! ## Several glyphs -/

/-- One step of a reader that takes characters: it takes one that may be taken, or stops. -/
theorem reads_takeUpTo_succ {p : Char → Bool} {n : Nat} {s s' : ReaderState} {cs : List Char} :
    Reads (takeUpTo p (n + 1)) s cs s' ↔ s.rest.head? ≠ some .dangling ∧
      ((∃ c r ds, s.rest = .plain c :: r ∧ p c = true ∧ cs = c :: ds ∧
          Reads (takeUpTo p n) (s.withRest r) ds s') ∨
        (∀ c, s.rest.head? = some (.plain c) → p c = false) ∧ cs = [] ∧ s' = s) := by
  rw [takeUpTo, reads_bind]
  simp only [reads_peek]
  constructor
  · rintro ⟨o, t, ⟨rfl, hne, rfl⟩, h⟩
    refine ⟨hne, ?_⟩
    split at h
    · rename_i c hc
      obtain ⟨r, hr⟩ := List.head?_eq_some_iff.mp hc
      split at h
      · rename_i hp
        simp only [reads_bind, reads_modify, reads_pure] at h
        obtain ⟨_, _, rfl, ds, u, hds, rfl, rfl⟩ := h
        have hds : Reads (takeUpTo p n) (t.withRest (t.rest.drop 1)) ds s' := hds
        rw [hr] at hds
        exact .inl ⟨c, r, ds, hr, hp, rfl, hds⟩
      · rename_i hp
        obtain ⟨rfl, rfl⟩ := reads_pure.mp h
        refine .inr ⟨fun d hd => ?_, rfl, rfl⟩
        rw [hc, Option.some.injEq, Glyph.plain.injEq] at hd
        rw [← hd]
        exact Bool.eq_false_iff.mpr hp
    · rename_i hno
      obtain ⟨rfl, rfl⟩ := reads_pure.mp h
      exact .inr ⟨fun d hd => absurd hd (hno d), rfl, rfl⟩
  · rintro ⟨hne, ⟨c, r, ds, hr, hp, rfl, h⟩ | ⟨hno, rfl, rfl⟩⟩
    · refine ⟨_, _, ⟨rfl, hne, rfl⟩, ?_⟩
      rw [hr, List.head?_cons]
      dsimp only
      rw [if_pos hp]
      simp only [reads_bind, reads_modify, reads_pure]
      have h : Reads (takeUpTo p n) (s.withRest (s.rest.drop 1)) ds s' := by rwa [hr]
      exact ⟨⟨⟩, _, rfl, ds, s', h, rfl, rfl⟩
    · refine ⟨_, _, ⟨rfl, hne, rfl⟩, ?_⟩
      split
      · rename_i c hc
        rw [if_neg (Bool.eq_false_iff.mp (hno c hc))]
        exact reads_pure.mpr ⟨rfl, rfl⟩
      · exact reads_pure.mpr ⟨rfl, rfl⟩

theorem moves_takeUpTo {p : Char → Bool} {n : Nat} {s s' : ReaderState} {cs : List Char}
    (h : Reads (takeUpTo p n) s cs s') : Moves s s' := by
  induction n generalizing s cs with
  | zero =>
    obtain ⟨_, rfl⟩ := reads_pure.mp h
    exact .refl _
  | succ n ih =>
    obtain ⟨_, ⟨c, r, ds, hr, _, _, h⟩ | ⟨_, _, rfl⟩⟩ := reads_takeUpTo_succ.mp h
    · have hstep : Moves s (s.withRest r) := Moves.of_cons (g := .plain c) hr nofun rfl
      exact hstep.trans (ih h)
    · exact .refl _

/-- Characters other than the closing parenthesis are taken alike, with as many units as one likes
if there are enough. -/
theorem takeUpTo_beside {p : Char → Bool} (hp : p ')' = false) {n m : Nat} {s s' t : ReaderState}
    {cs : List Char} (hunits : n = m ∨ s.rest.length ≤ n ∧ t.rest.length ≤ m)
    (ht : t.rest = s.rest ++ .plain ')' :: more) (h : Reads (takeUpTo p n) s cs s') :
    Reads (takeUpTo p m) t cs (t.withRest (s'.rest ++ .plain ')' :: more)) := by
  -- Both readers spend one unit for each character, and stop at the same one.
  induction n generalizing m s t cs with
  | zero =>
    obtain ⟨rfl, rfl⟩ := reads_pure.mp h
    have hstay : t.withRest (s'.rest ++ .plain ')' :: more) = t :=
      (ReaderState.eq_withRest ht).symm
    rw [hstay]
    cases m with
    | zero => exact reads_pure.mpr ⟨rfl, rfl⟩
    | succ m =>
      have hnil : s'.rest = [] := by
        obtain hunits | ⟨hlen, _⟩ := hunits
        · cases hunits
        · exact List.eq_nil_of_length_eq_zero (Nat.le_zero.mp hlen)
      rw [hnil, List.nil_append] at ht
      refine reads_takeUpTo_succ.mpr ⟨by rw [ht]; exact nofun, .inr ⟨fun c hc => ?_, rfl, rfl⟩⟩
      rw [ht, List.head?_cons, Option.some.injEq, Glyph.plain.injEq] at hc
      rw [← hc, hp]
  | succ n ih =>
    cases m with
    | zero =>
      obtain hunits | ⟨_, hlen⟩ := hunits
      · cases hunits
      · rw [ht, List.length_append, List.length_cons] at hlen
        omega
    | succ m =>
      obtain ⟨hne, hrun⟩ := reads_takeUpTo_succ.mp h
      refine reads_takeUpTo_succ.mpr
        ⟨ht ▸ head?_ne_dangling hne, ?_⟩
      obtain ⟨c, r, es, hr, hc, rfl, hrun⟩ | ⟨hstop, rfl, rfl⟩ := hrun
      · have ht' : t.rest = .plain c :: (r ++ .plain ')' :: more) := by
          rw [ht, hr, List.cons_append]
        have hunits' : n = m ∨ r.length ≤ n ∧ (r ++ .plain ')' :: more).length ≤ m := by
          refine hunits.imp Nat.succ.inj fun ⟨hlen, hlen'⟩ => ?_
          rw [hr, List.length_cons] at hlen
          rw [ht', List.length_cons] at hlen'
          exact ⟨Nat.le_of_succ_le_succ hlen, Nat.le_of_succ_le_succ hlen'⟩
        exact .inl ⟨c, _, es, ht', hc, rfl, ih (t := t.withRest _) hunits' rfl hrun⟩
      · refine .inr ⟨fun c hc => ?_, rfl, (ReaderState.eq_withRest ht).symm⟩
        -- The character would be the closing parenthesis, or be taken on both sides.
        by_cases hclose : c = ')'
        · rw [hclose, hp]
        · have hne' : Glyph.plain c ≠ .plain ')' := fun h => hclose (Glyph.plain.inj h)
          exact hstop c ((head?_append_closing hne').mp (ht ▸ hc))

theorem local_takeUpTo {p : Char → Bool} (hp : p ')' = false) (n : Nat) :
    Local more (takeUpTo p n) (takeUpTo p n) :=
  fun _ _ _ h => ⟨moves_takeUpTo h, fun _ ht => takeUpTo_beside hp (.inl rfl) ht h⟩

theorem reads_remaining {s s' : ReaderState} {n : Nat} :
    Reads remaining s n s' ↔ n = s.rest.length ∧ s' = s := by
  rw [remaining, reads_bind]
  simp only [reads_get, reads_pure]
  constructor
  · rintro ⟨_, _, ⟨rfl, rfl⟩, h⟩
    exact h
  · exact fun h => ⟨_, _, ⟨rfl, rfl⟩, h⟩

theorem reads_takeAll {p : Char → Bool} {s s' : ReaderState} {cs : List Char} :
    Reads (takeAll p) s cs s' ↔ Reads (takeUpTo p s.rest.length) s cs s' := by
  rw [takeAll, reads_bind]
  simp only [reads_remaining]
  constructor
  · rintro ⟨_, _, ⟨rfl, rfl⟩, h⟩
    exact h
  · exact fun h => ⟨_, _, ⟨rfl, rfl⟩, h⟩

theorem local_takeAll {p : Char → Bool} (hp : p ')' = false) :
    Local more (takeAll p) (takeAll p) := fun _ _ _ h =>
  ⟨moves_takeUpTo (reads_takeAll.mp h), fun _ ht => reads_takeAll.mpr
    (takeUpTo_beside hp (.inr ⟨Nat.le_refl _, Nat.le_refl _⟩) ht (reads_takeAll.mp h))⟩

/-- A reader whose units are counted from what is left, if it goes on alike with any numbers, where
the second one has no fewer. -/
theorem local_remaining {f g : Nat → Reader α} (h : ∀ n m, n ≤ m → Local more (f n) (g m)) :
    Local more (remaining >>= f) (remaining >>= g) := by
  intro s a s' hf
  obtain ⟨n, u, hn, hf⟩ := reads_bind.mp hf
  obtain ⟨rfl, rfl⟩ := reads_remaining.mp hn
  refine ⟨(h _ _ (Nat.le_refl _) u a s' hf).1, fun t ht => ?_⟩
  have hle : u.rest.length ≤ t.rest.length := by
    rw [ht, List.length_append]
    exact Nat.le_add_right _ _
  exact reads_bind.mpr ⟨_, t, reads_remaining.mpr ⟨rfl, rfl⟩, (h _ _ hle u a s' hf).2 t ht⟩

theorem local_takeUntil (stop : Char) {n m : Nat} (h : n ≤ m) :
    Local more (takeUntil stop n) (takeUntil stop m) := by
  induction n generalizing m with
  | zero => exact local_fail _
  | succ n ih =>
    cases m with
    | zero => exact absurd h (Nat.not_succ_le_zero n)
    | succ m =>
      have h := Nat.le_of_succ_le_succ h
      refine local_next.bind fun g => ?_
      cases g with
      | plain c =>
        exact local_ite (fun _ => local_pure _) fun _ => (ih h).bind fun _ => local_pure _
      | escaped c => exact (ih h).bind fun _ => local_pure _
      | dangling => exact local_fail _

theorem local_nameUntil (stop : Char) : Local more (nameUntil stop) (nameUntil stop) :=
  local_remaining fun _ _ h => (local_takeUntil stop (Nat.succ_le_succ h)).bind fun _ =>
    local_refuse fun _ => local_pure _

theorem local_identifierUntil (stop : Char) :
    Local more (identifierUntil stop) (identifierUntil stop) :=
  (local_nameUntil stop).bind fun _ => local_demand fun _ => local_pure _

/-! ## Escapes and sets -/

theorem local_hexCode (n : Nat) : Local more (hexCode n) (hexCode n) :=
  (local_takeUpTo (by decide) n).bind fun _ => local_refuse fun _ => local_pure _

theorem local_octalCharacter (flags : Flags) (code : Nat) :
    Local more (octalCharacter flags code) (octalCharacter flags code) :=
  local_refuse fun _ => local_pure _

theorem local_characterEscape (c : Char) :
    Local more (characterEscape c) (characterEscape c) := by
  unfold characterEscape
  split
  · exact local_pure _
  · exact local_ite (fun _ => local_hexCode 2) fun _ => local_ite (fun _ => local_hexCode 4)
      fun _ => local_ite (fun _ => local_hexCode 8) fun _ => local_ite (fun _ => local_fail _)
        fun _ => local_pure _

theorem local_setEscape (ascii : Bool) (c : Char) :
    Local more (setEscape ascii c) (setEscape ascii c) := by
  unfold setEscape
  split
  · exact local_pure _
  · refine local_ite (fun _ => local_pure _) fun _ => local_ite (fun _ => ?_) fun _ => ?_
    · exact (local_takeUpTo (by decide) 2).bind fun _ => local_refuse fun _ => local_pure _
    · exact (local_characterEscape c).bind fun _ => local_pure _

theorem local_setItem (ascii : Bool) (g : Glyph) :
    Local more (setItem ascii g) (setItem ascii g) := by
  cases g with
  | plain c => exact local_pure _
  | escaped c => exact local_setEscape ascii c
  | dangling => exact local_fail _

theorem local_setItems (ascii : Bool) {n m : Nat} (h : n ≤ m) (first : Bool) :
    Local more (setItems ascii n first) (setItems ascii m first) := by
  induction n generalizing m first with
  | zero => exact local_fail _
  | succ n ih =>
    cases m with
    | zero => exact absurd h (Nat.not_succ_le_zero n)
    | succ m =>
      have h := Nat.le_of_succ_le_succ h
      refine local_next.bind fun g => local_ite (fun _ => local_pure _) fun _ =>
        (local_setItem ascii g).bind fun low => (local_accept (by decide)).bind fun range => ?_
      cases range with
      | false => exact (ih h false).bind fun _ => local_pure _
      | true =>
        refine local_next.bind fun g => local_ite (fun _ => local_pure _) fun _ =>
          (local_setItem ascii g).bind fun high => ?_
        cases low with
        | cls => exact local_fail _
        | range a =>
          cases high with
          | cls => exact local_fail _
          | range b => exact local_refuse fun _ => (ih h false).bind fun _ => local_pure _

theorem local_charSet (flags : Flags) : Local more (charSet flags) (charSet flags) :=
  (local_accept (by decide)).bind fun _ => local_remaining fun _ _ h =>
    (local_setItems _ (Nat.succ_le_succ h) true).bind fun _ => local_pure _

/-! ## Counts, flags and comments -/

theorem local_countOf (ds : List Char) : Local more (countOf ds) (countOf ds) :=
  local_ite (fun _ _ _ _ h => absurd h nofun) fun _ => local_pure _

theorem local_countsText? : Local more countsText? countsText? := by
  refine (local_takeAll (by decide)).bind fun low => (local_accept (by decide)).bind fun range => ?_
  have hclose : ∀ high : List Char, Local more
      (do if ← accept '\x7d' then return some (low, high) else return none)
      (do if ← accept '\x7d' then return some (low, high) else return none) :=
    fun _ => (local_accept (by decide)).bind fun _ => local_ite (fun _ => local_pure _)
      fun _ => local_pure _
  exact local_ite (fun _ => (local_takeAll (by decide)).bind hclose)
    fun _ => (local_pure _).bind hclose

theorem local_countsOf (low high : List Char) :
    Local more (countsOf low high) (countsOf low high) := by
  have hmost : ∀ least : Nat, Local more
      (if high.isEmpty then pure (least, none) else do
        let most ← countOf high
        if most < least then fail
        return (least, some most))
      (if high.isEmpty then pure (least, none) else do
        let most ← countOf high
        if most < least then fail
        return (least, some most)) :=
    fun _ => local_ite (fun _ => local_pure _) fun _ => (local_countOf high).bind fun _ =>
      local_refuse fun _ => local_pure _
  exact local_ite (fun _ => (local_pure _).bind hmost) fun _ => (local_countOf low).bind hmost

/-- How counts are read: nothing is taken if they end at once or do not end as counts do. -/
theorem reads_counts? {s s' : ReaderState} {o : Option (Nat × Option Nat)} :
    Reads counts? s o s' ↔ s.rest.head? ≠ some .dangling ∧
      if s.rest.head? = some (.plain '\x7d') then o = none ∧ s' = s
      else (o = none ∧ s' = s ∧ ∃ t, Reads countsText? s none t) ∨
        ∃ low high t c, Reads countsText? s (some (low, high)) t ∧ o = some c ∧
          Reads (countsOf low high) t c s' := by
  rw [counts?, reads_get_bind, reads_peek_bind]
  refine and_congr_right fun _ => ?_
  split
  · exact reads_pure
  · rw [reads_bind]
    constructor
    · rintro ⟨_ | ⟨low, high⟩, t, hw, h⟩
      · obtain ⟨_, _, hset, hpure⟩ := reads_bind.mp h
        obtain ⟨rfl, rfl⟩ := reads_pure.mp hpure
        exact .inl ⟨rfl, reads_set.mp hset, t, hw⟩
      · obtain ⟨c, _, hc, hpure⟩ := reads_bind.mp h
        obtain ⟨rfl, rfl⟩ := reads_pure.mp hpure
        exact .inr ⟨low, high, t, c, hw, rfl, hc⟩
    · rintro (⟨rfl, rfl, t, hw⟩ | ⟨low, high, t, c, hw, rfl, hc⟩)
      · exact ⟨none, t, hw, reads_bind.mpr
          ⟨⟨⟩, _, reads_set.mpr rfl, reads_pure.mpr ⟨rfl, rfl⟩⟩⟩
      · exact ⟨some (low, high), t, hw, reads_bind.mpr ⟨c, s', hc, reads_pure.mpr ⟨rfl, rfl⟩⟩⟩

/-- The counts that are written come to two numbers alike. -/
theorem local_counts? : Local more counts? counts? := by
  intro s o s' h
  obtain ⟨hne, h⟩ := reads_counts?.mp h
  have hne' : ∀ t : ReaderState, t.rest = s.rest ++ .plain ')' :: more →
      t.rest.head? ≠ some .dangling := fun t ht => ht ▸ head?_ne_dangling hne
  have hclose : Glyph.plain '\x7d' ≠ .plain ')' := by decide
  split at h
  · rename_i hhead
    obtain ⟨rfl, rfl⟩ := h
    refine ⟨.refl _, fun t ht => reads_counts?.mpr ⟨hne' t ht, ?_⟩⟩
    rw [if_pos (by rwa [ht, head?_append_closing hclose])]
    exact ⟨rfl, (ReaderState.eq_withRest ht).symm⟩
  · rename_i hhead
    have hother : ∀ t : ReaderState, t.rest = s.rest ++ .plain ')' :: more →
        ¬ t.rest.head? = some (.plain '\x7d') := fun t ht => by
      rwa [ht, head?_append_closing hclose]
    obtain ⟨rfl, rfl, u, hw⟩ | ⟨low, high, u, c, hw, rfl, hc⟩ := h
    -- What has been looked at is given back on both sides.
    · refine ⟨.refl _, fun t ht => reads_counts?.mpr ⟨hne' t ht, ?_⟩⟩
      rw [if_neg (hother t ht)]
      exact .inl ⟨rfl, (ReaderState.eq_withRest ht).symm, _, (local_countsText? _ _ u hw).2 t ht⟩
    · obtain ⟨hmove, hlocal⟩ := local_countsText? _ _ u hw
      obtain ⟨hmove', hlocal'⟩ := local_countsOf low high u c s' hc
      refine ⟨hmove.trans hmove', fun t ht => reads_counts?.mpr ⟨hne' t ht, ?_⟩⟩
      rw [if_neg (hother t ht)]
      exact .inr ⟨low, high, _, c, hlocal t ht, rfl, hlocal' _ rfl⟩

theorem local_flagLetter (g : Glyph) : Local more (flagLetter g) (flagLetter g) := by
  cases g with
  | plain c =>
    unfold flagLetter
    dsimp only
    split
    · exact local_pure _
    · exact local_fail _
  | escaped c => exact local_fail _
  | dangling => exact local_fail _

theorem local_flagsOn {n m : Nat} (h : n ≤ m) (g : Glyph) (acc : Flags) :
    Local more (flagsOn n g acc) (flagsOn m g acc) := by
  induction n generalizing m g acc with
  | zero => exact local_fail _
  | succ n ih =>
    cases m with
    | zero => exact absurd h (Nat.not_succ_le_zero n)
    | succ m =>
      refine (local_flagLetter g).bind fun f => local_refuse fun _ => local_next.bind fun g => ?_
      cases g with
      | plain c =>
        exact local_ite (fun _ => local_pure _) fun _ => ih (Nat.le_of_succ_le_succ h) _ _
      | escaped c => exact local_fail _
      | dangling => exact local_fail _

theorem local_flagsOff {n m : Nat} (h : n ≤ m) (acc : Flags) :
    Local more (flagsOff n acc) (flagsOff m acc) := by
  induction n generalizing m acc with
  | zero => exact local_fail _
  | succ n ih =>
    cases m with
    | zero => exact absurd h (Nat.not_succ_le_zero n)
    | succ m =>
      refine local_next.bind fun g => (local_flagLetter g).bind fun f => local_refuse fun _ =>
        (local_accept (by decide)).bind fun stop => ?_
      cases stop with
      | true => exact local_pure _
      | false => exact ih (Nat.le_of_succ_le_succ h) _

theorem local_flagGroup (c : Char) : Local more (flagGroup c) (flagGroup c) := by
  unfold flagGroup
  refine local_remaining fun n m h =>
    local_ite (fun _ => (local_pure _).bind ?_) fun _ =>
      (local_flagsOn (Nat.succ_le_succ h) _ _).bind ?_
  all_goals
    rintro ⟨add, stop⟩
    refine local_ite (fun _ => local_pure _) fun _ => local_refuse fun _ =>
      local_ite (fun _ => (local_flagsOff (Nat.succ_le_succ h) _).bind ?_) fun _ => (local_pure _).bind ?_
    all_goals exact fun del => local_refuse fun _ => local_demand fun _ => local_pure _

theorem local_skipComment {n m : Nat} (h : n ≤ m) :
    Local more (skipComment n) (skipComment m) := by
  induction n generalizing m with
  | zero => exact local_fail _
  | succ n ih =>
    cases m with
    | zero => exact absurd h (Nat.not_succ_le_zero n)
    | succ m =>
      exact local_next.bind fun _ => local_ite (fun _ => local_pure _) fun _ =>
        ih (Nat.le_of_succ_le_succ h)

/-- Whatever `f` reads satisfies `P`. -/
def Yields (P : α → Prop) (f : Reader α) : Prop := ∀ s a s', Reads f s a s' → P a

section

variable {P : α → Prop}

theorem yields_true (f : Reader α) : Yields (fun _ => True) f := fun _ _ _ _ => trivial

theorem yields_pure {a : α} (h : P a) : Yields P (pure a) := by
  intro s b s' hr
  rwa [(reads_pure.mp hr).1]

theorem yields_fail : Yields P (fail : Reader α) := fun _ _ _ h => absurd h not_reads_fail

theorem Yields.bind {Q : β → Prop} {f : Reader β} {g : β → Reader α} (hf : Yields Q f)
    (hg : ∀ b, Q b → Yields P (g b)) : Yields P (f >>= g) := by
  intro s a s'' h
  obtain ⟨b, s', hb, ha⟩ := reads_bind.mp h
  exact hg b (hf s b s' hb) s' a s'' ha

theorem yields_ite {p : Prop} [Decidable p] {f g : Reader α} (hf : p → Yields P f)
    (hg : ¬ p → Yields P g) : Yields P (if p then f else g) := by
  split
  · exact hf ‹_›
  · exact hg ‹_›

theorem yields_refuse {p : Prop} [Decidable p] {f : PUnit → Reader α} {g : Reader α}
    (hg : Yields P g) : Yields P (if p then fail >>= f else g) :=
  yields_ite (fun _ _ _ _ h => absurd h nofun) fun _ => hg

theorem yields_demand {p : Prop} [Decidable p] {f : PUnit → Reader α} {g : Reader α}
    (hg : Yields P g) : Yields P (if p then g else fail >>= f) :=
  yields_ite (fun _ => hg) fun _ _ _ _ h => absurd h nofun

end

/-- A flag that is set is there, whatever flags have been set before. -/
theorem yields_flagLetter (g : Glyph) : Yields (fun f => ∀ acc : Flags, acc.union f ≠ {})
    (flagLetter g) := by
  unfold flagLetter
  split
  · split
    · rename_i f hf
      refine yields_pure fun acc hnone => ?_
      unfold Flags.ofLetter? at hf
      split at hf <;> cases hf <;> simp [Flags.union] at hnone
    · exact yields_fail
  · exact yields_fail

theorem yields_flagsOn (n : Nat) (g : Glyph) (acc : Flags) :
    Yields (fun r => r.1 ≠ {}) (flagsOn n g acc) := by
  induction n generalizing g acc with
  | zero => exact yields_fail
  | succ n ih =>
    refine (yields_flagLetter g).bind fun f hf => yields_refuse ?_
    refine (yields_true _).bind fun g _ => ?_
    split
    · exact yields_ite (fun _ => yields_pure (hf acc)) fun _ => ih _ _
    · exact yields_fail

/-- Flags for the whole pattern, which are never none. -/
def FlagGroup.IsFlags : FlagGroup → Prop
  | .global f => f ≠ {}
  | .scoped _ _ => True

theorem yields_flagGroup (c : Char) : Yields FlagGroup.IsFlags (flagGroup c) := by
  refine (yields_true _).bind fun n _ => ?_
  -- Without flags to be set some are to be cleared, and that only within the group.
  refine yields_ite (fun _ => Yields.bind (Q := fun r => r.2 = ')' → r.1 ≠ {})
    (yields_pure (by simp)) ?_) fun _ => Yields.bind (Q := fun r => r.2 = ')' → r.1 ≠ {})
      (fun s r s' h _ => yields_flagsOn _ _ _ s r s' h) ?_
  all_goals
    rintro ⟨add, stop⟩ h
    refine yields_ite (fun hstop => yields_pure (h hstop)) fun _ => yields_refuse ?_
    refine yields_ite (fun _ => (yields_true _).bind ?_) fun _ => (yields_true _).bind ?_
    all_goals exact fun del _ => yields_refuse (yields_demand (yields_pure trivial))

/-! ## Groups that are named -/

/-- Whatever `f` refuses is malformed. -/
def Malformed (f : Reader α) : Prop := ∀ s e, f.run s = .error e → e = .malformed

section

theorem malformed_pure (a : α) : Malformed (pure a) := fun _ _ h => nomatch h

theorem malformed_fail : Malformed (fail : Reader α) := fun _ _ h => (Except.error.inj h).symm

theorem malformed_get : Malformed (get : Reader ReaderState) := fun _ _ h => nomatch h

theorem malformed_modify (m : ReaderState → ReaderState) : Malformed (modify m : Reader PUnit) :=
  fun _ _ h => nomatch h

theorem Malformed.bind {f : Reader α} {g : α → Reader β} (hf : Malformed f)
    (hg : ∀ a, Malformed (g a)) : Malformed (f >>= g) := by
  intro s e h
  rw [StateT.run_bind] at h
  cases hr : f.run s with
  | error e' =>
    rw [hr] at h
    exact hf s e (hr.trans (by cases h; rfl))
  | ok r =>
    rw [hr] at h
    exact hg r.1 r.2 e h

theorem malformed_ite {p : Prop} [Decidable p] {f g : Reader α} (hf : Malformed f)
    (hg : Malformed g) : Malformed (if p then f else g) := by
  split
  · exact hf
  · exact hg

theorem malformed_isClosed (n : Nat) : Malformed (isClosed n) :=
  malformed_get.bind fun _ => malformed_pure _

theorem malformed_checkBehind (n : Nat) : Malformed (checkBehind n) := by
  refine malformed_get.bind fun s => ?_
  split
  · exact malformed_pure _
  · exact (malformed_isClosed n).bind fun _ => malformed_ite
      (malformed_ite malformed_fail (malformed_pure _)) (malformed_fail.bind fun _ =>
        malformed_ite malformed_fail (malformed_pure _))

theorem malformed_checkReference (n : Nat) : Malformed (checkReference n) :=
  (malformed_isClosed n).bind fun _ => malformed_ite (malformed_checkBehind n)
    (malformed_fail.bind fun _ => malformed_checkBehind n)

theorem malformed_openGroup (name : Option String) : Malformed (openGroup name) := by
  refine malformed_get.bind fun s => (malformed_modify _).bind fun _ => ?_
  cases name with
  | none => exact malformed_pure _
  | some name =>
    have hadd : Malformed (do
        modify fun t => { t with names := (name, s.groupCount + 1) :: t.names }
        return s.groupCount + 1) := (malformed_modify _).bind fun _ => malformed_pure _
    exact malformed_get.bind fun _ => malformed_ite (malformed_fail.bind fun _ => hadd) hadd

theorem malformed_fixedWidth (r : Regex) : Malformed (fixedWidth r) :=
  (malformed_get.bind fun _ => malformed_pure _).bind fun _ =>
    malformed_ite (malformed_pure _) malformed_fail

end

theorem reads_isClosed {n : Nat} {s s' : ReaderState} {b : Bool} :
    Reads (isClosed n) s b s' ↔ b = (s.closed.find? (·.1 == n)).isSome ∧ s' = s := by
  simp only [isClosed, reads_bind, reads_get, reads_pure]
  constructor
  · rintro ⟨_, _, ⟨rfl, rfl⟩, h⟩
    exact h
  · exact fun h => ⟨s, s, ⟨rfl, rfl⟩, h⟩

/-- What is refused unless `p` holds. -/
theorem reads_demand {p : Prop} [Decidable p] {f : PUnit → Reader α} {g : Reader α}
    {s s' : ReaderState} {a : α} :
    Reads (if p then g else fail >>= f) s a s' ↔ p ∧ Reads g s a s' := by
  split
  · exact (and_iff_right ‹_›).symm
  · exact ⟨nofun, fun h => absurd h.1 ‹_›⟩

theorem reads_checkBehind {n : Nat} {s s' : ReaderState} {u : Unit} :
    Reads (checkBehind n) s u s' ↔
      (∀ limit, s.behind = some limit → (s.closed.find? (·.1 == n)).isSome ∧ n ≤ limit) ∧
        s' = s := by
  rw [checkBehind, reads_get_bind]
  split
  · rename_i hbehind
    rw [reads_pure, hbehind]
    exact ⟨fun h => ⟨nofun, h.2⟩, fun h => ⟨rfl, h.2⟩⟩
  · rename_i limit hbehind
    rw [reads_bind, hbehind]
    simp only [reads_isClosed]
    constructor
    · rintro ⟨_, _, ⟨rfl, rfl⟩, h⟩
      obtain ⟨hclosed, h⟩ := reads_demand.mp h
      split at h
      · exact absurd h not_reads_fail
      · rename_i hle
        refine ⟨fun l hl => ?_, (reads_pure.mp h).2⟩
        cases hl
        exact ⟨hclosed, Nat.le_of_not_lt hle⟩
    · rintro ⟨h, rfl⟩
      obtain ⟨hclosed, hle⟩ := h limit rfl
      refine ⟨_, _, ⟨rfl, rfl⟩, reads_demand.mpr ⟨hclosed, ?_⟩⟩
      rw [if_neg (Nat.not_lt_of_le hle)]
      exact reads_pure.mpr ⟨rfl, rfl⟩

theorem reads_checkReference {n : Nat} {s s' : ReaderState} {u : Unit} :
    Reads (checkReference n) s u s' ↔ (s.closed.find? (·.1 == n)).isSome ∧
      (∀ limit, s.behind = some limit → n ≤ limit) ∧ s' = s := by
  rw [checkReference, reads_bind]
  simp only [reads_isClosed]
  constructor
  · rintro ⟨_, _, ⟨rfl, rfl⟩, h⟩
    obtain ⟨hclosed, h⟩ := reads_demand.mp h
    obtain ⟨hle, rfl⟩ := reads_checkBehind.mp h
    exact ⟨hclosed, fun limit hl => (hle limit hl).2, rfl⟩
  · rintro ⟨hclosed, hle, rfl⟩
    exact ⟨_, _, ⟨rfl, rfl⟩, reads_demand.mpr
      ⟨hclosed, reads_checkBehind.mpr ⟨fun limit hl => ⟨hclosed, hle limit hl⟩, rfl⟩⟩⟩

theorem reads_groupNamed {name : String} {n : Nat} {s s' : ReaderState} :
    Reads (groupNamed name) s n s' ↔
      (s.names.find? (·.1 == name)).map (·.2) = some n ∧ s' = s := by
  rw [groupNamed, reads_get_bind]
  split
  · rename_i k hfind
    rw [reads_pure, hfind, Option.map_some, Option.some.injEq, eq_comm]
  · rename_i hfind
    rw [hfind]
    exact ⟨fun h => absurd h not_reads_fail, nofun⟩

/-- The width of an expression as the reader knows it. -/
def knownWidth (s : ReaderState) (r : Regex) : Width :=
  r.width fun n => ((s.closed.find? (·.1 == n)).map (·.2)).getD .zero

theorem reads_widthOf {r : Regex} {w : Width} {s s' : ReaderState} :
    Reads (widthOf r) s w s' ↔ w = knownWidth s r ∧ s' = s := by
  rw [widthOf, reads_get_bind]
  exact reads_pure

theorem reads_closeGroup {n : Nat} {r : Regex} {s s' : ReaderState} {u : Unit} :
    Reads (closeGroup n r) s u s' ↔ s' = { s with closed := (n, knownWidth s r) :: s.closed } := by
  rw [closeGroup, reads_bind]
  simp only [reads_widthOf]
  constructor
  · rintro ⟨_, _, ⟨rfl, rfl⟩, h⟩
    exact reads_modify.mp h
  · exact fun h => ⟨_, _, ⟨rfl, rfl⟩, reads_modify.mpr h⟩

theorem reads_fixedWidth {r : Regex} {n : Nat} {s s' : ReaderState} :
    Reads (fixedWidth r) s n s' ↔
      (knownWidth s r).high = some (knownWidth s r).low ∧ n = (knownWidth s r).low ∧ s' = s := by
  rw [fixedWidth, reads_bind]
  simp only [reads_widthOf]
  constructor
  · rintro ⟨_, _, ⟨rfl, rfl⟩, h⟩
    split at h
    · exact ⟨‹_›, reads_pure.mp h⟩
    · exact absurd h not_reads_fail
  · rintro ⟨hfixed, h⟩
    refine ⟨_, _, ⟨rfl, rfl⟩, ?_⟩
    rw [if_pos hfixed]
    exact reads_pure.mpr h

/-- The names behind the opening of a group. -/
def namesWith (name : Option String) (n : Nat) (names : List (String × Nat)) :
    List (String × Nat) :=
  (name.map fun name => (name, n)).toList ++ names

/-- A group is opened with a name that has not been given before, if with any. -/
theorem reads_openGroup {name : Option String} {n : Nat} {s s' : ReaderState} :
    Reads (openGroup name) s n s' ↔
      (∀ x, name = some x → s.names.find? (·.1 == x) = none) ∧ n = s.groupCount + 1 ∧
        s' = { s with groupCount := n, names := namesWith name n s.names } := by
  rw [openGroup, reads_get_bind, reads_bind]
  simp only [reads_modify]
  cases name with
  | none =>
    constructor
    · rintro ⟨_, _, rfl, h⟩
      obtain ⟨rfl, rfl⟩ := reads_pure.mp h
      exact ⟨nofun, rfl, rfl⟩
    · rintro ⟨-, rfl, rfl⟩
      exact ⟨⟨⟩, _, rfl, reads_pure.mpr ⟨rfl, rfl⟩⟩
  | some x =>
    constructor
    · rintro ⟨_, _, rfl, h⟩
      rw [reads_get_bind] at h
      split at h
      · exact absurd h nofun
      · rename_i hfind
        obtain ⟨_, _, hmodify, hpure⟩ := reads_bind.mp h
        rw [reads_modify] at hmodify
        obtain ⟨rfl, rfl⟩ := reads_pure.mp hpure
        refine ⟨fun y hy => ?_, rfl, hmodify⟩
        cases hy
        exact Option.not_isSome_iff_eq_none.mp hfind
    · rintro ⟨hnew, rfl, rfl⟩
      refine ⟨⟨⟩, _, rfl, reads_get_bind.mpr ?_⟩
      rw [if_neg (Option.not_isSome_iff_eq_none.mpr (hnew x rfl))]
      exact reads_bind.mpr ⟨⟨⟩, _, reads_modify.mpr rfl, reads_pure.mpr ⟨rfl, rfl⟩⟩

end Reader

end Wording.Pattern
