import Mathlib.Data.List.Forall2
import Wording.Proofs.Pattern.Onward
import Wording.Proofs.Pattern.Renumber

/-!
# Reading within a larger pattern

An expression is read on its own, and inside a group of a larger pattern. If the first reading
succeeds and the expression fits into the larger pattern, the second one succeeds too. It takes the
same glyphs as the first, and its result is that of the first with other numbers for the groups:
those before it in the larger pattern come first.

An expression does not fit if it gives a name that a group before it has, or sets flags for the whole
pattern. A reference by number, or a condition that names its group by number, keeps its number
within the larger pattern and so goes to another group, unless no group stands before it: the larger
pattern may be refused for that, or mean something else.

* `Surroundings`: what stands around the expression in the larger pattern
* `Surroundings.Beside`: the two states that the readings are in
* `Surroundings.Alongside`: two readers that keep these states beside each other
* `alongside_alternatives`: what has been said above, for a whole expression

A comment that reaches to the end of the line would leave the group in the larger pattern where it
just ends on its own. Only a verbose group may hold such a comment, and there the closing
parenthesis of that group is missing on its own.
-/

namespace Wording.Pattern

/-! ## Flags and widths -/

/-- Flags that mean the same for what is read. -/
structure Flags.Alike (f g : Flags) : Prop where
  ignoreCase : f.ignoreCase = g.ignoreCase
  multiline : f.multiline = g.multiline
  dotAll : f.dotAll = g.dotAll
  verbose : f.verbose = g.verbose
  ascii : f.ascii = g.ascii

namespace Flags.Alike

variable {f g : Flags}

theorem refl (f : Flags) : f.Alike f := ⟨rfl, rfl, rfl, rfl, rfl⟩

theorem symm (h : f.Alike g) : g.Alike f :=
  ⟨h.1.symm, h.2.symm, h.3.symm, h.4.symm, h.5.symm⟩

theorem trans {k : Flags} (h : f.Alike g) (h' : g.Alike k) : f.Alike k :=
  ⟨h.1.trans h'.1, h.2.trans h'.2, h.3.trans h'.3, h.4.trans h'.4, h.5.trans h'.5⟩

theorem folding (h : f.Alike g) : f.folding = g.folding := by
  rw [Flags.folding, Flags.folding, h.ignoreCase, h.ascii]

theorem within (h : f.Alike g) (add del : Flags) :
    (f.within add del).Alike (g.within add del) := by
  obtain ⟨h1, h2, h3, h4, h5⟩ := h
  unfold Flags.within
  split <;> constructor <;> simp [Flags.union, Flags.diff, h1, h2, h3, h4, h5]

end Flags.Alike

theorem Flags.eq_empty_of_union {f g : Flags} (h : f.union g = {}) : f = {} ∧ g = {} := by
  cases f
  cases g
  simp only [union, mk.injEq, Bool.or_eq_false_iff] at h
  simp [h]

/-- The width of a renumbered expression, if the groups have their widths under the new numbers. -/
theorem Regex.width_renumber {ρ : Nat → Nat} {groups groups' : Nat → Width}
    (h : ∀ n, groups' (ρ n) = groups n) (r : Regex) :
    (r.renumber ρ).width groups' = r.width groups := by
  induction r with
  | empty | char | anchor | look => rfl
  | seq a b iha ihb | alt a b iha ihb => rw [renumber, width, width, iha, ihb]
  | choice n a b iha ihb => rw [renumber, width, width, iha, ihb]
  | capture n r ih | atomic r ih | loop least most isLazy r ih => rw [renumber, width, width, ih]
  | reference n f => exact h n

/-! ## Two readings -/

/-- What stands around an expression in a larger pattern. -/
structure Surroundings where
  /-- The state that reading the larger pattern has come to before it. -/
  before : ReaderState
  /-- What stands behind the closing parenthesis of the group that it is the inside of. -/
  more : List Glyph
  /-- The state that reading it on its own ends in. -/
  final : ReaderState
  /-- Whether the larger pattern is allowed to be refused, be it for want of units. -/
  lenient : Prop

namespace Surroundings

open Wording.Pattern.Reader

variable (o : Surroundings)

/-- The number of groups before the expression. -/
abbrev offset : Nat := o.before.groupCount

/-- The number of a group in the larger pattern. -/
abbrev number : Nat → Nat := shift o.offset

/-- No reference by number goes to another group. -/
def Nameable : Prop := o.offset = 0 ∨ o.final.numbered = []

/-- The larger pattern has room for the expression. -/
structure Fits : Prop where
  nameable : o.Nameable
  fresh : ∀ p ∈ o.final.names, ∀ q ∈ o.before.names, q.1 ≠ p.1
  unflagged : o.final.flags = {}

/-- Why the second reading may fail. -/
def MayFail : Prop := o.lenient ∨ ¬ o.Fits

/-- The states of the two readings. -/
structure Beside (s t : ReaderState) : Prop where
  rest : t.rest = s.rest ++ .plain ')' :: o.more
  groupCount : t.groupCount = s.groupCount + o.offset
  names : t.names = s.names.map (fun p => (p.1, o.number p.2)) ++ o.before.names
  numbered : t.numbered = s.numbered ++ o.before.numbered
  closed : o.Nameable → ∀ n, (t.closed.find? (·.1 == o.number n)).map (·.2) =
    (s.closed.find? (·.1 == n)).map (·.2)
  behind : t.behind = s.behind.map (· + o.offset)
  flags : s.flags.Alike {} ∧ t.flags.Alike {}

theorem Beside.withBehind {o : Surroundings} {s t : ReaderState} (h : o.Beside s t)
    {b b' : Option Nat} (hb : b' = b.map (· + o.offset)) :
    o.Beside { s with behind := b } { t with behind := b' } :=
  ⟨h.rest, h.groupCount, h.names, h.numbered, h.closed, hb, h.flags⟩

/-- The results of the two readings. -/
structure Same (a b : Regex) : Prop where
  captures : ∀ n ∈ a.captures, 1 ≤ n ∧ n ≤ o.final.groupCount
  eq_renumber : o.Nameable → b = a.renumber o.number

/-- How `g` goes from `t` where the first reading has come to `a` and `s'`. `Overrun` allows that this
has come to its end. -/
inductive Meets {α β : Type} (Overrun : Prop) (R : α → β → Prop) (g : Reader β) (t : ReaderState)
    (a : α) (s' : ReaderState) : Prop where
  | overrun (h : Overrun) (hs : s'.rest = [])
  | refused (h : o.MayFail) (hg : g.run t = .error .malformed)
  | reads {b : β} {t' : ReaderState} (hg : Reads g t b t') (h : R a b) (hs : o.Beside s' t')

/-- Two readers that go on beside each other, with results that `R` relates. -/
def Alongside {α β : Type} (Overrun : Prop) (R : α → β → Prop) (f : Reader α) (g : Reader β) :
    Prop :=
  ∀ s a s' t, Reads f s a s' → o.Beside s t → Later s' o.final → o.Meets Overrun R g t a s'

variable {o} {α β γ δ : Type} {Overrun V : Prop} {R : α → β → Prop} {Q : γ → δ → Prop}

/-! ### Rules -/

theorem Meets.mono {R' : α → β → Prop} {g : Reader β} {t s' : ReaderState} {a : α}
    (h : o.Meets Overrun R g t a s') (hV : Overrun → V) (hR : ∀ b, R a b → R' a b) :
    o.Meets V R' g t a s' := by
  cases h with
  | overrun h hs => exact .overrun (hV h) hs
  | refused h hg => exact .refused h hg
  | reads hg h hs => exact .reads hg (hR _ h) hs

/-- Behind a reader that has succeeded. -/
theorem Meets.bind {f : Reader β} {g : β → Reader δ} {t t' s' : ReaderState} {b : β} {c : γ}
    (hf : Reads f t b t') (h : o.Meets Overrun Q (g b) t' c s') :
    o.Meets Overrun Q (f >>= g) t c s' := by
  cases h with
  | overrun h hs => exact .overrun h hs
  | refused h hg => exact .refused h ((run_bind_of_reads hf).trans hg)
  | reads hg h hs => exact .reads (reads_bind.mpr ⟨_, _, hf, hg⟩) h hs

/-- A reader that fails where nothing speaks against it is one that may fail. -/
theorem meets_of_fits {g : Reader β} (hmalformed : Malformed g) {t s' : ReaderState} {a : α}
    (hex : o.Fits → ∃ b t', Reads g t b t')
    (hrel : ∀ b t', Reads g t b t' → R a b ∧ o.Beside s' t') : o.Meets Overrun R g t a s' := by
  cases hrun : g.run t with
  | ok r => exact .reads hrun (hrel r.1 r.2 hrun).1 (hrel r.1 r.2 hrun).2
  | error e =>
    refine .refused (.inr fun hfits => ?_) (hmalformed t e hrun ▸ hrun)
    obtain ⟨b, t', hg⟩ := hex hfits
    exact nomatch hrun.symm.trans hg

theorem Alongside.mono {R' : α → β → Prop} {f : Reader α} {g : Reader β}
    (h : o.Alongside Overrun R f g) (hV : Overrun → V) (hR : ∀ a b, R a b → R' a b) :
    o.Alongside V R' f g :=
  fun s a s' t hf hs hlater => (h s a s' t hf hs hlater).mono hV (hR a)

theorem alongside_pure {a : α} {b : β} (h : R a b) :
    o.Alongside Overrun R (pure a) (pure b) := by
  intro s a' s' t hf hs _
  obtain ⟨rfl, rfl⟩ := reads_pure.mp hf
  exact .reads (reads_pure.mpr ⟨rfl, rfl⟩) h hs

theorem alongside_fail {g : Reader β} : o.Alongside Overrun R fail g :=
  fun _ _ _ _ h => absurd h not_reads_fail

theorem alongside_right_fail (h : o.MayFail) {f : Reader α} :
    o.Alongside Overrun R f (fail : Reader β) :=
  fun _ _ _ _ _ _ _ => .refused h rfl

/-- What both readers take alike. -/
theorem beside_of_local {f f' : Reader α} {s s' t : ReaderState} {a : α}
    (h : Local o.more f f') (hf : Reads f s a s') (hs : o.Beside s t) :
    ∃ t', Reads f' t a t' ∧ o.Beside s' t' := by
  obtain ⟨⟨_, hsame⟩, hlocal⟩ := h s a s' hf
  refine ⟨_, hlocal t hs.rest, ?_⟩
  rw [hsame]
  exact ⟨rfl, hs.groupCount, hs.names, hs.numbered, hs.closed, hs.behind, hs.flags⟩

/-- Behind what both readers take alike, if that satisfies `P`. -/
theorem Alongside.bind_yields {P : α → Prop} {f f' : Reader α} {g : α → Reader γ}
    {g' : α → Reader δ} (hf : Local o.more f f') (hP : Yields P f)
    (hg : ∀ a, P a → o.Alongside Overrun Q (g a) (g' a)) :
    o.Alongside Overrun Q (f >>= g) (f' >>= g') := by
  intro s c s'' t h hs hlater
  obtain ⟨a, s', ha, hc⟩ := reads_bind.mp h
  obtain ⟨t', hb, hs'⟩ := beside_of_local hf ha hs
  exact (hg a (hP s a s' ha) s' c s'' t' hc hs' hlater).bind hb

/-- Behind what both readers take alike. -/
theorem Alongside.bind_local {f f' : Reader α} {g : α → Reader γ} {g' : α → Reader δ}
    (hf : Local o.more f f') (hg : ∀ a, o.Alongside Overrun Q (g a) (g' a)) :
    o.Alongside Overrun Q (f >>= g) (f' >>= g') :=
  .bind_yields hf (yields_true f) fun a _ => hg a

/-- One reader behind the other; `hover` says what follows if the first one has come to its end. -/
theorem Meets.then {f' : Reader β} {g' : β → Reader δ} {s' s'' t : ReaderState} {a : α} {c : γ}
    (hf : o.Meets V R f' t a s') (hover : V → s'.rest = [] → Overrun ∧ s''.rest = [])
    (hg : ∀ b t', R a b → o.Beside s' t' → o.Meets Overrun Q (g' b) t' c s'') :
    o.Meets Overrun Q (f' >>= g') t c s'' := by
  cases hf with
  | overrun h hs => exact .overrun (hover h hs).1 (hover h hs).2
  | refused h hf => exact .refused h (run_bind_of_error hf)
  | reads hf hr hs => exact (hg _ _ hr hs).bind hf

theorem Alongside.bind {f : Reader α} {f' : Reader β} {g : α → Reader γ} {g' : β → Reader δ}
    (hf : o.Alongside Overrun R f f') (hon : ∀ a, Onward (g a))
    (hg : ∀ a b, R a b → o.Alongside Overrun Q (g a) (g' b)) :
    o.Alongside Overrun Q (f >>= g) (f' >>= g') := by
  intro s c s'' t h hs hlater
  obtain ⟨a, s', ha, hc⟩ := reads_bind.mp h
  have hgo : Later s' s'' := (hon a s' c s'' hc).toLater
  exact (hf s a s' t ha hs (hgo.trans hlater)).then (fun hover hnil => ⟨hover, hgo.rest_eq_nil hnil⟩)
    fun b t' hr hs' => hg a b hr s' c s'' t' hc hs' hlater

theorem alongside_ite {p : Prop} [Decidable p] {f g : Reader α} {f' g' : Reader β}
    (hf : p → o.Alongside Overrun R f f') (hg : ¬ p → o.Alongside Overrun R g g') :
    o.Alongside Overrun R (if p then f else g) (if p then f' else g') := by
  split
  · exact hf ‹_›
  · exact hg ‹_›

/-- What is refused by the first reader or by the second one need not be looked at. -/
theorem alongside_refuse {p : Prop} [Decidable p] {f : PUnit → Reader α} {f' : PUnit → Reader β}
    {g : Reader α} {g' : Reader β} (hg : ¬ p → o.Alongside Overrun R g g') :
    o.Alongside Overrun R (if p then fail >>= f else g) (if p then fail >>= f' else g') :=
  alongside_ite (fun _ _ _ _ _ h => absurd h nofun) hg

/-- `f` succeeds only if something is left. -/
def Needs (f : Reader α) : Prop := ∀ s a s', Reads f s a s' → s.rest ≠ []

theorem Needs.bind {f : Reader α} {g : α → Reader β} (hf : Onward f) (hg : ∀ a, Needs (g a)) :
    Needs (f >>= g) := by
  intro s b s'' h hnil
  obtain ⟨a, s', ha, hb⟩ := reads_bind.mp h
  exact hg a s' b s'' hb ((hf s a s' ha).rest_eq_nil hnil)

theorem Needs.then {f : Reader α} (hf : Needs f) (g : α → Reader β) : Needs (f >>= g) := by
  intro s b s'' h
  obtain ⟨a, s', ha, _⟩ := reads_bind.mp h
  exact hf s a s' ha

theorem needs_expect : Needs (expect ')') := by
  intro s u s' h hnil
  rw [(reads_expect.mp h).1] at hnil
  cases hnil

/-- Where more is needed, the first reader has not come to its end. -/
theorem Alongside.bind_needs {f : Reader α} {f' : Reader β} {g : α → Reader γ} {g' : β → Reader δ}
    (hf : o.Alongside V R f f') (hon : ∀ a, Onward (g a)) (hneeds : ∀ a, Needs (g a))
    (hg : ∀ a b, R a b → o.Alongside Overrun Q (g a) (g' b)) :
    o.Alongside Overrun Q (f >>= g) (f' >>= g') := by
  intro s c s'' t h hs hlater
  obtain ⟨a, s', ha, hc⟩ := reads_bind.mp h
  have hgo : Later s' s'' := (hon a s' c s'' hc).toLater
  exact (hf s a s' t ha hs (hgo.trans hlater)).then
    (fun _ hnil => absurd hnil (hneeds a s' c s'' hc))
    fun b t' hr hs' => hg a b hr s' c s'' t' hc hs' hlater

/-- An expression up to the end of its group, where the first reader has not come to its end. -/
theorem Alongside.then_expect {f : Reader α} {f' : Reader β} {g : α → γ} {g' : β → δ}
    (hf : o.Alongside V R f f') (hg : ∀ a b, R a b → Q (g a) (g' b)) :
    o.Alongside Overrun Q
      (do
        let a ← f
        expect ')'
        return g a)
      (do
        let b ← f'
        expect ')'
        return g' b) :=
  hf.bind_needs (fun _ => onward_expect.bind fun _ => onward_pure _)
    (fun _ => needs_expect.then _)
    fun a b h => .bind_local local_expect fun _ => alongside_pure (hg a b h)

/-- At the end of the expression alone, the closing parenthesis of the group is next. -/
theorem alongside_peek {g : Option Glyph → Reader γ} {g' : Option Glyph → Reader δ}
    (hend : o.Alongside Overrun Q (g none) (g' (some (.plain ')'))))
    (h : ∀ x, o.Alongside Overrun Q (g (some x)) (g' (some x))) :
    o.Alongside Overrun Q (peek >>= g) (peek >>= g') := by
  intro s c s' t hf hs hlater
  obtain ⟨x, u, hpeek, hf⟩ := reads_bind.mp hf
  obtain ⟨rfl, hne, rfl⟩ := reads_peek.mp hpeek
  have hpeek' : Reads peek t t.rest.head? t :=
    reads_peek.mpr ⟨rfl, hs.rest ▸ head?_ne_dangling hne, rfl⟩
  refine Meets.bind hpeek' ?_
  rw [hs.rest]
  cases hr : u.rest with
  | nil =>
    rw [hr] at hf
    exact hend u c s' t hf hs hlater
  | cons z r =>
    rw [hr] at hf
    exact h z u c s' t hf hs hlater

theorem alongside_remaining {g : Nat → Reader γ} {g' : Nat → Reader δ}
    (h : ∀ n m, n ≤ m → o.Alongside Overrun Q (g n) (g' m)) :
    o.Alongside Overrun Q (remaining >>= g) (remaining >>= g') := by
  intro s c s' t hf hs hlater
  obtain ⟨n, u, hn, hf⟩ := reads_bind.mp hf
  obtain ⟨rfl, rfl⟩ := reads_remaining.mp hn
  have hle : u.rest.length ≤ t.rest.length := by
    rw [hs.rest, List.length_append]
    exact Nat.le_add_right _ _
  exact (h _ _ hle u c s' t hf hs hlater).bind (reads_remaining.mpr ⟨rfl, rfl⟩)

/-- On its own, an expression has the flags of the whole pattern, which are none that matter. -/
theorem alongside_flags {g : ReaderState → Reader γ} {g' : Reader δ}
    (h : ∀ s : ReaderState, s.flags.Alike {} → o.Alongside Overrun Q (g s) g') :
    o.Alongside Overrun Q (get >>= g) g' :=
  fun s c s' t hf hs hlater => h s hs.flags.1 s c s' t (reads_get_bind.mp hf) hs hlater

/-! ### Results -/

namespace Same

variable {a b c d : Regex}

theorem of_no_groups (hcaptures : a.captures = []) (h : a.renumber o.number = a) :
    o.Same a a where
  captures n hn := by
    rw [hcaptures] at hn
    cases hn
  eq_renumber _ := h.symm

theorem empty : o.Same .empty .empty := of_no_groups rfl rfl

theorem char (set : CharSet) : o.Same (.char set) (.char set) := of_no_groups rfl rfl

theorem anchor (a : Anchor) : o.Same (.anchor a) (.anchor a) := of_no_groups rfl rfl

theorem seq (h : o.Same a b) (h' : o.Same c d) : o.Same (.seq a c) (.seq b d) where
  captures n hn := (List.mem_append.mp hn).elim (h.captures n) (h'.captures n)
  eq_renumber hname := by rw [h.eq_renumber hname, h'.eq_renumber hname]; rfl

theorem alt (h : o.Same a b) (h' : o.Same c d) : o.Same (.alt a c) (.alt b d) where
  captures n hn := (List.mem_append.mp hn).elim (h.captures n) (h'.captures n)
  eq_renumber hname := by rw [h.eq_renumber hname, h'.eq_renumber hname]; rfl

theorem capture {n : Nat} (hn : 1 ≤ n ∧ n ≤ o.final.groupCount) (h : o.Same a b) :
    o.Same (.capture n a) (.capture (o.number n) b) where
  captures k hk := by
    obtain rfl | hk := List.mem_cons.mp hk
    · exact hn
    · exact h.captures k hk
  eq_renumber hname := by rw [h.eq_renumber hname]; rfl

theorem reference {n m : Nat} (h : o.Nameable → m = o.number n) (f : Folding) :
    o.Same (.reference n f) (.reference m f) where
  captures _ hk := by cases hk
  eq_renumber hname := by rw [h hname]; rfl

theorem loop (h : o.Same a b) (least : Nat) (most : Option Nat) (isLazy : Bool) :
    o.Same (.loop least most isLazy a) (.loop least most isLazy b) where
  captures := h.captures
  eq_renumber hname := by rw [h.eq_renumber hname]; rfl

theorem atomic (h : o.Same a b) : o.Same (.atomic a) (.atomic b) where
  captures := h.captures
  eq_renumber hname := by rw [h.eq_renumber hname]; rfl

theorem look (h : o.Same a b) {behind behind' : Option Nat}
    (hb : o.Nameable → behind' = behind) (negated : Bool) :
    o.Same (.look behind negated a) (.look behind' negated b) where
  captures := h.captures
  eq_renumber hname := by rw [h.eq_renumber hname, hb hname]; rfl

theorem choice {n m : Nat} (hn : o.Nameable → m = o.number n) (h : o.Same a b)
    (h' : o.Same c d) : o.Same (.choice n a c) (.choice m b d) where
  captures k hk := (List.mem_append.mp hk).elim (h.captures k) (h'.captures k)
  eq_renumber hname := by rw [h.eq_renumber hname, h'.eq_renumber hname, hn hname]; rfl

theorem ofList {rs rs' : List Regex} (h : List.Forall₂ o.Same rs rs') :
    o.Same (.ofList rs) (.ofList rs') := by
  induction h with
  | nil => exact empty
  | cons h hs ih =>
    cases hs with
    | nil => exact h
    | cons h' hs => exact h.seq ih

theorem alternatives {rs rs' : List Regex} (h : List.Forall₂ o.Same rs rs') :
    o.Same (.alternatives rs) (.alternatives rs') := by
  induction h with
  | nil => exact empty
  | cons h hs ih =>
    cases hs with
    | nil => exact h
    | cons h' hs => exact h.alt ih

end Same

/-- Pieces of one kind with such expressions. -/
inductive SamePiece (o : Surroundings) : Piece → Piece → Prop where
  | anchor {a b : Regex} (h : o.Same a b) : SamePiece o (.anchor a) (.anchor b)
  | loop {a b : Regex} (h : o.Same a b) : SamePiece o (.loop a) (.loop b)
  | other {a b : Regex} (h : o.Same a b) : SamePiece o (.other a) (.other b)

theorem SamePiece.regex {p q : Piece} (h : SamePiece o p q) : o.Same p.regex q.regex := by
  cases h <;> assumption

theorem same_joined {ps qs : List Piece} (h : List.Forall₂ (SamePiece o) ps qs) :
    o.Same (Piece.joined ps) (Piece.joined qs) := by
  refine .ofList ?_
  rw [List.forall₂_map_left_iff, List.forall₂_map_right_iff]
  exact (List.rel_reverse h).imp fun _ _ => SamePiece.regex

/-- What a group becomes on both sides. -/
inductive SameResult (o : Surroundings) : GroupResult → GroupResult → Prop where
  | piece {p q : Piece} (h : SamePiece o p q) : SameResult o (.piece p) (.piece q)
  | nothing : SameResult o .nothing .nothing
  | flags {f : Flags} (hf : f ≠ {}) : SameResult o (.global f) (.global f)

/-! ### Groups and references -/

theorem Beside.isSome_closed {s t : ReaderState} (hs : o.Beside s t) (hname : o.Nameable)
    (n : Nat) : (t.closed.find? (·.1 == o.number n)).isSome = (s.closed.find? (·.1 == n)).isSome := by
  have := congrArg Option.isSome (hs.closed hname n)
  rwa [Option.isSome_map, Option.isSome_map] at this

/-- A group that is not behind the start of a look behind is not so in the larger pattern. -/
theorem Beside.le_behind {s t : ReaderState} (hs : o.Beside s t) {n : Nat}
    (h : ∀ limit, s.behind = some limit → n ≤ limit) :
    ∀ limit, t.behind = some limit → o.number n ≤ limit := by
  intro limit hlimit
  rw [hs.behind] at hlimit
  obtain ⟨l, hl, rfl⟩ := Option.map_eq_some_iff.mp hlimit
  have := h l hl
  obtain hzero | hpos := Nat.eq_zero_or_pos n
  · rw [number, hzero]
    exact Nat.zero_le _
  · rw [number, shift_of_pos hpos]
    omega

theorem alongside_checkReference {n m : Nat} (h : o.Nameable → m = o.number n) :
    o.Alongside Overrun (fun _ _ => True) (checkReference n) (checkReference m) := by
  intro s a s' t hf hs _
  obtain ⟨hclosed, hle, rfl⟩ := reads_checkReference.mp hf
  refine meets_of_fits (malformed_checkReference m) (fun hfits => ?_) fun b t' hg => ?_
  · rw [h hfits.nameable]
    exact ⟨⟨⟩, t, reads_checkReference.mpr
      ⟨hs.isSome_closed hfits.nameable n ▸ hclosed, hs.le_behind hle, rfl⟩⟩
  · rw [(reads_checkReference.mp hg).2.2]
    exact ⟨trivial, hs⟩

theorem alongside_checkBehind {n m : Nat} (h : o.Nameable → m = o.number n) :
    o.Alongside Overrun (fun _ _ => True) (checkBehind n) (checkBehind m) := by
  intro s a s' t hf hs _
  obtain ⟨hlimit, rfl⟩ := reads_checkBehind.mp hf
  refine meets_of_fits (malformed_checkBehind m) (fun hfits => ?_) fun b t' hg => ?_
  · rw [h hfits.nameable]
    refine ⟨⟨⟩, t, reads_checkBehind.mpr ⟨fun limit hl => ⟨?_, ?_⟩, rfl⟩⟩
    · rw [hs.behind] at hl
      obtain ⟨l, hl, -⟩ := Option.map_eq_some_iff.mp hl
      rw [hs.isSome_closed hfits.nameable]
      exact (hlimit l hl).1
    · exact hs.le_behind (fun l hl => (hlimit l hl).2) limit hl
  · rw [(reads_checkBehind.mp hg).2]
    exact ⟨trivial, hs⟩

/-- A name goes to the same group. -/
theorem alongside_groupNamed (name : String) :
    o.Alongside Overrun (fun n m => m = o.number n) (groupNamed name) (groupNamed name) := by
  intro s n s' t hf hs _
  obtain ⟨hn, rfl⟩ := reads_groupNamed.mp hf
  obtain ⟨p, hp, rfl⟩ := Option.map_eq_some_iff.mp hn
  refine .reads (reads_groupNamed.mpr ⟨?_, rfl⟩) rfl hs
  have heq : ((fun q : String × Nat => q.1 == name) ∘ fun p : String × Nat => (p.1, o.number p.2)) =
      fun q => q.1 == name := rfl
  rw [hs.names, List.find?_append, List.find?_map, heq, hp]
  rfl

/-- A number that is noted at the end goes to the same group if it may. -/
theorem number_eq_of_mem {n : Nat} (h : n ∈ o.final.numbered) (hname : o.Nameable) :
    n = o.number n := by
  obtain hzero | hnil := hname
  · rw [number, hzero, shift_zero]
    rfl
  · rw [hnil] at h
    cases h

theorem alongside_noteNumber (n : Nat) :
    o.Alongside Overrun (fun _ _ => o.Nameable → n = o.number n) (noteNumber n) (noteNumber n) := by
  intro s a s' t hf hs hlater
  have hs' := reads_modify.mp hf
  refine .reads (b := ⟨⟩) (reads_modify.mpr rfl) (number_eq_of_mem (hlater.numbered n ?_)) ?_
  · rw [hs']
    exact List.mem_cons_self
  · rw [hs']
    exact ⟨hs.rest, hs.groupCount, hs.names, congrArg (n :: ·) hs.numbered, hs.closed, hs.behind, hs.flags⟩

theorem alongside_openGroup (name : Option String) :
    o.Alongside Overrun (fun n m => m = o.number n ∧ 1 ≤ n ∧ n ≤ o.final.groupCount)
      (openGroup name) (openGroup name) := by
  intro s n s' t hf hs hlater
  obtain ⟨hnew, hn, hs'⟩ := reads_openGroup.mp hf
  refine meets_of_fits (malformed_openGroup name) (fun hfits => ⟨_, _, reads_openGroup.mpr ⟨fun x hx => ?_, rfl, rfl⟩⟩)
    fun m t' hg => ?_
  -- The name is one that is known at the end, so no group before the expression has it.
  · have hfinal : (x, n) ∈ o.final.names := by
      refine hlater.names ?_
      rw [hs', hx]
      exact List.mem_cons_self
    have hbefore : o.before.names.find? (·.1 == x) = none := by
      rw [List.find?_eq_none]
      exact fun q hq heq => hfits.fresh _ hfinal q hq (beq_iff_eq.mp heq)
    have heq : ((fun q : String × Nat => q.1 == x) ∘ fun p : String × Nat => (p.1, o.number p.2)) =
        fun q => q.1 == x := rfl
    rw [hs.names, List.find?_append, List.find?_map, heq, hnew x hx, hbefore]
    rfl
  · obtain ⟨-, hm, ht'⟩ := reads_openGroup.mp hg
    have hnumber : m = o.number n := by
      rw [number, shift_of_pos (by omega), hm, hn, hs.groupCount]
      omega
    have hle := hlater.groupCount_le
    rw [hs'] at hle
    refine ⟨⟨hnumber, by omega, hle⟩, ?_⟩
    rw [hs', ht']
    refine ⟨hs.rest, ?_, ?_, hs.numbered, hs.closed, hs.behind, hs.flags⟩
    · simp only
      rw [hm, hn, hs.groupCount]
      omega
    · simp only
      rw [hs.names, hnumber]
      cases name <;> rfl

theorem knownWidth_eq {s t : ReaderState} (hs : o.Beside s t) {r r' : Regex} (hr : o.Same r r')
    (hname : o.Nameable) : knownWidth t r' = knownWidth s r := by
  rw [hr.eq_renumber hname]
  exact Regex.width_renumber (fun n => by rw [hs.closed hname n]) r

theorem alongside_closeGroup {n : Nat} {r r' : Regex} (hr : o.Same r r') :
    o.Alongside Overrun (fun _ _ => True) (closeGroup n r) (closeGroup (o.number n) r') := by
  intro s a s' t hf hs _
  rw [reads_closeGroup.mp hf]
  refine .reads (b := ⟨⟩) (reads_closeGroup.mpr rfl) trivial
    ⟨hs.rest, hs.groupCount, hs.names, hs.numbered, fun hname k => ?_, hs.behind, hs.flags⟩
  simp only [List.find?_cons]
  by_cases hk : n = k
  · rw [hk, beq_self_eq_true, beq_self_eq_true]
    simp only [Option.map_some, knownWidth_eq hs hr hname]
  · have hk' : (o.number n == o.number k) = false := by
      rw [beq_eq_false_iff_ne]
      exact fun h => hk (shift_injective _ h)
    rw [hk', beq_eq_false_iff_ne.mpr hk]
    exact hs.closed hname k

theorem alongside_fixedWidth {r r' : Regex} (hr : o.Same r r') :
    o.Alongside Overrun (fun n m => o.Nameable → m = n) (fixedWidth r) (fixedWidth r') := by
  intro s n s' t hf hs _
  obtain ⟨hfixed, hn, rfl⟩ := reads_fixedWidth.mp hf
  refine meets_of_fits (malformed_fixedWidth r') (fun hfits => ?_) fun m t' hg => ?_
  · rw [← knownWidth_eq hs hr hfits.nameable] at hfixed
    exact ⟨_, t, reads_fixedWidth.mpr ⟨hfixed, rfl, rfl⟩⟩
  · obtain ⟨-, hm, rfl⟩ := reads_fixedWidth.mp hg
    exact ⟨fun hname => by rw [hm, hn, knownWidth_eq hs hr hname], hs⟩

theorem alongside_groupOf (name : List Char) :
    o.Alongside Overrun (fun n m => o.Nameable → m = o.number n) (groupOf name) (groupOf name) := by
  refine alongside_ite (fun _ => (alongside_groupNamed _).mono id fun _ _ h _ => h) fun _ => ?_
  split
  · exact (alongside_noteNumber _).bind (fun _ => onward_pure _) fun _ _ h => alongside_pure h
  · exact alongside_fail

theorem alongside_conditionGroup :
    o.Alongside Overrun (fun n m => o.Nameable → m = o.number n) conditionGroup conditionGroup :=
  .bind_local (local_nameUntil ')') alongside_groupOf

/-! ### Escapes -/

theorem alongside_reference {flags flags' : Flags} (h : flags.Alike flags') (n : Nat) :
    o.Alongside Overrun (fun a b => SamePiece o (.ofRegex a) (.ofRegex b)) (reference flags n)
      (reference flags' n) := by
  intro s a s' t hf hs hlater
  -- That the number goes to the same group is seen from the end only, where it is noted.
  have hn : n ∈ o.final.numbered := by
    obtain ⟨_, s₁, -, hf⟩ := reads_bind.mp hf
    obtain ⟨_, s₂, hnote, hf⟩ := reads_bind.mp hf
    obtain ⟨-, rfl⟩ := reads_pure.mp hf
    refine hlater.numbered n ?_
    rw [reads_modify.mp hnote]
    exact List.mem_cons_self
  refine (alongside_checkReference (number_eq_of_mem hn)).bind (fun _ => (onward_noteNumber n).bind
    fun _ => onward_pure _) (fun _ _ _ => (alongside_noteNumber n).bind (fun _ => onward_pure _)
      fun _ _ hn => alongside_pure ?_) s a s' t hf hs hlater
  rw [h.folding]
  exact .other (.reference hn _)

theorem alongside_octalCharacter {flags flags' : Flags} (h : flags.Alike flags') (code : Nat) :
    o.Alongside Overrun (fun a b => SamePiece o (.ofRegex a) (.ofRegex b))
      (octalCharacter flags code) (octalCharacter flags' code) :=
  alongside_refuse fun _ => alongside_pure (by rw [h.folding]; exact .other (.char _))

theorem alongside_numberEscape {flags flags' : Flags} (h : flags.Alike flags') (c : Char) :
    o.Alongside Overrun (fun a b => SamePiece o (.ofRegex a) (.ofRegex b)) (numberEscape flags c)
      (numberEscape flags' c) := by
  refine alongside_ite (fun _ => .bind_local (local_takeUpTo (by decide) 2) fun _ =>
    alongside_octalCharacter h _) fun _ => .bind_local (local_takeUpTo (by decide) 1) fun ds => ?_
  split
  · refine alongside_ite (fun _ => .bind_local (local_takeUpTo (by decide) 1) fun es => ?_)
      fun _ => alongside_reference h _
    split
    · exact alongside_octalCharacter h _
    · exact alongside_reference h _
  · exact alongside_reference h _

theorem alongside_escape {flags flags' : Flags} (h : flags.Alike flags') (c : Char) :
    o.Alongside Overrun (fun a b => SamePiece o (.ofRegex a) (.ofRegex b)) (escape flags c)
      (escape flags' c) := by
  unfold escape
  rw [h.ascii, h.folding]
  split
  · exact alongside_pure (.other (.char _))
  · exact alongside_ite (fun _ => alongside_pure (.anchor (.anchor _))) fun _ =>
      alongside_ite (fun _ => alongside_pure (.anchor (.anchor _))) fun _ =>
      alongside_ite (fun _ => alongside_pure (.anchor (.anchor _))) fun _ =>
      alongside_ite (fun _ => alongside_pure (.anchor (.anchor _))) fun _ =>
      alongside_ite (fun _ => alongside_numberEscape h c) fun _ =>
      .bind_local (local_characterEscape c) fun _ => alongside_pure (.other (.char _))

theorem alongside_charSet {flags flags' : Flags} (h : flags.Alike flags') :
    o.Alongside Overrun o.Same (charSet flags) (charSet flags') := by
  unfold charSet
  rw [h.ascii, h.folding]
  exact .bind_local (local_accept (by decide)) fun _ => alongside_remaining fun _ _ h =>
    .bind_local (local_setItems _ (Nat.succ_le_succ h) true) fun _ => alongside_pure (.char _)

/-! ### Pieces -/

theorem alongside_elseBranch {f f' : Reader Regex} (h : o.Alongside Overrun o.Same f f') :
    o.Alongside Overrun o.Same (elseBranch f) (elseBranch f') :=
  .bind_local (local_accept (by decide)) fun _ => alongside_ite (fun _ => h)
    fun _ => alongside_pure .empty

theorem alongside_repeatLast (least : Nat) (most : Option Nat) {acc acc' : List Piece}
    (h : List.Forall₂ (SamePiece o) acc acc') :
    o.Alongside Overrun (List.Forall₂ (SamePiece o)) (repeatLast least most acc)
      (repeatLast least most acc') := by
  cases h with
  | nil => exact alongside_fail
  | cons hp hps =>
    cases hp with
    | anchor => exact alongside_fail
    | loop => exact alongside_fail
    | other hr =>
      exact .bind_local (local_accept (by decide)) fun _ => alongside_ite
        (fun _ => alongside_pure (.cons (.loop (hr.loop _ _ _)) hps)) fun _ =>
          .bind_local (local_accept (by decide)) fun _ => alongside_ite
            (fun _ => alongside_pure (.cons (.loop (hr.loop _ _ _).atomic) hps)) fun _ =>
              alongside_pure (.cons (.loop (hr.loop _ _ _)) hps)

theorem skipUpTo_beside {n m : Nat} {s s' t : ReaderState} {u : Unit}
    (hn : s.rest.length < n) (hm : t.rest.length < m) (hs : o.Beside s t)
    (hf : Reads (skipUpTo n) s u s') :
    s'.rest = [] ∨ ∃ t', Reads (skipUpTo m) t ⟨⟩ t' ∧ o.Beside s' t' := by
  induction n generalizing m s t with
  | zero => omega
  | succ n ih =>
    cases m with
    | zero => omega
    | succ m =>
      obtain ⟨g, s₁, hnext, hf⟩ := reads_bind.mp hf
      obtain ⟨rfl, hne, rfl⟩ := reads_next?.mp hnext
      have hrest := hs.rest
      cases hr : s.rest with
      | nil =>
        -- Alone the comment is the last thing, and what the other reader does is of no account.
        rw [hr] at hf
        obtain ⟨-, rfl⟩ := reads_pure.mp hf
        exact .inl rfl
      | cons g r =>
        rw [hr, List.cons_append] at hrest
        rw [hr] at hf hn hne
        rw [hrest] at hm
        have hstep : o.Beside (s.withRest r) (t.withRest (r ++ .plain ')' :: o.more)) :=
          ⟨rfl, hs.groupCount, hs.names, hs.numbered, hs.closed, hs.behind, hs.flags⟩
        have hnext' : Reads next? t (some g) (t.withRest (r ++ .plain ')' :: o.more)) := by
          refine reads_next?.mpr ⟨?_, hne, ?_⟩ <;> rw [hrest] <;> rfl
        simp only [List.head?_cons, List.drop_one, List.tail_cons] at hf
        by_cases hg' : g = .plain '\n'
        · rw [if_pos hg'] at hf
          obtain ⟨-, rfl⟩ := reads_pure.mp hf
          refine .inr ⟨_, reads_bind.mpr ⟨_, _, hnext', ?_⟩, hstep⟩
          dsimp only
          rw [if_pos hg']
          exact reads_pure.mpr ⟨rfl, rfl⟩
        · rw [if_neg hg'] at hf
          refine (ih (Nat.lt_of_succ_lt_succ hn) (Nat.lt_of_succ_lt_succ hm) hstep hf).imp_right ?_
          rintro ⟨t', ht', hs'⟩
          refine ⟨t', reads_bind.mpr ⟨_, _, hnext', ?_⟩, hs'⟩
          dsimp only
          rwa [if_neg hg']

/-- A comment up to the end of the line; on its own it may be the last thing. -/
theorem alongside_skipLine : o.Alongside True (fun _ _ => True) skipLine skipLine := by
  intro s u s' t hf hs _
  obtain ⟨n, s₁, hn, hf⟩ := reads_bind.mp hf
  obtain ⟨rfl, rfl⟩ := reads_remaining.mp hn
  obtain hnil | ⟨t', ht', hs'⟩ :=
    skipUpTo_beside (Nat.lt_succ_self _) (Nat.lt_succ_self _) hs hf
  · exact .overrun trivial hnil
  · exact .reads (reads_bind.mpr ⟨_, t, reads_remaining.mpr ⟨rfl, rfl⟩, ht'⟩) trivial hs'

/-- Flags for the whole pattern are set. -/
theorem flags_of_reads_place {flags f : Flags} {top : Bool} {acc : List Piece}
    {r : List Piece × Flags} {s s' : ReaderState}
    (h : Reads (place flags top acc (.global f)) s r s') : s'.flags = s.flags.union f := by
  unfold place at h
  dsimp only at h
  split at h
  · exact absurd h nofun
  · obtain ⟨_, s₁, hset, h⟩ := reads_bind.mp h
    obtain ⟨_, _, hget, h⟩ := reads_bind.mp h
    rw [(reads_pure.mp h).2, (reads_get.mp hget).2, reads_modify.mp hset]

/-- Flags for the whole pattern are refused within a larger one. -/
theorem alongside_place {flags flags' : Flags} {top : Bool} {acc acc' : List Piece}
    (hacc : List.Forall₂ (SamePiece o) acc acc') {result result' : GroupResult}
    (h : SameResult o result result') :
    o.Alongside Overrun
      (fun r r' => List.Forall₂ (SamePiece o) r.1 r'.1 ∧ r.2 = flags ∧ r'.2 = flags')
      (place flags top acc result) (place flags' false acc' result') := by
  cases h with
  | piece h => exact alongside_pure ⟨.cons h hacc, rfl, rfl⟩
  | nothing => exact alongside_pure ⟨hacc, rfl, rfl⟩
  | @flags f hf =>
    -- The flags would still be set at the end.
    intro s r s' t hplace hs hlater
    refine .refused (.inr fun hfits => hf ?_) rfl
    obtain ⟨g, hg⟩ := hlater.flags
    rw [flags_of_reads_place hplace, hfits.unflagged] at hg
    exact Flags.eq_empty_of_union (Flags.eq_empty_of_union hg.symm).1 |>.2

/-- One more glyph. -/
theorem alongside_take {group group' : Flags → Reader GroupResult} {flags flags' : Flags}
    (hflags : flags.Alike flags')
    (hgroup : o.Alongside (flags.verbose = true) (SameResult o) (group flags) (group' flags'))
    (top : Bool) {acc acc' : List Piece} (hacc : List.Forall₂ (SamePiece o) acc acc') (g : Glyph) :
    o.Alongside (flags.verbose = true)
      (fun r r' => List.Forall₂ (SamePiece o) r.1 r'.1 ∧ r.2 = flags ∧ r'.2 = flags')
      (take group flags top acc g) (take group' flags' false acc' g) := by
  have hrepeat : ∀ least most, o.Alongside (flags.verbose = true)
      (fun r r' => List.Forall₂ (SamePiece o) r.1 r'.1 ∧ r.2 = flags ∧ r'.2 = flags')
      (do return (← repeatLast least most acc, flags))
      (do return (← repeatLast least most acc', flags')) :=
    fun least most => (alongside_repeatLast least most hacc).bind (fun _ => onward_pure _)
      fun _ _ h => alongside_pure ⟨h, rfl, rfl⟩
  cases g with
  | dangling => exact alongside_fail
  | escaped c =>
    exact (alongside_escape hflags c).bind (fun _ => onward_pure _) fun _ _ h =>
      alongside_pure ⟨.cons h hacc, rfl, rfl⟩
  | plain c =>
    unfold take
    rw [← hflags.verbose, ← hflags.dotAll, ← hflags.multiline, ← hflags.folding]
    refine alongside_ite (fun _ => alongside_pure ⟨hacc, rfl, rfl⟩) fun _ =>
      alongside_ite (fun h => ?_) fun _ =>
      alongside_ite (fun _ => hrepeat _ _) fun _ => alongside_ite (fun _ => hrepeat _ _) fun _ =>
      alongside_ite (fun _ => hrepeat _ _) fun _ => alongside_ite (fun _ => ?_) fun _ =>
      alongside_ite (fun _ => ?_) fun _ =>
      alongside_ite (fun _ => alongside_pure ⟨.cons (.other (.char _)) hacc, rfl, rfl⟩) fun _ =>
      alongside_ite (fun _ => alongside_pure ⟨.cons (.anchor (.anchor _)) hacc, rfl, rfl⟩) fun _ =>
      alongside_ite (fun _ => alongside_pure ⟨.cons (.anchor (.anchor _)) hacc, rfl, rfl⟩) fun _ =>
      alongside_ite (fun _ => ?_) fun _ =>
        alongside_pure ⟨.cons (.other (.char _)) hacc, rfl, rfl⟩
    -- A comment up to the end of the line, which only a verbose pattern has.
    · exact (alongside_skipLine.mono (fun _ => h.1) fun _ _ h => h).bind (fun _ => onward_pure _)
        fun _ _ _ => alongside_pure ⟨hacc, rfl, rfl⟩
    -- Counts, or a brace that stands for itself.
    · refine .bind_local local_counts? fun counts => ?_
      cases counts with
      | none => exact alongside_pure ⟨.cons (.other (.char _)) hacc, rfl, rfl⟩
      | some c => exact hrepeat _ _
    -- A set.
    · exact (alongside_charSet hflags).bind (fun _ => onward_pure _) fun _ _ h =>
        alongside_pure ⟨.cons (.other h) hacc, rfl, rfl⟩
    -- A group.
    · exact hgroup.bind (onward_place flags top acc) fun _ _ h => alongside_place hacc h

/-! ### Expressions -/

/-- The second reader has no fewer units than the first one, if that matters. -/
def Enough (o : Surroundings) (n m : Nat) : Prop := o.lenient ∨ n ≤ m

theorem Enough.pred {n m : Nat} (h : o.Enough (n + 1) (m + 1)) : o.Enough n m :=
  h.imp_right Nat.le_of_succ_le_succ

theorem Enough.mayFail {n : Nat} (h : o.Enough (n + 1) 0) : o.MayFail :=
  .inl (h.resolve_right (Nat.not_succ_le_zero n))

mutual

theorem alongside_alternatives : (n : Nat) → (m : Nat) → o.Enough n m → {flags flags' : Flags} →
    flags.Alike flags' → {top : Bool} → (top = true → flags.Alike {}) →
    o.Alongside (flags.verbose = true) o.Same (alternatives n flags top)
      (alternatives m flags' false)
  | 0, _, _, _, _, _, _, _ => alongside_fail
  | _ + 1, 0, hn, _, _, _, _, _ => alongside_right_fail hn.mayFail
  | n + 1, m + 1, hn, flags, flags', hflags, top, htop => by
    have hmore : ∀ {a b : Regex} {fs fs' : Flags}, o.Same a b → fs.Alike fs' →
        (fs.verbose = true → flags.verbose = true) → o.Alongside (flags.verbose = true) o.Same
          (do return Regex.alternatives (a :: (← moreAlternatives n fs)))
          (do return Regex.alternatives (b :: (← moreAlternatives m fs'))) := by
      intro a b fs fs' hab hfs hverbose
      exact ((alongside_moreAlternatives n m hn.pred hfs).mono hverbose fun _ _ h => h).bind
        (fun _ => onward_pure _) fun _ _ hs => alongside_pure (.alternatives (.cons hab hs))
    refine (alongside_sequence n m hn.pred hflags htop .nil).bind (fun _ => ?_) fun a b hab => ?_
    -- What follows the first alternative goes on.
    · refine onward_ite (fun _ => onward_get.bind fun _ => (onward_pure _).bind ?_)
        fun _ => (onward_pure _).bind ?_
      all_goals exact fun flags => (onward_moreAlternatives n flags).bind fun _ => onward_pure _
    · cases top with
      | false =>
        exact alongside_ite (fun h => absurd h Bool.false_ne_true) fun _ => by
          simp only [pure_bind]
          exact hmore hab hflags id
      | true =>
        -- On its own the others have the flags of the whole pattern.
        have hnone := htop rfl
        simp only [if_true, Bool.false_eq_true, if_false, pure_bind]
        refine alongside_flags fun s hs => hmore hab ?_ ?_
        · exact hs.trans (hnone.symm.trans hflags)
        · rw [hs.verbose]
          exact nofun

theorem alongside_moreAlternatives : (n : Nat) → (m : Nat) → o.Enough n m → {flags flags' : Flags} →
    flags.Alike flags' →
    o.Alongside (flags.verbose = true) (List.Forall₂ o.Same) (moreAlternatives n flags)
      (moreAlternatives m flags')
  | 0, _, _, _, _, _ => alongside_fail
  | _ + 1, 0, hn, _, _, _ => alongside_right_fail hn.mayFail
  | n + 1, m + 1, hn, flags, flags', hflags =>
    .bind_local (local_accept (by decide)) fun _ => alongside_ite
      (fun _ => (alongside_sequence n m hn.pred hflags (absurd · Bool.false_ne_true) .nil).bind
        (fun _ => (onward_moreAlternatives n flags).bind fun _ => onward_pure _) fun _ _ h =>
          (alongside_moreAlternatives n m hn.pred hflags).bind (fun _ => onward_pure _) fun _ _ hs =>
            alongside_pure (List.Forall₂.cons h hs))
      fun _ => alongside_pure List.Forall₂.nil

theorem alongside_sequence : (n : Nat) → (m : Nat) → o.Enough n m → {flags flags' : Flags} →
    flags.Alike flags' → {top : Bool} → (top = true → flags.Alike {}) → {acc acc' : List Piece} →
    List.Forall₂ (SamePiece o) acc acc' →
    o.Alongside (flags.verbose = true) o.Same (sequence n flags top acc)
      (sequence m flags' false acc')
  | 0, _, _, _, _, _, _, _, _, _, _ => alongside_fail
  | _ + 1, 0, hn, _, _, _, _, _, _, _, _ => alongside_right_fail hn.mayFail
  | n + 1, m + 1, hn, flags, flags', hflags, top, htop, acc, acc', hacc => by
    refine alongside_peek ?_ fun g => ?_
    · exact alongside_pure (same_joined hacc)
    · refine alongside_ite (fun _ => alongside_pure (same_joined hacc)) fun _ =>
        .bind_local local_next fun _ => ?_
      refine (alongside_take hflags (alongside_group n m hn.pred hflags _) top hacc g).bind
        (fun _ => onward_sequence n _ top _) ?_
      rintro ⟨acc, _⟩ ⟨acc', _⟩ ⟨hacc, rfl, rfl⟩
      exact alongside_sequence n m hn.pred hflags htop hacc

theorem alongside_group : (n : Nat) → (m : Nat) → o.Enough n m → {flags flags' : Flags} →
    flags.Alike flags' → (Overrun : Prop) →
    o.Alongside Overrun (SameResult o) (group n flags) (group m flags')
  | 0, _, _, _, _, _, _ => alongside_fail
  | _ + 1, 0, hn, _, _, _, _ => alongside_right_fail hn.mayFail
  | n + 1, m + 1, hn, flags, flags', hflags, Overrun => by
    refine .bind_local (local_accept (by decide)) fun _ => alongside_ite
      (fun _ => .bind_local local_next fun g => ?_) fun _ => alongside_capturing n m hn.pred hflags none _
    cases g with
    | escaped c => exact alongside_fail
    | dangling => exact alongside_fail
    | plain c =>
      refine alongside_ite (fun _ => ?_) fun _ =>
        alongside_ite (fun _ => alongside_plainGroup n m hn.pred hflags {} {} _) fun _ =>
        alongside_ite (fun _ => ?_) fun _ =>
        alongside_ite (fun _ => alongside_lookAhead n m hn.pred hflags false _) fun _ =>
        alongside_ite (fun _ => alongside_lookAhead n m hn.pred hflags true _) fun _ =>
        alongside_ite (fun _ => ?_) fun _ =>
        alongside_ite (fun _ => alongside_condition n m hn.pred hflags _) fun _ =>
        alongside_ite (fun _ => ?_) fun _ => alongside_ite (fun _ => ?_) fun _ => alongside_fail
      -- A group with a name, or a reference by name.
      · refine .bind_local (local_accept (by decide)) fun _ => alongside_ite (fun _ => ?_) fun _ =>
          .bind_local (local_accept (by decide)) fun _ => alongside_ite (fun _ => ?_)
            fun _ => alongside_fail
        · exact .bind_local (local_identifierUntil _) fun name =>
            alongside_capturing n m hn.pred hflags (some name) _
        · refine .bind_local (local_identifierUntil _) fun name => ?_
          refine (alongside_groupNamed name).bind
            (fun _ => (onward_checkReference _).bind fun _ => onward_pure _) ?_
          intro k k' hk
          refine (alongside_checkReference fun _ => hk).bind (fun _ => onward_pure _) ?_
          intro _ _ _
          rw [hflags.folding]
          exact alongside_pure (.piece (.other (.reference (fun _ => hk) _)))
      -- A comment, of which nothing is left.
      · exact alongside_remaining fun _ _ h =>
          .bind_local (local_skipComment (Nat.succ_le_succ h)) fun _ => alongside_pure .nothing
      -- A look behind.
      · exact .bind_local (local_accept (by decide)) fun _ =>
          alongside_ite (fun _ => alongside_lookBehind n m hn.pred hflags false _) fun _ =>
          .bind_local (local_accept (by decide)) fun _ =>
          alongside_ite (fun _ => alongside_lookBehind n m hn.pred hflags true _) fun _ => alongside_fail
      -- An expression of which only the first way counts.
      · exact (alongside_alternatives n m hn.pred hflags (absurd · Bool.false_ne_true)).then_expect
          fun _ _ h => .piece (.other h.atomic)
      -- Flags: those for the whole pattern are left to `place`.
      · refine .bind_yields (local_flagGroup c) (yields_flagGroup c) fun result hresult => ?_
        rcases result with f | ⟨add, del⟩
        · exact alongside_pure (.flags hresult)
        · exact alongside_plainGroup n m hn.pred hflags add del _

theorem alongside_capturing : (n : Nat) → (m : Nat) → o.Enough n m → {flags flags' : Flags} →
    flags.Alike flags' → (name : Option String) → (Overrun : Prop) →
    o.Alongside Overrun (SameResult o) (capturing n flags name) (capturing m flags' name)
  | 0, _, _, _, _, _, _, _ => alongside_fail
  | _ + 1, 0, hn, _, _, _, _, _ => alongside_right_fail hn.mayFail
  | n + 1, m + 1, hn, flags, flags', hflags, name, Overrun => by
    -- That the group which is closed has been opened is seen from both ends of the run only.
    intro s result s' t hf hs hlater
    obtain ⟨k, s₁, hopen, hf⟩ := reads_bind.mp hf
    obtain ⟨r, s₂, hr, hf⟩ := reads_bind.mp hf
    obtain ⟨_, s₃, hend, hf⟩ := reads_bind.mp hf
    obtain ⟨_, s₄, hclose, hf⟩ := reads_bind.mp hf
    obtain ⟨rfl, rfl⟩ := reads_pure.mp hf
    have hinside : Later s₁ s₂ := (onward_alternatives n flags false s₁ r s₂ hr).toLater
    have hparen : Later s₂ s₃ := (onward_expect s₂ _ s₃ hend).toLater
    have hlater₃ : Later s₃ o.final :=
      (level_closeGroup_of_openGroup hopen (hinside.trans hparen) hclose).toLater.trans hlater
    have hlater₂ : Later s₂ o.final := hparen.trans hlater₃
    refine (alongside_openGroup name s k s₁ t hopen hs (hinside.trans hlater₂)).then
      (False.elim ·) fun k' t₁ ⟨hk, hpos⟩ hs₁ => ?_
    refine (alongside_alternatives n m hn.pred hflags (absurd · Bool.false_ne_true) s₁ r s₂ t₁ hr hs₁
      hlater₂).then (fun _ hnil => absurd hnil (needs_expect s₂ _ s₃ hend)) fun r' t₂ hsame hs₂ => ?_
    obtain ⟨t₃, hend', hs₃⟩ := beside_of_local local_expect hend hs₂
    refine Meets.bind hend' ?_
    rw [hk]
    refine (alongside_closeGroup hsame s₃ _ s' t₃ hclose hs₃ hlater).then
      (False.elim ·) fun _ t₄ _ hs₄ => ?_
    exact .reads (reads_pure.mpr ⟨rfl, rfl⟩) (.piece (.other (hsame.capture hpos))) hs₄

theorem alongside_plainGroup : (n : Nat) → (m : Nat) → o.Enough n m → {flags flags' : Flags} →
    flags.Alike flags' → (add : Flags) → (del : Flags) → (Overrun : Prop) →
    o.Alongside Overrun (SameResult o) (plainGroup n flags add del) (plainGroup m flags' add del)
  | 0, _, _, _, _, _, _, _, _ => alongside_fail
  | _ + 1, 0, hn, _, _, _, _, _, _ => alongside_right_fail hn.mayFail
  | n + 1, m + 1, hn, _, _, hflags, add, del, _ =>
    (alongside_alternatives n m hn.pred (hflags.within add del) (absurd · Bool.false_ne_true)).then_expect
      fun _ _ h => .piece (.other h)

theorem alongside_lookAhead : (n : Nat) → (m : Nat) → o.Enough n m → {flags flags' : Flags} →
    flags.Alike flags' → (negated : Bool) → (Overrun : Prop) →
    o.Alongside Overrun (SameResult o) (lookAhead n flags negated) (lookAhead m flags' negated)
  | 0, _, _, _, _, _, _, _ => alongside_fail
  | _ + 1, 0, hn, _, _, _, _, _ => alongside_right_fail hn.mayFail
  | n + 1, m + 1, hn, _, _, hflags, negated, _ =>
    (alongside_alternatives n m hn.pred hflags (absurd · Bool.false_ne_true)).then_expect
      fun _ _ h => .piece (.other (h.look (fun _ => rfl) negated))

theorem alongside_lookBehind : (n : Nat) → (m : Nat) → o.Enough n m → {flags flags' : Flags} →
    flags.Alike flags' → (negated : Bool) → (Overrun : Prop) →
    o.Alongside Overrun (SameResult o) (lookBehind n flags negated) (lookBehind m flags' negated)
  | 0, _, _, _, _, _, _, _ => alongside_fail
  | _ + 1, 0, hn, _, _, _, _, _ => alongside_right_fail hn.mayFail
  | n + 1, m + 1, hn, flags, _, hflags, negated, _ => by
    -- A look behind is entered and left again.
    intro s result s' t hf hs hlater
    obtain ⟨r, u, v, w, hr, hend, hw, rfl⟩ := reads_lookBehind.mp hf
    have hlater_u : Later u o.final :=
      (later_behind u _).trans ((onward_expect _ _ v hend).toLater.trans
        ((onward_fixedWidth r v w s' hw).toLater.trans hlater))
    have henter : o.Beside { s with behind := some (s.behind.getD s.groupCount) }
        { t with behind := some (t.behind.getD t.groupCount) } := by
      refine hs.withBehind ?_
      rw [hs.behind, hs.groupCount]
      cases s.behind <;> rfl
    refine Meets.bind (reads_get.mpr ⟨rfl, rfl⟩) (Meets.bind (reads_modify (u := ⟨⟩) |>.mpr rfl) ?_)
    have hmore : u.rest ≠ [] := needs_expect { u with behind := s.behind } _ v hend
    refine (alongside_alternatives n m hn.pred hflags (absurd · Bool.false_ne_true) _ r u _ hr
      henter hlater_u).then (fun _ hnil => absurd hnil hmore) fun r' t₂ hsame hs₂ => ?_
    refine Meets.bind (reads_modify (u := ⟨⟩) |>.mpr rfl) ?_
    obtain ⟨t₃, hend', hs₃⟩ := beside_of_local local_expect hend (hs₂.withBehind hs.behind)
    refine Meets.bind hend' ?_
    refine (alongside_fixedWidth hsame v w s' t₃ hw hs₃ hlater).then (False.elim ·)
      fun w' t₄ hwidth hs₄ => ?_
    exact .reads (reads_pure.mpr ⟨rfl, rfl⟩)
      (.piece (.other (hsame.look (fun hname => congrArg some (hwidth hname)) negated))) hs₄

theorem alongside_condition : (n : Nat) → (m : Nat) → o.Enough n m → {flags flags' : Flags} →
    flags.Alike flags' → (Overrun : Prop) →
    o.Alongside Overrun (SameResult o) (condition n flags) (condition m flags')
  | 0, _, _, _, _, _, _ => alongside_fail
  | _ + 1, 0, hn, _, _, _, _ => alongside_right_fail hn.mayFail
  | n + 1, m + 1, hn, flags, flags', hflags, Overrun => by
    have hsequence : o.Alongside (flags.verbose = true) o.Same (sequence n flags false [])
        (sequence m flags' false []) :=
      alongside_sequence n m hn.pred hflags (absurd · Bool.false_ne_true) .nil
    have honward : Onward (sequence n flags false []) := onward_sequence n flags false []
    have hother : ∀ (k : Nat) (yes : Regex), Onward (do
        let no ← elseBranch (sequence n flags false [])
        expect ')'
        return GroupResult.piece (.other (.choice k yes no))) :=
      fun _ _ => (onward_elseBranch honward).then_expect _
    refine alongside_conditionGroup.bind
      (fun k => (onward_checkBehind k).bind fun _ => honward.bind (hother k)) ?_
    intro k k' hk
    refine (alongside_checkBehind hk).bind (fun _ => honward.bind (hother k)) ?_
    intro _ _ _
    refine hsequence.bind_needs (hother k)
      (fun _ => .bind (onward_elseBranch honward) fun _ => needs_expect.then _) ?_
    intro yes yes' hyes
    exact (alongside_elseBranch hsequence).then_expect fun no no' hno =>
      .piece (.other (.choice hk hyes hno))

end

end Surroundings

end Wording.Pattern
