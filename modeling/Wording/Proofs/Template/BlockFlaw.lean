import Wording.Proofs.Template.BlockReading

/-!
# Flaws of templates are those of the grammar

What the reader refuses is what the grammar has no place for: the piece at which it stops is the
first that nothing completes to a body (`step_eq_error_iff`), and where it takes all pieces and
still fails, the innermost open block is to blame.

* `ofPieces_eq_error_iff`: the flaw of some pieces
* `compile_iff`: trees and flaws of a text
-/

namespace Wording.Blocks

open BlockState

/-! ## What is refused -/

theorem MisplacedRel.unique {pre : List Piece} {p : Piece} {f g : Flaw}
    (hf : MisplacedRel pre p f) (hg : MisplacedRel pre p g) : f = g := by
  cases hf <;> cases hg <;> simp_all [statement?]

/-- Of the pieces that write statements, only `elif`, `else` and `end` can be misplaced. -/
theorem MisplacedRel.of_statement? {pre : List Piece} {p : Piece} {t : Statement} {f : Flaw}
    (h : MisplacedRel pre p f) (ht : statement? p = some t) :
    (((∃ test, t = .elseIf test) ∨ t = .otherwise) ∧ ¬ ∃ i, InnermostOpen pre .ifThen i) ∨
      (t = .done ∧ ∃ ns, BodyRel pre ns) := by
  cases h with
  | elseIf hp ho =>
    obtain rfl := Option.some.inj (ht.symm.trans hp)
    exact Or.inl ⟨Or.inl ⟨_, rfl⟩, ho⟩
  | otherwise hp ho =>
    obtain rfl := Option.some.inj (ht.symm.trans hp)
    exact Or.inl ⟨Or.inr rfl, ho⟩
  | done hp hb =>
    obtain rfl := Option.some.inj (ht.symm.trans hp)
    exact Or.inr ⟨rfl, _, hb⟩
  | unknown hp =>
    rw [statement?, hp] at ht
    cases ht

/-- The only flaw of a piece that cannot stand where it does. -/
theorem flawRel_iff_of_misplaced {pre : List Piece} {p : Piece} {f g : Flaw}
    (h : MisplacedRel pre p f) : FlawRel pre p g ↔ f = g := by
  constructor
  · intro hg
    cases hg with
    | misplaced hm => exact h.unique hm
    | unreadable hm hs he => exact absurd h (hm f)
  · rintro rfl
    exact .misplaced h

/-- The only flaw of a piece that can stand where it does is in its expression. -/
theorem flawRel_iff_of_source {pre : List Piece} {p : Piece} {source : String} {f : Flaw}
    (hm : ∀ f', ¬ MisplacedRel pre p f') (hs : source? p = some source) :
    FlawRel pre p f ↔ ∃ g, Expression.read source = .error g ∧ .expr g = f := by
  constructor
  · intro hf
    cases hf with
    | misplaced h => exact absurd h (hm f)
    | unreadable _ hs' he =>
      obtain rfl := Option.some.inj (hs.symm.trans hs')
      exact ⟨_, he, rfl⟩
  · rintro ⟨g, he, rfl⟩
    exact .unreadable hm hs he

/-- A piece that can stand where it does and holds no expression has no flaw. -/
theorem not_flawRel_of_source_none {pre : List Piece} {p : Piece} {f : Flaw}
    (hm : ∀ f', ¬ MisplacedRel pre p f') (hs : source? p = none) : ¬ FlawRel pre p f := by
  intro hf
  cases hf with
  | misplaced h => exact hm f h
  | unreadable _ hs' _ =>
    rw [hs] at hs'
    cases hs'

/-- A block that can be left for another branch is open at a branch. -/
theorem leaveBranch?_eq_some_of_run {pre : List Piece} {s : BlockState}
    {l : OpenBlock × List (Expression × List Node)} (hs : start.run pre = .ok s)
    (hl : s.leaveBranch? = some l) : ∃ i, InnermostOpen pre .ifThen i := by
  obtain ⟨b, before, test, rest, hstack, hb, _⟩ := leaveBranch?_eq_some hl
  refine ⟨b.position, (innermostOpen_iff_of_run hs).mpr ⟨b, by rw [hstack]; rfl, ?_, rfl⟩⟩
  rw [hb, Opening.kind]

theorem leaveBranch?_eq_none_of_run {pre : List Piece} {s : BlockState}
    (hs : start.run pre = .ok s) (hl : s.leaveBranch? = none) :
    ¬ ∃ i, InnermostOpen pre .ifThen i := by
  rintro ⟨i, ho⟩
  obtain ⟨b, hb, hkind, _⟩ := (innermostOpen_iff_of_run hs).mp ho
  exact leaveBranch?_eq_none_iff.mp hl b hb hkind

/-- An expression of a piece that can stand where it does is refused if it cannot be read. -/
theorem expression_map_eq_error_iff_flawRel {pre : List Piece} {p : Piece} {i : Nat}
    {source : String} {f : Expression → BlockState} {e : FlawAt}
    (hm : ∀ f', ¬ MisplacedRel pre p f') (hs : source? p = some source) :
    (do return f (← expression i source)) = Except.error e ↔
      FlawRel pre p e.flaw ∧ i = e.position := by
  rw [expression_map_eq_error_iff, flawRel_iff_of_source hm hs]
  constructor
  · rintro ⟨g, he, rfl⟩
    exact ⟨⟨g, he, rfl⟩, rfl⟩
  · rintro ⟨⟨g, he, hg⟩, rfl⟩
    exact ⟨g, he, by rw [hg]⟩

/-- A piece that cannot stand where it does is refused with its flaw. -/
theorem error_eq_error_iff_flawRel {pre : List Piece} {p : Piece} {i : Nat} {f : Flaw}
    {e : FlawAt} (h : MisplacedRel pre p f) :
    (Except.error ⟨f, i⟩ : Except FlawAt BlockState) = .error e ↔
      FlawRel pre p e.flaw ∧ i = e.position := by
  rw [flawRel_iff_of_misplaced h, Except.error.injEq]
  constructor
  · rintro rfl
    exact ⟨rfl, rfl⟩
  · rintro ⟨hf, hi⟩
    rw [hf, hi]

/-- **A statement is refused exactly for the flaw that the grammar gives it.** -/
theorem statement_eq_error_iff {pre : List Piece} {p : Piece} {t : Statement} {i : Nat}
    {s : BlockState} {e : FlawAt} (hs : start.run pre = .ok s) (ht : statement? p = some t)
    (hp : source? p = written? t) :
    s.statement i t = .error e ↔ FlawRel pre p e.flaw ∧ i = e.position := by
  cases t with
  | ifThen test =>
    refine expression_map_eq_error_iff_flawRel ?_ hp
    intro f' hm
    simpa using hm.of_statement? ht
  | elseIf test =>
    rw [statement]
    cases hl : s.leaveBranch? with
    | none =>
      exact error_eq_error_iff_flawRel (.elseIf ht (leaveBranch?_eq_none_of_run hs hl))
    | some l =>
      refine expression_map_eq_error_iff_flawRel ?_ hp
      intro f' hm
      simpa [leaveBranch?_eq_some_of_run hs hl] using hm.of_statement? ht
  | otherwise =>
    rw [statement]
    cases hl : s.leaveBranch? with
    | none =>
      exact error_eq_error_iff_flawRel (.otherwise ht (leaveBranch?_eq_none_of_run hs hl))
    | some l =>
      have hno : ¬ FlawRel pre p e.flaw := by
        refine not_flawRel_of_source_none ?_ hp
        intro f' hm
        simpa [leaveBranch?_eq_some_of_run hs hl] using hm.of_statement? ht
      simp [hno]
  | forEach name items =>
    refine expression_map_eq_error_iff_flawRel ?_ hp
    intro f' hm
    simpa using hm.of_statement? ht
  | done =>
    cases hstack : s.stack with
    | nil =>
      rw [statement, close?, hstack]
      exact error_eq_error_iff_flawRel (.done ht ((bodyRel_iff_of_run hs).mpr ⟨hstack, rfl⟩))
    | cons b rest =>
      have hr := readRel_of_run hs
      rw [hstack] at hr
      obtain ⟨n, hn, _⟩ := hr.close ht
      have hno : ¬ FlawRel pre p e.flaw := by
        refine not_flawRel_of_source_none ?_ hp
        intro f' hm
        simpa [bodyRel_iff_of_run hs, hstack] using hm.of_statement? ht
      rw [statement, close?, hstack]
      simp [hn, hno]
  | set name value =>
    refine expression_map_eq_error_iff_flawRel ?_ hp
    intro f' hm
    simpa using hm.of_statement? ht
  | emit value =>
    refine expression_map_eq_error_iff_flawRel ?_ hp
    intro f' hm
    simpa using hm.of_statement? ht

/-- **A piece is refused exactly for the flaw that the grammar gives it behind those before it.** -/
theorem step_eq_error_iff {pre : List Piece} {p : Piece} {s : BlockState} {e : FlawAt}
    (hs : start.run pre = .ok s) :
    s.step p = .error e ↔ FlawRel pre p e.flaw ∧ position? p = some e.position := by
  match p with
  | .text t =>
    simp [step, position?]
  | .span .escape i inner =>
    rw [position?, Option.some.injEq]
    refine expression_map_eq_error_iff_flawRel ?_ rfl
    intro f' hm
    cases hm <;> simp_all [statement?]
  | .span .interpolate i inner =>
    rw [position?, Option.some.injEq]
    refine expression_map_eq_error_iff_flawRel ?_ rfl
    intro f' hm
    cases hm <;> simp_all [statement?]
  | .span .evaluate i inner =>
    rw [position?, Option.some.injEq]
    cases ht : Statement.ofChars? (Text.trim inner.toList) with
    | none =>
      simp only [step, ht]
      exact error_eq_error_iff_flawRel (.unknown ht)
    | some t =>
      simp only [step, ht]
      exact statement_eq_error_iff hs ht (by simp [source?, statement?, ht])

/-! ## Templates -/

/-- **Pieces without a tree have the flaw that the grammar gives them.** -/
theorem ofPieces_eq_error_iff {ps : List Piece} {e : FlawAt} :
    Node.ofPieces ps = .error e ↔ FlawedAt ps e.flaw e.position := by
  rw [Node.ofPieces]
  constructor
  · intro h
    cases hs : start.run ps with
    | error e' =>
      rw [hs] at h
      cases h
      obtain ⟨pre, p, post, s, rfl, hpre, hp⟩ := exists_of_run_eq_error hs
      obtain ⟨hf, hi⟩ := (step_eq_error_iff hpre).mp hp
      refine .piece rfl (viable_iff.mpr ⟨s, hpre⟩) ?_ hf hi
      rintro hv
      obtain ⟨s', hs'⟩ := viable_iff.mp hv
      rw [run_append_of_ok hpre, run_cons_of_error hp] at hs'
      cases hs'
    | ok s =>
      rw [hs] at h
      cases hstack : s.stack with
      | nil => simp [finish, hstack, bind, Except.bind] at h
      | cons b rest =>
        simp only [finish, hstack, bind, Except.bind, Except.error.injEq] at h
        subst h
        exact .unterminated (viable_iff.mpr ⟨s, hs⟩)
          ((innermostOpen_iff_of_run hs).mpr ⟨b, by rw [hstack]; rfl, rfl, rfl⟩)
  · obtain ⟨f, i⟩ := e
    rintro (⟨rfl, hpre, _, hf, hi⟩ | ⟨hps, ho⟩)
    · obtain ⟨s, hs⟩ := viable_iff.mp hpre
      have hp := (step_eq_error_iff (e := ⟨f, i⟩) hs).mpr ⟨hf, hi⟩
      rw [run_append_of_ok hs, run_cons_of_error hp]
      rfl
    · obtain ⟨s, hs⟩ := viable_iff.mp hps
      obtain ⟨b, hb, hkind, hi⟩ := (innermostOpen_iff_of_run hs).mp ho
      cases hstack : s.stack with
      | nil => simp [hstack] at hb
      | cons b' rest =>
        rw [hstack] at hb
        cases hb
        rw [hs]
        simp only [finish, hstack, bind, Except.bind, hkind, hi]

/-- A flaw in an expression is that of an expression in one of the pieces. -/
theorem FlawedAt.exists_source {ps : List Piece} {f : ExprFlaw} {i : Nat}
    (h : FlawedAt ps (.expr f) i) :
    ∃ p ∈ ps, ∃ source, source? p = some source ∧ Expression.read source = .error f := by
  cases h with
  | piece hps _ _ hf _ =>
    cases hf with
    | misplaced hm => cases hm
    | unreadable _ hs he => exact ⟨_, by rw [hps]; simp, _, hs, he⟩

/--
**A text is compiled to the tree that the grammar gives its pieces; a text whose pieces have none is
refused for their flaw.** A null character is a flaw only where an expression holds one.
-/
theorem compile_iff (m : Markers) (text : String) :
    (∀ t, Template.compile m text = .ok t ↔
      t.source = text ∧ t.markers = m ∧ BodyRel (Piece.ofText m text) t.nodes) ∧
    (∀ e, Template.compile m text = .error e ↔
      e.template = some text ∧
        ∃ i : Nat, e.position = some (i : Int) ∧ FlawedAt (Piece.ofText m text) e.flaw i) ∧
    (Readable (Piece.ofText m text) →
      ∀ e, Template.compile m text = .error e → e.flaw ≠ .expr .nullCharacter) := by
  have herror : ∀ e, Template.compile m text = .error e ↔
      e.template = some text ∧
        ∃ i : Nat, e.position = some (i : Int) ∧ FlawedAt (Piece.ofText m text) e.flaw i := by
    intro e
    unfold Template.compile
    cases h : Node.ofPieces (Piece.ofText m text) with
    | ok ns =>
      have hno : ∀ i, ¬ FlawedAt (Piece.ofText m text) e.flaw i := by
        intro i hi
        rw [ofPieces_eq_error_iff (e := ⟨e.flaw, i⟩) |>.mpr hi] at h
        cases h
      simp [hno]
    | error x =>
      rw [Except.error.injEq]
      constructor
      · rintro rfl
        exact ⟨rfl, x.position, rfl, ofPieces_eq_error_iff.mp h⟩
      · obtain ⟨flaw, template, position⟩ := e
        rintro ⟨rfl, i, rfl, hi⟩
        rw [ofPieces_eq_error_iff (e := ⟨flaw, i⟩) |>.mpr hi] at h
        cases h
        rfl
  refine ⟨fun t => ?_, herror, fun hread e he hnull => ?_⟩
  · rw [← ofPieces_eq_ok_iff]
    unfold Template.compile
    obtain ⟨source, markers, nodes⟩ := t
    cases h : Node.ofPieces (Piece.ofText m text) with
    | ok ns =>
      simp only [Except.ok.injEq, Template.mk.injEq]
      constructor
      · rintro ⟨rfl, rfl, rfl⟩
        exact ⟨rfl, rfl, rfl⟩
      · rintro ⟨rfl, rfl, rfl⟩
        exact ⟨rfl, rfl, rfl⟩
    | error x => simp
  · obtain ⟨_, i, _, hi⟩ := (herror e).mp he
    rw [hnull] at hi
    obtain ⟨p, hp, source, hs, hx⟩ := hi.exists_source
    exact hread p hp source hs hx

end Wording.Blocks
