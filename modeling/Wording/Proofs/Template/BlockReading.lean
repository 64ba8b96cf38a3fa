import Wording.Proofs.Template.Grammar

/-!
# Blocks are read as the grammar says

The reader of `Wording/Template/Block.lean` keeps the open blocks in a stack. That it reads the
trees of the grammar is shown in three steps.

1. A complete item, a complete body and the branches of a condition do to the state of the reader
   what their tree says (`run_body`), and so does an open block (`run_open`).
2. `ReadRel` ties a state to the pieces that led to it: one open block for each entry of the stack.
   Each piece that the reader takes keeps it (`readRel_step`), so it holds of every state that the
   reader comes to (`readRel_run`).
3. Pieces that the reader takes are those that can be completed (`viable_iff`), and they are a body
   if no block is open behind them (`ofPieces_eq_ok_iff`).
-/

namespace Wording.Blocks

open BlockState

/-! ## One piece after the other -/

theorem run_cons_of_ok {s t : BlockState} {p : Piece} (h : s.step p = .ok t) (ps : List Piece) :
    s.run (p :: ps) = t.run ps := by
  rw [run, h]
  rfl

theorem run_cons_of_error {s : BlockState} {p : Piece} {e : FlawAt} (h : s.step p = .error e)
    (ps : List Piece) : s.run (p :: ps) = .error e := by
  rw [run, h]
  rfl

theorem run_append (s : BlockState) (ps qs : List Piece) :
    s.run (ps ++ qs) = s.run ps >>= fun t => t.run qs := by
  induction ps generalizing s with
  | nil => rfl
  | cons p ps ih =>
    rw [List.cons_append]
    cases hp : s.step p with
    | error e =>
      rw [run_cons_of_error hp, run_cons_of_error hp]
      rfl
    | ok t => rw [run_cons_of_ok hp, run_cons_of_ok hp, ih]

theorem run_append_of_ok {s s' : BlockState} {ps : List Piece} (h : s.run ps = .ok s')
    (qs : List Piece) : s.run (ps ++ qs) = s'.run qs := by
  rw [run_append, h]
  rfl

theorem run_append_of_error {s : BlockState} {ps : List Piece} {e : FlawAt}
    (h : s.run ps = .error e) (qs : List Piece) : s.run (ps ++ qs) = .error e := by
  rw [run_append, h]
  rfl

/-- A run that is refused stops at one piece, and has taken all those before it. -/
theorem exists_of_run_eq_error {s : BlockState} {ps : List Piece} {e : FlawAt}
    (h : s.run ps = .error e) :
    ∃ pre p post s', ps = pre ++ p :: post ∧ s.run pre = .ok s' ∧ s'.step p = .error e := by
  induction ps generalizing s with
  | nil => cases h
  | cons p ps ih =>
    cases hp : s.step p with
    | error e' =>
      rw [run_cons_of_error hp] at h
      exact ⟨[], p, ps, s, rfl, rfl, hp.trans h⟩
    | ok s₁ =>
      rw [run_cons_of_ok hp] at h
      obtain ⟨pre, q, post, s', rfl, hpre, hq⟩ := ih h
      exact ⟨p :: pre, q, post, s', rfl, (run_cons_of_ok hp pre).trans hpre, hq⟩

/-! ## Statements -/

/-- A piece that writes a statement is taken as that statement. -/
theorem step_of_statement? {p : Piece} {t : Statement} (h : statement? p = some t) :
    ∃ i, position? p = some i ∧ ∀ s : BlockState, s.step p = s.statement i t := by
  match p, h with
  | .span .evaluate i inner, h =>
    refine ⟨i, rfl, fun s => ?_⟩
    rw [statement?] at h
    simp only [BlockState.step, h]

theorem expression_of_ok {source : String} {e : Expression} (h : Expression.read source = .ok e)
    (i : Nat) : expression i source = .ok e := by
  rw [expression, h]

theorem expression_of_error {source : String} {f : ExprFlaw}
    (h : Expression.read source = .error f) (i : Nat) :
    expression i source = .error ⟨.expr f, i⟩ := by
  rw [expression, h]

theorem leaveBranch?_branch (body outer : List Node) (before : List (Expression × List Node))
    (test : Expression) (i : Nat) (stack : List OpenBlock) :
    leaveBranch? ⟨body, ⟨.branch before test, i, outer⟩ :: stack⟩ =
      some (⟨.branch before test, i, outer⟩, (test, body.reverse) :: before) := rfl

/-- Only a block that is open at a branch can be left for another branch. -/
theorem leaveBranch?_eq_none_iff {s : BlockState} :
    s.leaveBranch? = none ↔ ∀ b ∈ s.stack.head?, b.opening.kind ≠ .ifThen := by
  unfold leaveBranch?
  cases hs : s.stack with
  | nil => simp
  | cons b rest => cases hb : b.opening <;> simp [hb, Opening.kind]

theorem leaveBranch?_eq_some {s : BlockState} {l : OpenBlock × List (Expression × List Node)}
    (h : s.leaveBranch? = some l) :
    ∃ b before test rest, s.stack = b :: rest ∧ b.opening = .branch before test ∧
      l = (b, (test, s.body.reverse) :: before) := by
  unfold leaveBranch? at h
  cases hs : s.stack with
  | nil => simp [hs] at h
  | cons b rest =>
    cases hb : b.opening with
    | branch before test =>
      simp only [hs, hb, Option.some.injEq] at h
      exact ⟨b, before, test, rest, rfl, hb, h.symm⟩
    | last before => simp [hs, hb] at h
    | loop name items => simp [hs, hb] at h

/-! ## What complete pieces do -/

mutual

theorem run_item {ps : List Piece} {n : Node} : ItemRel ps n → ∀ (s : BlockState)
    (rest : List Piece), s.run (ps ++ rest) = (s.push n).run rest
  | .text _, _, _ => rfl
  | .escape he, s, rest => by
    rw [List.cons_append, run_cons_of_ok (t := s.push _)]
    · rfl
    · rw [step, expression_of_ok he]
      rfl
  | .interpolate he, s, rest => by
    rw [List.cons_append, run_cons_of_ok (t := s.push _)]
    · rfl
    · rw [step, expression_of_ok he]
      rfl
  | .set hp he, s, rest => by
    obtain ⟨i, _, hstep⟩ := step_of_statement? hp
    rw [List.cons_append, run_cons_of_ok (t := s.push _)]
    · rfl
    · rw [hstep, statement, expression_of_ok he]
      rfl
  | .emit hp he, s, rest => by
    obtain ⟨i, _, hstep⟩ := step_of_statement? hp
    rw [List.cons_append, run_cons_of_ok (t := s.push _)]
    · rfl
    · rw [hstep, statement, expression_of_ok he]
      rfl
  | .cond (e := e) hp he hb ht, s, rest => by
    obtain ⟨i, _, hstep⟩ := step_of_statement? hp
    rw [List.cons_append, List.append_assoc, run_cons_of_ok (t := s.enter (.branch [] e) i)]
    · rw [run_body hb]
      exact run_branches ht (by simp [enter, Branches.ofList, Node.ofBranches?]) rest
    · rw [hstep, statement, expression_of_ok he]
      rfl
  | @ItemRel.loop _ _ name _ e _ _ hp he hb hq, s, rest => by
    obtain ⟨i, _, hstep⟩ := step_of_statement? hp
    obtain ⟨j, _, hend⟩ := step_of_statement? hq
    rw [List.cons_append, List.append_assoc, run_cons_of_ok (t := s.enter (.loop name e) i)]
    · rw [run_body hb, List.cons_append, run_cons_of_ok]
      · rfl
      · rw [hend]
        simp [statement, close?, enter, Opening.close?]
        rfl
    · rw [hstep, statement, expression_of_ok he]
      rfl

/-- **A complete body puts its nodes behind those of the body that is open.** -/
theorem run_body {ps : List Piece} {ns : List Node} : BodyRel ps ns → ∀ (s : BlockState)
    (rest : List Piece), s.run (ps ++ rest) = run ⟨ns.reverse ++ s.body, s.stack⟩ rest
  | .nil, _, _ => rfl
  | .cons hi hb, s, rest => by
    rw [List.append_assoc, run_item hi, run_body hb]
    simp [push]

/-- The branches of a condition close it. -/
theorem run_branches {ps : List Piece} {br : Branches} : BranchesRel ps br →
    ∀ {body outer : List Node} {before : List (Expression × List Node)} {test : Expression}
      {i : Nat} {stack : List OpenBlock} {n : Node},
      Node.ofBranches? (Branches.ofList br ((test, body.reverse) :: before)) = some n →
      ∀ rest : List Piece, run ⟨body, ⟨.branch before test, i, outer⟩ :: stack⟩ (ps ++ rest) =
        run ⟨n :: outer, stack⟩ rest
  | .done hq, body, outer, before, test, i, stack, n, hn, rest => by
    obtain ⟨j, _, hend⟩ := step_of_statement? hq
    rw [List.cons_append, run_cons_of_ok (t := ⟨n :: outer, stack⟩)]
    · rfl
    · rw [hend]
      simp [statement, close?, Opening.close?, hn]
  | .otherwise hp hb hq, body, outer, before, test, i, stack, n, hn, rest => by
    obtain ⟨j, _, helse⟩ := step_of_statement? hp
    obtain ⟨k, _, hend⟩ := step_of_statement? hq
    rw [List.cons_append, List.append_assoc,
      run_cons_of_ok (t := ⟨[], ⟨.last ((test, body.reverse) :: before), i, outer⟩ :: stack⟩)]
    · rw [run_body hb, List.cons_append, run_cons_of_ok (t := ⟨n :: outer, stack⟩)]
      · rfl
      · rw [hend]
        simp [statement, close?, Opening.close?, hn]
    · rw [helse]
      rfl
  | .elseIf (e := e) hp he hb ht, body, outer, before, test, i, stack, n, hn, rest => by
    obtain ⟨j, _, helif⟩ := step_of_statement? hp
    rw [List.cons_append, List.append_assoc,
      run_cons_of_ok (t := ⟨[], ⟨.branch ((test, body.reverse) :: before) e, i, outer⟩ :: stack⟩)]
    · rw [run_body hb]
      refine run_branches ht ?_ rest
      rw [List.append_nil, List.reverse_reverse]
      exact hn
    · rw [helif, statement, leaveBranch?_branch, expression_of_ok he]
      rfl

end

/-! ## What open blocks do -/

/-- **A block that is left open becomes the innermost entry of the stack.** -/
theorem run_open {p : Piece} {inner : List Piece} {o : Opening} {ns : List Node}
    (h : OpenRel p inner o ns) (rest : List Piece) {i : Nat} (hi : position? p = some i)
    (s : BlockState) :
    s.run (p :: (inner ++ rest)) = run ⟨ns.reverse, ⟨o, i, s.body⟩ :: s.stack⟩ rest := by
  induction h generalizing rest with
  | @branch _ e _ _ hp he hb =>
    obtain ⟨j, hj, hstep⟩ := step_of_statement? hp
    obtain rfl : i = j := Option.some.inj (hi.symm.trans hj)
    rw [run_cons_of_ok (t := s.enter (.branch [] e) i), run_body hb]
    · simp [enter]
    · rw [hstep, statement, expression_of_ok he]
      rfl
  | @elseIf q _ e e' _ _ before ns _ ho hq he hb ih =>
    -- The body that is left stays in the entry of its block, as one of the branches before.
    obtain ⟨j, _, helif⟩ := step_of_statement? hq
    rw [List.append_assoc, List.cons_append, ih,
      run_cons_of_ok (t := ⟨[], ⟨.branch ((e, ns) :: before) e', i, s.body⟩ :: s.stack⟩),
      run_body hb]
    · simp
    · rw [helif, statement, leaveBranch?_branch, expression_of_ok he, List.reverse_reverse]
      rfl
  | @otherwise q e _ _ before ns _ ho hq hb ih =>
    obtain ⟨j, _, helse⟩ := step_of_statement? hq
    rw [List.append_assoc, List.cons_append, ih,
      run_cons_of_ok (t := ⟨[], ⟨.last ((e, ns) :: before), i, s.body⟩ :: s.stack⟩),
      run_body hb]
    · simp
    · rw [helse, statement, leaveBranch?_branch, List.reverse_reverse]
      rfl
  | @loop name _ e _ _ hp he hb =>
    obtain ⟨j, hj, hstep⟩ := step_of_statement? hp
    obtain rfl : i = j := Option.some.inj (hi.symm.trans hj)
    rw [run_cons_of_ok (t := s.enter (.loop name e) i), run_body hb]
    · simp [enter]
    · rw [hstep, statement, expression_of_ok he]
      rfl

/-- An open block takes further items into the body that is open. -/
theorem OpenRel.append {p : Piece} {inner qs : List Piece} {o : Opening} {ns ms : List Node}
    (h : OpenRel p inner o ns) (hb : BodyRel qs ms) : OpenRel p (inner ++ qs) o (ns ++ ms) := by
  cases h with
  | branch hp he hb₀ => exact .branch hp he (hb₀.append hb)
  | elseIf ho hq he hb₀ =>
    rw [List.append_assoc, List.cons_append]
    exact .elseIf ho hq he (hb₀.append hb)
  | otherwise ho hq hb₀ =>
    rw [List.append_assoc, List.cons_append]
    exact .otherwise ho hq (hb₀.append hb)
  | loop hp he hb₀ => exact .loop hp he (hb₀.append hb)

/-- An open condition is closed by the branches that follow it. -/
theorem OpenRel.cond {p : Piece} {inner tail : List Piece} {e : Expression}
    {before : List (Expression × List Node)} {ns : List Node} {br : Branches}
    (h : OpenRel p inner (.branch before e) ns) (ht : BranchesRel tail br) :
    ∃ n, Node.ofBranches? (Branches.ofList br ((e, ns) :: before)) = some n ∧
      ItemRel (p :: (inner ++ tail)) n := by
  generalize ho : Opening.branch before e = o at h
  -- From the last branch to the first: each one that is done with belongs to the tail.
  induction h generalizing tail br before e with
  | branch hp he hb =>
    cases ho
    exact ⟨_, rfl, .cond hp he hb ht⟩
  | elseIf _ hq he hb ih =>
    cases ho
    obtain ⟨n, hn, hi⟩ := ih (.elseIf hq he hb ht) rfl
    refine ⟨n, hn, ?_⟩
    rwa [List.append_assoc, List.cons_append]
  | otherwise => cases ho
  | loop => cases ho

/-- **An open block is closed by `end`.** -/
theorem OpenRel.close {p q : Piece} {inner : List Piece} {o : Opening} {ns : List Node}
    (h : OpenRel p inner o ns) (hq : statement? q = some .done) :
    ∃ n, o.close? ns = some n ∧ ItemRel (p :: (inner ++ [q])) n := by
  cases h with
  | branch hp he hb => exact (OpenRel.branch hp he hb).cond (.done hq)
  | elseIf ho hq' he hb => exact (OpenRel.elseIf ho hq' he hb).cond (.done hq)
  | otherwise ho hq' hb =>
    obtain ⟨n, hn, hi⟩ := ho.cond (.otherwise hq' hb hq)
    refine ⟨n, hn, ?_⟩
    rwa [List.append_assoc, List.cons_append]
  | loop hp he hb => exact ⟨_, rfl, .loop hp he hb hq⟩

/-! ## States of the reader -/

/--
The pieces that lead to a state: a complete body in front, and one open block for each entry of the
stack, the outermost one first. `ns` are the nodes of the body that is open.
-/
inductive ReadRel : List Piece → List Node → List OpenBlock → Prop where
  | body {ps : List Piece} {ns : List Node} (hb : BodyRel ps ns) : ReadRel ps ns []
  | opened {outer inner : List Piece} {p : Piece} {b : OpenBlock} {ns : List Node}
      {stack : List OpenBlock} (h : ReadRel outer b.outer.reverse stack)
      (ho : OpenRel p inner b.opening ns) (hi : position? p = some b.position) :
      ReadRel (outer ++ p :: inner) ns (b :: stack)

theorem ReadRel.append {ps qs : List Piece} {ns ms : List Node} {stack : List OpenBlock}
    (h : ReadRel ps ns stack) (hb : BodyRel qs ms) : ReadRel (ps ++ qs) (ns ++ ms) stack := by
  cases h with
  | body hb₀ => exact .body (hb₀.append hb)
  | opened h ho hi =>
    rw [List.append_assoc, List.cons_append]
    exact .opened h (ho.append hb) hi

theorem ReadRel.enter {ps : List Piece} {p : Piece} {ns : List Node} {stack : List OpenBlock}
    {o : Opening} {i : Nat} (h : ReadRel ps ns stack) (ho : OpenRel p [] o [])
    (hi : position? p = some i) : ReadRel (ps ++ [p]) [] (⟨o, i, ns.reverse⟩ :: stack) :=
  .opened (by rwa [List.reverse_reverse]) ho hi

theorem ReadRel.close {ps : List Piece} {q : Piece} {ns : List Node} {b : OpenBlock}
    {stack : List OpenBlock} (h : ReadRel ps ns (b :: stack)) (hq : statement? q = some .done) :
    ∃ n, b.opening.close? ns = some n ∧
      ReadRel (ps ++ [q]) (b.outer.reverse ++ [n]) stack := by
  cases h with
  | opened h ho hi =>
    obtain ⟨n, hn, hitem⟩ := ho.close hq
    refine ⟨n, hn, ?_⟩
    rw [List.append_assoc, List.cons_append]
    exact h.append (.singleton hitem)

/-- Reading an expression and going on: either both succeed, or the expression cannot be read. -/
theorem expression_map_eq_ok_iff {i : Nat} {source : String} {f : Expression → BlockState}
    {s : BlockState} :
    (do return f (← expression i source)) = Except.ok s ↔
      ∃ e, Expression.read source = .ok e ∧ f e = s := by
  cases he : Expression.read source with
  | ok e =>
    rw [expression_of_ok he]
    simp [bind, Except.bind, pure, Except.pure]
  | error g =>
    rw [expression_of_error he]
    simp [bind, Except.bind]

theorem expression_map_eq_error_iff {i : Nat} {source : String} {f : Expression → BlockState}
    {e : FlawAt} :
    (do return f (← expression i source)) = Except.error e ↔
      ∃ g, Expression.read source = .error g ∧ ⟨.expr g, i⟩ = e := by
  cases he : Expression.read source with
  | ok e =>
    rw [expression_of_ok he]
    simp [bind, Except.bind, pure, Except.pure]
  | error g =>
    rw [expression_of_error he]
    simp [bind, Except.bind]

theorem ReadRel.push {ps qs : List Piece} {s : BlockState} {n : Node}
    (h : ReadRel ps s.body.reverse s.stack) (hi : ItemRel qs n) :
    ReadRel (ps ++ qs) (s.push n).body.reverse (s.push n).stack := by
  rw [BlockState.push, List.reverse_cons]
  exact h.append (.singleton hi)

/-- **A statement that the reader takes keeps `ReadRel`.** -/
theorem readRel_statement {ps : List Piece} {p : Piece} {t : Statement} {i : Nat}
    {s s' : BlockState} (h : ReadRel ps s.body.reverse s.stack) (ht : statement? p = some t)
    (hi : position? p = some i) (hs : s.statement i t = .ok s') :
    ReadRel (ps ++ [p]) s'.body.reverse s'.stack := by
  cases t with
  | ifThen test =>
    obtain ⟨e, he, rfl⟩ := expression_map_eq_ok_iff.mp hs
    have ho := h.enter (.branch ht he .nil) hi
    rwa [List.reverse_reverse] at ho
  | elseIf test =>
    rw [statement] at hs
    cases hl : s.leaveBranch? with
    | none =>
      rw [hl] at hs
      cases hs
    | some l =>
      obtain ⟨b, before, e₀, rest, hstack, hb, rfl⟩ := leaveBranch?_eq_some hl
      rw [hl] at hs
      obtain ⟨e, he, rfl⟩ := expression_map_eq_ok_iff.mp hs
      rw [hstack] at h
      cases h with
      | opened h ho hi' =>
        rw [hb] at ho
        rw [List.append_assoc, List.cons_append, reopen, hstack]
        exact .opened h (.elseIf ho ht he .nil) hi'
  | otherwise =>
    rw [statement] at hs
    cases hl : s.leaveBranch? with
    | none =>
      rw [hl] at hs
      cases hs
    | some l =>
      obtain ⟨b, before, e₀, rest, hstack, hb, rfl⟩ := leaveBranch?_eq_some hl
      rw [hl] at hs
      cases hs
      rw [hstack] at h
      cases h with
      | opened h ho hi' =>
        rw [hb] at ho
        rw [List.append_assoc, List.cons_append, reopen, hstack]
        exact .opened h (.otherwise ho ht .nil) hi'
  | forEach name items =>
    obtain ⟨e, he, rfl⟩ := expression_map_eq_ok_iff.mp hs
    have ho := h.enter (.loop ht he .nil) hi
    rwa [List.reverse_reverse] at ho
  | done =>
    cases hstack : s.stack with
    | nil =>
      rw [statement, close?, hstack] at hs
      cases hs
    | cons b rest =>
      rw [hstack] at h
      obtain ⟨n, hn, hr⟩ := h.close ht
      rw [statement, close?, hstack] at hs
      simp only [hn, Option.map_some, Except.ok.injEq] at hs
      rw [← hs, List.reverse_cons]
      exact hr
  | set name value =>
    obtain ⟨e, he, rfl⟩ := expression_map_eq_ok_iff.mp hs
    exact h.push (.set ht he)
  | emit value =>
    obtain ⟨e, he, rfl⟩ := expression_map_eq_ok_iff.mp hs
    exact h.push (.emit ht he)

/-- **A piece that the reader takes keeps `ReadRel`.** -/
theorem readRel_step {ps : List Piece} {p : Piece} {s s' : BlockState}
    (h : ReadRel ps s.body.reverse s.stack) (hs : s.step p = .ok s') :
    ReadRel (ps ++ [p]) s'.body.reverse s'.stack := by
  match p with
  | .text t =>
    cases hs
    exact h.push (.text t)
  | .span .escape i inner =>
    obtain ⟨e, he, rfl⟩ := expression_map_eq_ok_iff.mp hs
    exact h.push (.escape he)
  | .span .interpolate i inner =>
    obtain ⟨e, he, rfl⟩ := expression_map_eq_ok_iff.mp hs
    exact h.push (.interpolate he)
  | .span .evaluate i inner =>
    cases ht : Statement.ofChars? (Text.trim inner.toList) with
    | none =>
      simp only [step, ht] at hs
      cases hs
    | some t =>
      simp only [step, ht] at hs
      exact readRel_statement (i := i) h ht rfl hs

/-- **Every state that the reader comes to is tied to the pieces that it has taken.** -/
theorem readRel_run {ps qs : List Piece} {s s' : BlockState}
    (h : ReadRel ps s.body.reverse s.stack) (hs : s.run qs = .ok s') :
    ReadRel (ps ++ qs) s'.body.reverse s'.stack := by
  induction qs generalizing ps s with
  | nil =>
    cases hs
    rwa [List.append_nil]
  | cons q qs ih =>
    cases hq : s.step q with
    | error e =>
      rw [run_cons_of_error hq] at hs
      cases hs
    | ok s₁ =>
      rw [run_cons_of_ok hq] at hs
      rw [List.append_cons]
      exact ih (readRel_step h hq) hs

theorem readRel_of_run {ps : List Piece} {s : BlockState} (hs : start.run ps = .ok s) :
    ReadRel ps s.body.reverse s.stack := by
  have h : ReadRel [] start.body.reverse start.stack := .body .nil
  simpa using readRel_run h hs

/-! ## What can be completed -/

/-- A piece that writes `end`. -/
def endPiece : Piece := .span .evaluate 0 "end"

theorem statement?_endPiece : statement? endPiece = some .done := by decide

/-- Pieces that lead to a state are completed by one `end` for each open block. -/
theorem ReadRel.viable {ps : List Piece} {ns : List Node} {stack : List OpenBlock}
    (h : ReadRel ps ns stack) : Viable ps := by
  induction stack generalizing ps ns with
  | nil =>
    cases h with
    | body hb => exact ⟨[], ns, by rwa [List.append_nil]⟩
  | cons b stack ih =>
    obtain ⟨n, _, hr⟩ := h.close statement?_endPiece
    obtain ⟨qs, ms, hb⟩ := ih hr
    exact ⟨endPiece :: qs, ms, by rwa [List.append_cons]⟩

/-- The reader takes all pieces of a body, and none of its blocks stays open. -/
theorem run_start_body {ps : List Piece} {ns : List Node} (h : BodyRel ps ns) :
    start.run ps = .ok ⟨ns.reverse, []⟩ := by
  have hrun := run_body h start []
  rw [List.append_nil] at hrun
  rw [hrun, start, List.append_nil]
  rfl

/-- **The reader takes exactly the pieces that can be completed.** -/
theorem viable_iff {ps : List Piece} : Viable ps ↔ ∃ s, start.run ps = .ok s := by
  constructor
  · rintro ⟨qs, ns, hb⟩
    cases hs : start.run ps with
    | ok s => exact ⟨s, rfl⟩
    | error e =>
      -- A reader that stops within some pieces stops there in whatever completes them.
      have hrun := run_start_body hb
      rw [run_append_of_error hs] at hrun
      cases hrun
  · rintro ⟨s, hs⟩
    exact (readRel_of_run hs).viable

/-- Pieces that lead to a state are a body if and only if no block is open there. -/
theorem bodyRel_iff_of_run {ps : List Piece} {s : BlockState} (hs : start.run ps = .ok s)
    {ns : List Node} : BodyRel ps ns ↔ s.stack = [] ∧ s.body.reverse = ns := by
  constructor
  · intro hb
    rw [run_start_body hb] at hs
    cases hs
    exact ⟨rfl, List.reverse_reverse ns⟩
  · rintro ⟨hstack, rfl⟩
    have hr := readRel_of_run hs
    rw [hstack] at hr
    cases hr with
    | body hb => exact hb

/-- The innermost block that pieces leave open is on top of the stack. -/
theorem innermostOpen_iff_of_run {ps : List Piece} {s : BlockState} (hs : start.run ps = .ok s)
    {kind : BlockKind} {i : Nat} :
    InnermostOpen ps kind i ↔ ∃ b ∈ s.stack.head?, b.opening.kind = kind ∧ b.position = i := by
  constructor
  · rintro ⟨outer, p, inner, o, ns, rfl, ho, rfl, hi⟩
    cases hs₀ : start.run outer with
    | error e =>
      rw [run_append_of_error hs₀] at hs
      cases hs
    | ok s₀ =>
      rw [run_append_of_ok hs₀] at hs
      have hrun := run_open ho [] hi s₀
      rw [List.append_nil, hs] at hrun
      cases hrun
      exact ⟨_, rfl, rfl, rfl⟩
  · rintro ⟨b, hb, rfl, rfl⟩
    have hr := readRel_of_run hs
    obtain ⟨rest, hstack⟩ : ∃ rest, s.stack = b :: rest := by
      cases hst : s.stack with
      | nil => simp [hst] at hb
      | cons b' rest =>
        rw [hst] at hb
        cases hb
        exact ⟨rest, rfl⟩
    rw [hstack] at hr
    cases hr with
    | opened h ho hi => exact ⟨_, _, _, _, _, rfl, ho, rfl, hi⟩

/-! ## Trees -/

/-- **The tree of some pieces is the one that the grammar gives them.** -/
theorem ofPieces_eq_ok_iff {ps : List Piece} {ns : List Node} :
    Node.ofPieces ps = .ok ns ↔ BodyRel ps ns := by
  rw [Node.ofPieces]
  cases hs : start.run ps with
  | error e =>
    have hno : ¬ BodyRel ps ns := by
      intro hb
      rw [run_start_body hb] at hs
      cases hs
    simp [hno, bind, Except.bind]
  | ok s =>
    rw [bodyRel_iff_of_run hs]
    cases hstack : s.stack <;> simp [finish, hstack, bind, Except.bind]

/-- **Pieces stand for one body at most.** -/
theorem BodyRel.unique {ps : List Piece} {ns ms : List Node} (hn : BodyRel ps ns)
    (hm : BodyRel ps ms) : ns = ms := by
  have h := ofPieces_eq_ok_iff.mpr hn
  rw [ofPieces_eq_ok_iff.mpr hm] at h
  exact (Except.ok.inj h).symm

end Wording.Blocks
