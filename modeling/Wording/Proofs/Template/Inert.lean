import Wording.Proofs.Template.Spelled
import Wording.Proofs.Template.Surrounded

/-!
# Text around a template is inert

A template with text around it that has no braces does what the template alone does, and writes the
text around what it writes; a text that is no template is refused for the same reason, as many
characters later as stand in front of it: `inert_around`.

1. A reader that has further nodes in front of the outermost body and stands further behind in the
   text takes the same pieces (`BlockState.step_behind`), so it comes to the same tree with these
   nodes in front (`Node.ofPieces_between`).
2. Nodes write behind what is written already, and never read it (`Node.render_behind`), so literal
   text around a tree is written around what the tree writes (`renderTemplate_between`).
-/

namespace Wording

open Blocks BlockState

/-! ## Further behind in a text -/

/-- A flaw as far behind as `k` characters. -/
def FlawAt.moved (k : Nat) (e : FlawAt) : FlawAt := { e with position := k + e.position }

/-- What a reading ends in as far behind as `k` characters, if `f` says it of its result. -/
def carried {α β : Type} (k : Nat) (f : α → β) (x : Except FlawAt α) : Except FlawAt β :=
  (x.map f).mapError (FlawAt.moved k)

@[simp] theorem carried_ok {α β : Type} (k : Nat) (f : α → β) (a : α) :
    carried k f (.ok a) = .ok (f a) := rfl

@[simp] theorem carried_error {α β : Type} (k : Nat) (f : α → β) (e : FlawAt) :
    carried k f (.error e) = .error (e.moved k) := rfl

theorem Piece.map_moved_zero (ps : List Piece) : ps.map (Piece.moved 0) = ps := by
  have hid : Piece.moved 0 = id := by
    funext p
    cases p with
    | text s => rfl
    | span role start inner => exact congrArg (Piece.span role · inner) (Nat.zero_add start)
  rw [hid, List.map_id]

/-! ## Reading behind other nodes -/

namespace BlockState

/-- A body and open blocks around it, with `front` in front of the outermost body and all places as
far behind as `k` characters. -/
def laid (k : Nat) (front : List Node) (body : List Node) : List OpenBlock → BlockState
  | [] => ⟨body ++ front.reverse, []⟩
  | b :: rest =>
    let around := laid k front b.outer rest
    ⟨body, ⟨b.opening, k + b.position, around.body⟩ :: around.stack⟩

/-- The same of a state of the reader. -/
def behind (k : Nat) (front : List Node) (s : BlockState) : BlockState :=
  laid k front s.body s.stack

variable {k i : Nat} {front : List Node}

theorem push_behind (s : BlockState) (n : Node) :
    (s.behind k front).push n = (s.push n).behind k front := by
  obtain ⟨body, stack⟩ := s
  cases stack <;> rfl

theorem enter_behind (s : BlockState) (o : Opening) :
    (s.behind k front).enter o (k + i) = (s.enter o i).behind k front := rfl

theorem close?_behind (s : BlockState) :
    (s.behind k front).close? = s.close?.map (·.behind k front) := by
  obtain ⟨body, stack⟩ := s
  cases stack with
  | nil => rfl
  | cons b rest =>
    simp only [behind, laid, close?, Option.map_map]
    refine congrArg (Option.map · _) (funext fun n => ?_)
    exact push_behind ⟨b.outer, rest⟩ n

/-- Reading an expression and going on, further behind. -/
theorem expression_behind {f f' : Expression → BlockState} {source : String}
    (h : ∀ e, f' e = (f e).behind k front) :
    (do return f' (← expression (k + i) source)) =
      carried k (behind k front) (do return f (← expression i source)) := by
  unfold expression
  cases Expression.read source with
  | error g => rfl
  | ok e => exact congrArg Except.ok (h e)

theorem statement_behind (s : BlockState) (t : Statement) :
    (s.behind k front).statement (k + i) t = carried k (behind k front) (s.statement i t) := by
  -- A branch is left by the kind of the innermost block and by its body, and neither has changed.
  cases t with
  | ifThen test => exact expression_behind fun e => enter_behind s _
  | elseIf test =>
    obtain ⟨body, stack⟩ := s
    cases stack with
    | nil => rfl
    | cons b rest =>
      obtain ⟨o, position, outer⟩ := b
      cases o with
      | branch before e₀ => exact expression_behind fun e => rfl
      | last before => rfl
      | loop name items => rfl
  | otherwise =>
    obtain ⟨body, stack⟩ := s
    cases stack with
    | nil => rfl
    | cons b rest =>
      obtain ⟨o, position, outer⟩ := b
      cases o <;> rfl
  | forEach name items => exact expression_behind fun e => enter_behind s _
  | done =>
    rw [statement, statement, close?_behind]
    cases s.close? <;> rfl
  | set name value => exact expression_behind fun e => push_behind s _
  | emit value => exact expression_behind fun e => push_behind s _

/-- **A piece is taken alike further behind.** -/
theorem step_behind (s : BlockState) (p : Piece) :
    (s.behind k front).step (p.moved k) = carried k (behind k front) (s.step p) := by
  match p with
  | .text t => exact congrArg Except.ok (push_behind s _)
  | .span .escape i inner => exact expression_behind fun e => push_behind s _
  | .span .interpolate i inner => exact expression_behind fun e => push_behind s _
  | .span .evaluate i inner =>
    cases ht : Statement.ofChars? (Text.trim inner.toList) with
    | none =>
      simp only [step, Piece.moved, ht]
      rfl
    | some t =>
      simp only [step, Piece.moved, ht]
      exact statement_behind s t

/-- **Pieces are taken alike further behind.** -/
theorem run_behind (s : BlockState) (ps : List Piece) :
    (s.behind k front).run (ps.map (Piece.moved k)) = carried k (behind k front) (s.run ps) := by
  induction ps generalizing s with
  | nil => rfl
  | cons p ps ih =>
    have hstep : (s.behind k front).step (p.moved k) = _ := step_behind s p
    cases hp : s.step p with
    | error e =>
      rw [hp, carried_error] at hstep
      rw [List.map_cons, run_cons_of_error hp, run_cons_of_error hstep, carried_error]
    | ok t =>
      rw [hp, carried_ok] at hstep
      rw [List.map_cons, run_cons_of_ok hp, run_cons_of_ok hstep, ih]

theorem finish_behind (s : BlockState) :
    (s.behind k front).finish = carried k (front ++ ·) s.finish := by
  obtain ⟨body, stack⟩ := s
  cases stack with
  | nil => simp [behind, laid, finish]
  | cons b rest => rfl

/-- The nodes of a body at the end go behind all others. -/
theorem finish_append (s : BlockState) (back : List Node) :
    finish ⟨back.reverse ++ s.body, s.stack⟩ = carried 0 (· ++ back) s.finish := by
  obtain ⟨body, stack⟩ := s
  cases stack with
  | nil => simp [finish]
  | cons b rest => simp [finish, FlawAt.moved]

end BlockState

/-- **Between two bodies, pieces stand for the tree that they stand for alone.** -/
theorem Node.ofPieces_between {front back : List Piece} {ns ms : List Node}
    (hfront : BodyRel front ns) (hback : BodyRel back ms) (k : Nat) (ps : List Piece) :
    Node.ofPieces (front ++ ps.map (Piece.moved k) ++ back) =
      carried k (ns ++ · ++ ms) (Node.ofPieces ps) := by
  have hstart : start.run (front ++ ps.map (Piece.moved k) ++ back) =
      (start.behind k ns).run (ps.map (Piece.moved k) ++ back) := by
    rw [List.append_assoc, run_body hfront, start, List.append_nil]
    rfl
  have hrun : (start.behind k ns).run (ps.map (Piece.moved k)) = _ := run_behind start ps
  rw [Node.ofPieces, Node.ofPieces, hstart]
  cases hs : start.run ps with
  | error e =>
    rw [hs, carried_error] at hrun
    rw [run_append_of_error hrun]
    rfl
  | ok s =>
    rw [hs, carried_ok] at hrun
    have hend : (s.behind k ns).run back =
        .ok ⟨ms.reverse ++ (s.behind k ns).body, (s.behind k ns).stack⟩ := by
      have hbody := run_body hback (s.behind k ns) []
      rwa [List.append_nil] at hbody
    rw [run_append_of_ok hrun, hend]
    show finish _ = carried k _ s.finish
    rw [finish_append, finish_behind]
    cases s.finish with
    | error e => simp [FlawAt.moved]
    | ok ns' => simp

/-! ## Writing behind what is written -/

/-- A page with text in front of what is written. -/
def Page.behind (t : String) (p : Page) : Page := { p with text := t ++ p.text }

theorem Page.write_behind (t s : String) (p : Page) :
    (p.behind t).write s = (p.write s).behind t :=
  congrArg (Page.mk p.bound) (String.append_assoc ..)

section

variable {round : Value → Page → Eval Page} {t : String}
  (hround : ∀ v p, round v (p.behind t) = Page.behind t <$> round v p)

include hround

theorem eachOf_behind (vs : List Value) (p : Page) :
    eachOf round vs (p.behind t) = Page.behind t <$> eachOf round vs p := by
  induction vs generalizing p with
  | nil => rfl
  | cons v vs ih =>
    rw [eachOf, eachOf, hround, bind_map_left, map_bind]
    exact bind_congr ih

theorem eachIn_behind (r : Ref) (limit i : Nat) (p : Page) :
    eachIn round r limit i (p.behind t) = Page.behind t <$> eachIn round r limit i p := by
  induction limit generalizing i p with
  | zero => rfl
  | succ limit ih =>
    rw [eachIn, eachIn, map_bind]
    refine bind_congr fun h => ?_
    cases (h.items r)[i]? with
    | none => rfl
    | some v =>
      simp only [hround, bind_map_left, map_bind]
      exact bind_congr fun q => ih _ q

theorem eachItem_behind (limit : Nat) (items : Value) (p : Page) :
    eachItem limit round items (p.behind t) = Page.behind t <$> eachItem limit round items p := by
  unfold eachItem
  split
  · rfl
  · exact eachIn_behind hround _ _ _ p
  · rw [map_bind]
    exact bind_congr fun vs => eachOf_behind hround vs p

end

variable (m : Machine) (context : Option Value) (t : String)

mutual

/-- **Nodes write behind what is written already**, and bind and fail as they do without it. -/
theorem Node.render_behind : (n : Node) → (p : Page) →
    n.render m context (p.behind t) = Page.behind t <$> n.render m context p
  | .text s, p => congrArg pure (Page.write_behind t s p)
  | .escape e, p => by
    simp only [Node.render, map_bind, map_pure, ← Page.write_behind]
    rfl
  | .interpolate e, p => by
    simp only [Node.render, map_bind, map_pure, ← Page.write_behind]
    rfl
  | .emit e, p => by
    simp only [Node.render, map_bind, map_pure, ← Page.write_behind]
    rfl
  | .set name e, p => by
    simp only [Node.render, map_bind, map_pure]
    rfl
  | .cond test body rest, p => by
    simp only [Node.render, map_bind]
    refine bind_congr fun v => bind_congr fun h => ?_
    split
    · exact Node.renderAll_behind body p
    · exact Branches.render_behind rest p
  | .loop name items body, p => by
    simp only [Node.render, map_bind]
    exact bind_congr fun v =>
      eachItem_behind (fun w q => Node.renderAll_behind body (q.bind name w)) _ _ p

theorem Node.renderAll_behind : (ns : List Node) → (p : Page) →
    Node.renderAll m context ns (p.behind t) = Page.behind t <$> Node.renderAll m context ns p
  | [], p => rfl
  | n :: ns, p => by
    rw [Node.renderAll, Node.renderAll, Node.render_behind n p, bind_map_left, map_bind]
    exact bind_congr fun q => Node.renderAll_behind ns q

theorem Branches.render_behind : (br : Branches) → (p : Page) →
    br.render m context (p.behind t) = Page.behind t <$> br.render m context p
  | .done, p => rfl
  | .otherwise body, p => by
    rw [Branches.render]
    exact Node.renderAll_behind body p
  | .elseIf test body rest, p => by
    simp only [Branches.render, map_bind]
    refine bind_congr fun v => bind_congr fun h => ?_
    split
    · exact Node.renderAll_behind body p
    · exact Branches.render_behind rest p

end

theorem Node.renderAll_append (ns ms : List Node) (p : Page) :
    Node.renderAll m context (ns ++ ms) p =
      Node.renderAll m context ns p >>= Node.renderAll m context ms := by
  induction ns generalizing p with
  | nil => rfl
  | cons n ns ih =>
    rw [List.cons_append, Node.renderAll, Node.renderAll, bind_assoc]
    exact bind_congr ih

theorem Node.renderAll_literal (s : String) (p : Page) :
    Node.renderAll m context (Node.literal s) p = pure (p.write s) := by
  unfold Node.literal
  split
  · rename_i h
    rw [h, Page.write, String.append_empty]
    rfl
  · rfl

/-- **Literal text around a tree is written around what the tree writes.** -/
theorem renderTemplate_between (front back : String) (ns : List Node) :
    renderTemplate m (Node.literal front ++ ns ++ Node.literal back) context =
      (front ++ · ++ back) <$> renderTemplate m ns context := by
  -- The text in front is written first; all else is written behind it.
  have hfront : Page.write ⟨[], ""⟩ front = Page.behind front ⟨[], ""⟩ := by
    rw [Page.write, Page.behind, String.empty_append, String.append_empty]
  unfold renderTemplate
  rw [map_bind]
  refine bind_congr fun c => ?_
  rw [List.append_assoc, Node.renderAll_append, Node.renderAll_literal, pure_bind, hfront,
    Node.renderAll_behind, bind_map_left, Node.renderAll_append, bind_assoc, map_bind]
  refine bind_congr fun p => ?_
  rw [Node.renderAll_literal, pure_bind, map_pure]
  exact congrArg pure (String.append_assoc ..).symm

/-! ## Templates with text around them -/

theorem bodyRel_gap (text : Array Char) (i : Nat) {j : Nat} (hj : j ≤ text.size) :
    BodyRel (Piece.gap text i j) (Node.literal (String.ofList (Braces.slice text i j))) :=
  ofPieces_eq_ok_iff.mp (Node.ofPieces_gap hj)

theorem Piece.ofText_of_regex {m : Markers} (hm : m.matcher.regex = Braces.pattern)
    (text : String) : Piece.ofText m text =
      Piece.ofHits text.toList.toArray 0 (Braces.scan text.toList.toArray) := by
  rw [Piece.ofText, Braces.hits_of_regex hm]

theorem toArray_append_append (l text r : String) :
    (l ++ text ++ r).toList.toArray = surrounded l.toList text.toList.toArray r.toList := by
  rw [String.toList_append, String.toList_append, surrounded]

/-- A text and the same text with others around it stand for the same tree between two literal
texts. -/
theorem ofPieces_surrounded {m : Markers} (hm : m.matcher.regex = Braces.pattern) {l r : String}
    (hl : BraceFree l) (hr : BraceFree r) (text : String) :
    (Node.ofPieces (Piece.ofText m text) = .ok (Node.literal text) ∧
      Node.ofPieces (Piece.ofText m (l ++ text ++ r)) = .ok (Node.literal (l ++ text ++ r))) ∨
    ∃ front back ps,
      Node.ofPieces (Piece.ofText m text) =
        carried 0 (Node.literal front ++ · ++ Node.literal back) (Node.ofPieces ps) ∧
      Node.ofPieces (Piece.ofText m (l ++ text ++ r)) =
        carried l.length (Node.literal (l ++ front) ++ · ++ Node.literal (back ++ r))
          (Node.ofPieces ps) := by
  have hwhole : ∀ s : String, Node.ofPieces (Piece.gap s.toList.toArray 0 s.toList.toArray.size) =
      .ok (Node.literal s) := by
    intro s
    rw [Node.ofPieces_gap (Nat.le_refl _), Array.extract_size, String.ofList_toList]
  rw [Piece.ofText_of_regex hm, Piece.ofText_of_regex hm, toArray_append_append]
  obtain ⟨hnone, hnone'⟩ | ⟨a, b, ps, ha, hb, hps, hps'⟩ :=
    Braces.pieces_surrounded text.toList.toArray hl.1 hr.1 hr.2
  · rw [hnone, hnone', hwhole, ← toArray_append_append, hwhole]
    exact .inl ⟨rfl, rfl⟩
  · refine .inr ⟨String.ofList (Braces.slice text.toList.toArray 0 a),
      String.ofList (Braces.slice text.toList.toArray b text.toList.toArray.size), ps, ?_, ?_⟩
    · have hbetween := Node.ofPieces_between (bodyRel_gap text.toList.toArray 0 ha)
        (bodyRel_gap text.toList.toArray b (Nat.le_refl _)) 0 ps
      rwa [Piece.map_moved_zero, ← hps] at hbetween
    · have hfront := bodyRel_gap (surrounded l.toList text.toList.toArray r.toList) 0
        (show l.toList.length + a ≤ _ by rw [Braces.size_surrounded]; omega)
      have hback := bodyRel_gap (surrounded l.toList text.toList.toArray r.toList)
        (l.toList.length + b) (Nat.le_refl _)
      rw [Braces.slice_surrounded_front ha, String.ofList_append, String.ofList_toList] at hfront
      rw [Braces.slice_surrounded_back hb, String.ofList_append, String.ofList_toList] at hback
      rw [hps', Node.ofPieces_between hfront hback, String.length_toList]

section

variable {m : Markers} {text : String}

theorem Template.compile_of_ok {ns : List Node}
    (h : Node.ofPieces (Piece.ofText m text) = .ok ns) :
    Template.compile m text = .ok ⟨text, m, ns⟩ := by
  rw [Template.compile, h]

theorem Template.compile_of_error {e : FlawAt}
    (h : Node.ofPieces (Piece.ofText m text) = .error e) :
    Template.compile m text = .error ⟨e.flaw, some text, some ↑e.position⟩ := by
  rw [Template.compile, h]

end

/-- The end of the message of a flaw whose place is known. -/
def offsetNote (n : Int) : String := " (at offset " ++ toString n ++ ")"

theorem TemplateError.message_of_position {e : TemplateError} {n : Int}
    (h : e.position = some n) : e.message = e.flaw.message ++ offsetNote n := by
  rw [message, h]
  simp only [offsetNote, String.append_assoc]

/-- Text without braces around a text changes nothing but what is written around: what was a
template still is one, and writes the text around what it wrote, and what was none is refused for
the same reason, as many characters later as stand in front of it. -/
theorem inert_around {m : Markers}
    (hm : Markers.ofOffers Marker.doubleBraces Marker.tripleBraces Marker.hashBraces = .ok m)
    {l r : String} (hl : BraceFree l) (hr : BraceFree r) (text : String) :
    (∀ t, Template.compile m text = .ok t →
      ∃ t', Template.compile m (l ++ text ++ r) = .ok t' ∧
        ∀ machine context heap,
          outcome (renderTemplate machine t'.nodes context) heap =
            ((outcome (renderTemplate machine t.nodes context) heap).1.map (l ++ · ++ r),
              (outcome (renderTemplate machine t.nodes context) heap).2)) ∧
      ∀ e, Template.compile m text = .error e →
        ∃ (n : Nat) (e' : TemplateError), Template.compile m (l ++ text ++ r) = .error e' ∧
          e'.flaw = e.flaw ∧ e.position = some ↑n ∧ e'.position = some ↑(n + l.length) ∧
          e.message = e.flaw.message ++ offsetNote ↑n ∧
          e'.message = e.flaw.message ++ offsetNote ↑(n + l.length) := by
  have hregex : m.matcher.regex = Braces.pattern := by
    obtain ⟨m', hm', hregex⟩ := Braces.exists_ofOffers
    rwa [Except.ok.inj (hm.symm.trans hm')]
  obtain ⟨htext, hwhole⟩ | ⟨front, back, ps, htext, hwhole⟩ :=
    ofPieces_surrounded hregex hl hr text
  · rw [Template.compile_of_ok htext, Template.compile_of_ok hwhole]
    refine ⟨fun t ht => ⟨_, rfl, fun machine context heap => ?_⟩, nofun⟩
    obtain rfl := Except.ok.inj ht
    rw [outcome_renderTemplate_literal, outcome_renderTemplate_literal]
    rfl
  · cases hps : Node.ofPieces ps with
    | ok ns =>
      rw [hps, carried_ok] at htext hwhole
      rw [Template.compile_of_ok htext, Template.compile_of_ok hwhole]
      refine ⟨fun t ht => ⟨_, rfl, fun machine context heap => ?_⟩, nofun⟩
      obtain rfl := Except.ok.inj ht
      rw [renderTemplate_between, renderTemplate_between, outcome_map, outcome_map]
      cases (outcome (renderTemplate machine ns context) heap).1 with
      | error e => rfl
      | ok s => simp only [Except.map, String.append_assoc]
    | error e =>
      rw [hps, carried_error] at htext hwhole
      rw [Template.compile_of_error htext, Template.compile_of_error hwhole]
      refine ⟨fun t ht => (nomatch ht), fun e₀ he₀ => ?_⟩
      obtain rfl := Except.error.inj he₀
      have hplace : (FlawAt.moved 0 e).position = e.position := Nat.zero_add _
      have hplace' : (FlawAt.moved l.length e).position = e.position + l.length := Nat.add_comm ..
      rw [hplace, hplace']
      exact ⟨e.position, _, rfl, rfl, rfl, rfl, TemplateError.message_of_position rfl,
        TemplateError.message_of_position rfl⟩

/-- A value with a line around it writes its line; a condition that is left open is refused two
characters later. -/
theorem inert_around_line :
    ∃ m t t' e e',
      Markers.ofOffers Marker.doubleBraces Marker.tripleBraces Marker.hashBraces = .ok m ∧
      BraceFree "# " ∧ BraceFree "\n" ∧
      Template.compile m "\x7b\x7b\x7b n \x7d\x7d\x7d" = .ok t ∧
      Template.compile m ("# " ++ "\x7b\x7b\x7b n \x7d\x7d\x7d" ++ "\n") = .ok t' ∧
      (∃ machine context heap,
        (outcome (renderTemplate machine t'.nodes context) heap).1.toOption = some "# x\n") ∧
      Template.compile m "\x7b\x7b#if n\x7d\x7d" = .error e ∧
      Template.compile m ("# " ++ "\x7b\x7b#if n\x7d\x7d" ++ "\n") = .error e' ∧
      e.message = "Unterminated \x27if\x27 block (at offset 0)" ∧
      e'.message = "Unterminated \x27if\x27 block (at offset 2)" := by
  obtain ⟨m, hm, h⟩ := exists_of_map_toOption
    (x := Markers.ofOffers Marker.doubleBraces Marker.tripleBraces Marker.hashBraces)
    (f := fun m =>
      ((Template.compile m "\x7b\x7b\x7b n \x7d\x7d\x7d").toOption.map fun t =>
        (outcome (renderTemplate ⟨fun _ _ => throw .exhausted, 0⟩ t.nodes (some (.dict 0)))
          ⟨#[.dict [(.str "n", .str "x")]]⟩).1.toOption,
      match Template.compile m "\x7b\x7b#if n\x7d\x7d" with
      | .ok _ => none
      | .error e => some (e.flaw, e.position)))
    (b := (some (some "x"), some (.unterminated .ifThen, some 0))) (by decide +kernel)
  obtain ⟨hvalue, hopen⟩ := Prod.mk.inj h
  obtain ⟨t, ht, htext⟩ := exists_of_map_toOption hvalue
  have hl : BraceFree "# " := by decide
  have hr : BraceFree "\n" := by decide
  obtain ⟨t', ht', hrender⟩ := (inert_around hm hl hr _).1 t ht
  cases hc : Template.compile m "\x7b\x7b#if n\x7d\x7d" with
  | ok t =>
    rw [hc] at hopen
    cases hopen
  | error e =>
    rw [hc] at hopen
    obtain ⟨hflaw, hposition⟩ := Prod.mk.inj (Option.some.inj hopen)
    obtain ⟨n, e', he', -, hn, -, hmessage, hmessage'⟩ := (inert_around hm hl hr _).2 e hc
    obtain rfl : n = 0 := Int.ofNat.inj (Option.some.inj (hn.symm.trans hposition))
    rw [hflaw] at hmessage hmessage'
    refine ⟨m, t, t', e, e', hm, hl, hr, ht, ht', ⟨⟨fun _ _ => throw .exhausted, 0⟩, some (.dict 0),
      ⟨#[.dict [(.str "n", .str "x")]]⟩, ?_⟩, hc, he', hmessage, hmessage'⟩
    rw [hrender]
    generalize (outcome (renderTemplate _ t.nodes _) _).1 = result at htext
    cases result with
    | error f => cases htext
    | ok s =>
      cases htext
      rfl

end Wording
