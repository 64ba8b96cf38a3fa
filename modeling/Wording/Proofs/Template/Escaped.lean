import Wording.Proofs.Template.Spelled
import Wording.Proofs.Text.Html

/-!
# Templates that escape

Where the marker for escaped values is the only one, a template has literal text and spans whose
values are escaped, and nothing else. What it gives is its literal text with an inert text for each
match between (`renders_escaped`), whatever the values in the context are and whatever their texts
look like.

* `Markers.Sound.role_of_mem_hits`: matches are of the one role or of none
* `Markers.woven`: the literal text with what is inserted for the matches
* `renders_escaped`: the text that a template gives
-/

namespace Wording

open Pattern

/-! ## Matches -/

namespace Pattern.Regex

variable {text : Array Char} {r : Regex} {found : Match}

theorem exists_of_searchFrom? {pos n : Nat} {advance : Bool}
    (h : r.searchFrom? text pos advance n = some found) :
    ∃ pos advance, r.matchAt? text pos advance = some found := by
  induction n generalizing pos advance with
  | zero => exact ⟨pos, advance, h⟩
  | succ n ih =>
    rw [searchFrom?] at h
    cases hm : r.matchAt? text pos advance with
    | some m =>
      rw [hm] at h
      exact ⟨pos, advance, hm.trans h⟩
    | none =>
      rw [hm] at h
      exact ih h

/-- A match that a scan finds is a way to match from where it starts. -/
theorem exists_of_mem_scan (h : found ∈ r.scan text) :
    ∃ t ∈ (r.run text ⟨found.start, []⟩).toList, found = ⟨found.start, t.pos, t.groups⟩ := by
  have hfrom (fuel pos : Nat) (advance : Bool) (h : found ∈ r.scanFrom text fuel pos advance) :
      ∃ pos advance, r.matchAt? text pos advance = some found := by
    induction fuel generalizing pos advance with
    | zero => cases h
    | succ fuel ih =>
      rw [scanFrom] at h
      cases hm : r.searchFrom? text pos advance (text.size - pos) with
      | none =>
        rw [hm] at h
        cases h
      | some m =>
        rw [hm] at h
        rcases List.mem_cons.mp h with rfl | h
        · exact exists_of_searchFrom? hm
        · exact ih _ _ h
  obtain ⟨pos, advance, hm⟩ := hfrom _ _ _ h
  rw [matchAt?, Search.find?_eq_find?] at hm
  obtain ⟨t, ht, rfl⟩ := Option.map_eq_some_iff.mp hm
  exact ⟨t, List.mem_of_find?_eq_some ht, rfl⟩

/-- The ways to match from the start on, under new numbers. -/
theorem toList_run_start_renumber {ρ : Nat → Nat} (hρ : Function.Injective ρ) (r : Regex)
    (pos : Nat) : ((r.renumber ρ).run text ⟨pos, []⟩).toList =
      (r.run text ⟨pos, []⟩).toList.map (State.renumber ρ) :=
  toList_run_renumber hρ r ⟨pos, []⟩

end Pattern.Regex

namespace Markers

variable {m : Markers} {text : Array Char}

/-- The pattern that matches nowhere does not do so under other numbers. -/
theorem toList_run_nowhere (text : Array Char) (k pos : Nat) :
    ((Marker.nowherePattern.regex.renumber (shift k)).run text ⟨pos, []⟩).toList = [] := by
  have hnone := Marker.matchAt?_nowhere text pos
  rw [Regex.matchAt?_false, Option.map_eq_none_iff, List.head?_eq_none_iff] at hnone
  rw [Regex.toList_run_start_renumber (shift_injective k), hnone, List.map_nil]

/-- **Without other markers, no other group takes part in a match.** -/
theorem Sound.role_of_mem_hits (h : m.Sound) (hinterpolate : m.interpolate = none)
    (hevaluate : m.evaluate = none) :
    ∀ hit ∈ m.hits text, hit.interpolate = none ∧ hit.evaluate = none := by
  obtain ⟨f, hplaced, hregex⟩ := h.exists_alternatives
  have hnowhere (r : Role) (hr : m.pattern r = Marker.nowherePattern) (pos : Nat) :
      ((f r).run text ⟨pos, []⟩).toList = [] := by
    have hplaced := hplaced r
    rw [hr] at hplaced
    rw [hplaced.eq_renumber (.inr rfl), toList_run_nowhere]
  have hescape : f .escape = (m.pattern .escape).regex.renumber (shift 0) :=
    (hplaced .escape).eq_renumber (.inl rfl)
  intro hit hhit
  obtain ⟨found, hfound, rfl⟩ := List.mem_map.mp hhit
  obtain ⟨t, ht, heq⟩ := Regex.exists_of_mem_scan hfound
  -- A way to match is one of the marker, whose only group is the first one, or the end of the text.
  have hgroups : ∀ g ∈ t.groups, g.1 = 1 := by
    rw [hregex] at ht
    simp only [Regex.alternatives, Regex.run, Search.toList_append, List.mem_append] at ht
    rcases ht with ht | ht | ht | ht
    · rw [hescape, Regex.toList_run_start_renumber (shift_injective 0)] at ht
      obtain ⟨u, hu, rfl⟩ := List.mem_map.mp ht
      intro g hg
      obtain ⟨g', hg', rfl⟩ := List.mem_map.mp hg
      have hin := (Regex.groups_of_mem_run hu g' hg').resolve_left List.not_mem_nil
      have hbounds := (hplaced .escape).captures g'.1 hin
      rw [(h.fit .escape).groupCount] at hbounds
      rw [shift_zero]
      exact Nat.le_antisymm hbounds.2 hbounds.1
    · rw [hnowhere .interpolate (by simp [pattern, get?, hinterpolate])] at ht
      cases ht
    · rw [hnowhere .evaluate (by simp [pattern, get?, hevaluate])] at ht
      cases ht
    · split at ht
      · rw [Search.toList_pure, List.mem_singleton] at ht
        subst ht
        exact fun g hg => absurd hg List.not_mem_nil
      · cases ht
  have hnone (n : Nat) (hn : n ≠ 1) : found.group? text n = none := by
    rw [heq, Match.group?, Option.map_eq_none_iff, List.find?_eq_none]
    intro g hg
    simpa [hgroups g hg] using hn.symm
  exact ⟨hnone _ (by decide), hnone _ (by decide)⟩

/-- The roles that no marker is offered for have none. -/
theorem absent_of_ofOffers {escape : MarkerOffer} (h : ofOffers escape .absent .absent = .ok m) :
    m.interpolate = none ∧ m.evaluate = none := by
  obtain ⟨_, -, hrest⟩ := exists_of_bind_eq_ok h
  obtain ⟨_, hinterpolate, hrest⟩ := exists_of_bind_eq_ok hrest
  obtain ⟨_, hevaluate, hrest⟩ := exists_of_bind_eq_ok hrest
  obtain ⟨_, -, hpure⟩ := exists_of_bind_eq_ok hrest
  cases hpure
  cases hinterpolate
  cases hevaluate
  exact ⟨rfl, rfl⟩

end Markers

/-! ## Pieces and nodes -/

/-- Literal text, and spans whose values are escaped, with their nodes. -/
inductive Piece.Escapes : Piece → Node → Prop
  | text (s : String) : Escapes (.text s) (.text s)
  | escape {start : Nat} {inner : String} {e : Expression} (he : Expression.read inner = .ok e) :
    Escapes (.span .escape start inner) (.escape e)

/-- A piece is literal text or a span whose value is escaped. -/
def Piece.isEscape : Piece → Bool
  | .text _ | .span .escape _ _ => true
  | _ => false

namespace Blocks

/-- **Pieces that are no statements stand for one node each.** -/
theorem forall₂_of_run {ps : List Piece} (hps : ∀ p ∈ ps, p.isEscape = true) {s t : BlockState}
    (h : s.run ps = .ok t) :
    ∃ ns, List.Forall₂ Piece.Escapes ps ns ∧ t = ⟨ns.reverse ++ s.body, s.stack⟩ := by
  induction ps generalizing s with
  | nil =>
    cases h
    exact ⟨[], .nil, rfl⟩
  | cons p ps ih =>
    obtain ⟨hp, hps⟩ := List.forall_mem_cons.mp hps
    obtain ⟨u, hu, h⟩ := exists_of_bind_eq_ok h
    obtain ⟨ns, hns, rfl⟩ := ih hps h
    have hnode (n : Node) (hn : p.Escapes n) (hpush : s.push n = u) :
        ∃ ns', List.Forall₂ Piece.Escapes (p :: ps) ns' ∧
          (⟨ns.reverse ++ u.body, u.stack⟩ : BlockState) = ⟨ns'.reverse ++ s.body, s.stack⟩ := by
      refine ⟨n :: ns, .cons hn hns, ?_⟩
      rw [← hpush, List.reverse_cons, List.append_assoc]
      rfl
    cases p with
    | text str => exact hnode (.text str) (.text str) (Except.ok.inj hu)
    | span role start inner =>
      cases role with
      | escape =>
        obtain ⟨e, he, hpure⟩ := exists_of_bind_eq_ok hu
        refine hnode (.escape e) (.escape ?_) (Except.ok.inj hpure)
        unfold BlockState.expression at he
        split at he
        · cases he
          assumption
        · cases he
      | interpolate => cases hp
      | evaluate => cases hp

theorem forall₂_of_ofPieces {ps : List Piece} (hps : ∀ p ∈ ps, p.isEscape = true) {ns : List Node}
    (h : Node.ofPieces ps = .ok ns) : List.Forall₂ Piece.Escapes ps ns := by
  obtain ⟨t, ht, hfinish⟩ := exists_of_bind_eq_ok h
  obtain ⟨ns', hns', rfl⟩ := forall₂_of_run hps ht
  have hout : ns'.reverse.reverse = ns := by
    simpa [BlockState.start, BlockState.finish] using hfinish
  rwa [← hout, List.reverse_reverse]

end Blocks

/-! ## Rendering -/

/-- What is inserted for a piece: literal text as it is, and some text escaped for a span. -/
inductive Piece.Inserts : Piece → List Char → Prop
  | text (s : String) : Inserts (.text s) s.toList
  | span (role : Role) (start : Nat) (inner : String) (s : List Char) :
    Inserts (.span role start inner) (Text.Html.escape s)

/-- **Rendering writes an escaped text for each span.** -/
theorem inserts_of_renderAll {machine : Machine} {context : Option Value} {ps : List Piece}
    {ns : List Node} (hns : List.Forall₂ Piece.Escapes ps ns) {p q : Page} {heap heap' : Heap}
    (h : outcome (Node.renderAll machine context ns p) heap = (.ok q, heap')) :
    ∃ inserted, List.Forall₂ Piece.Inserts ps inserted ∧
      q.text.toList = p.text.toList ++ inserted.flatten := by
  induction hns generalizing p heap with
  | nil =>
    cases h
    exact ⟨[], .nil, (List.append_nil _).symm⟩
  | @cons piece n ps ns hn _ ih =>
    rw [Node.renderAll] at h
    obtain ⟨u, k, hu, h⟩ := exists_of_outcome_bind_eq_ok h
    obtain ⟨inserted, hinserted, htext⟩ := ih h
    cases hn with
    | text s =>
      cases hu
      refine ⟨s.toList :: inserted, .cons (.text s) hinserted, ?_⟩
      rw [htext, Page.write, String.toList_append, List.flatten_cons, List.append_assoc]
    | @escape start inner e he =>
      rw [Node.render] at hu
      obtain ⟨v, k₁, -, hu⟩ := exists_of_outcome_bind_eq_ok hu
      obtain ⟨s, k₂, hs, hu⟩ := exists_of_outcome_bind_eq_ok hu
      cases hu
      obtain ⟨plain, k₃, -, hs⟩ := exists_of_outcome_bind_eq_ok hs
      cases hs
      refine ⟨Text.Html.escape plain.toList :: inserted, .cons (.span _ _ _ _) hinserted, ?_⟩
      rw [htext, Page.write, String.toList_append, String.toList_ofList, List.flatten_cons,
        List.append_assoc]

namespace Markers

/-- The literal text in front of each match and what is inserted for the match, from a place on. -/
def woven (text : Array Char) : Nat → List (Hit × List Char) → List Char
  | _, [] => []
  | pos, (h, cs) :: hs =>
    (Piece.gap text pos h.start).flatMap Piece.literal ++ cs ++ woven text h.stop hs

/-- The literal text of a template: what stands in front of each match. -/
def gaps (text : Array Char) (pos : Nat) (hs : List Hit) : List Char :=
  woven text pos (hs.map fun h => (h, []))

/-- What may be inserted for a match: an escaped text for a span, and nothing for a match in which
the marker did not take part. -/
def Hit.Inserts (h : Hit) (cs : List Char) : Prop :=
  (h.escape = none → cs = []) ∧ ∃ s, cs = Text.Html.escape s

variable {text : Array Char} {pos : Nat}

theorem exists_of_forall₂_append {α β : Type} {R : α → β → Prop} {xs ys : List α} {zs : List β}
    (h : List.Forall₂ R (xs ++ ys) zs) :
    ∃ us vs, zs = us ++ vs ∧ List.Forall₂ R xs us ∧ List.Forall₂ R ys vs := by
  induction xs generalizing zs with
  | nil => exact ⟨[], zs, rfl, .nil, h⟩
  | cons x xs ih =>
    cases h with
    | cons hx h =>
      obtain ⟨us, vs, rfl, hus, hvs⟩ := ih h
      exact ⟨_ :: us, vs, rfl, .cons hx hus, hvs⟩

/-- For the literal text between two places, the text itself. -/
theorem flatten_of_gap {i j : Nat} {inserted : List (List Char)}
    (h : List.Forall₂ Piece.Inserts (Piece.gap text i j) inserted) :
    inserted.flatten = (Piece.gap text i j).flatMap Piece.literal := by
  unfold Piece.gap at h ⊢
  split at h
  · obtain _ | ⟨⟨s⟩, ⟨⟩⟩ := h
    rw [if_pos ‹_›]
    simp [Piece.literal]
  · cases h
    rw [if_neg ‹_›]
    rfl

/-- For a match, an escaped text if the marker took part. -/
theorem inserts_of_hit {h : Hit} (hinterpolate : h.interpolate = none)
    (hevaluate : h.evaluate = none) {inserted : List (List Char)}
    (hi : List.Forall₂ Piece.Inserts (Piece.ofHit h) inserted) : h.Inserts inserted.flatten := by
  unfold Piece.ofHit Hit.role? at hi
  rw [hinterpolate, hevaluate] at hi
  cases hescape : h.escape with
  | none =>
    rw [hescape] at hi
    cases hi
    exact ⟨fun _ => rfl, [], rfl⟩
  | some cs =>
    rw [hescape] at hi
    obtain _ | ⟨hspan, ⟨⟩⟩ := hi
    obtain - | ⟨-, -, -, s⟩ := hspan
    refine ⟨fun hnone => ?_, s, by simp⟩
    rw [hescape] at hnone
    cases hnone

/-- **What is inserted for the pieces of a text is inserted for its matches.** -/
theorem exists_woven {hs : List Hit}
    (hroles : ∀ h ∈ hs, h.interpolate = none ∧ h.evaluate = none) {inserted : List (List Char)}
    (h : List.Forall₂ Piece.Inserts (Piece.ofHits text pos hs) inserted) :
    ∃ es : List (Hit × List Char), es.map (·.1) = hs ∧ (∀ e ∈ es, e.1.Inserts e.2) ∧
      inserted.flatten = woven text pos es := by
  induction hs generalizing pos inserted with
  | nil =>
    cases h
    exact ⟨[], rfl, List.forall_mem_nil _, rfl⟩
  | cons hit hs ih =>
    obtain ⟨⟨hinterpolate, hevaluate⟩, hroles⟩ := List.forall_mem_cons.mp hroles
    obtain ⟨front, rest, rfl, hfront, hrest⟩ := exists_of_forall₂_append h
    obtain ⟨gap, span, rfl, hgap, hspan⟩ := exists_of_forall₂_append hfront
    obtain ⟨es, hes, hinserts, heq⟩ := ih hroles hrest
    refine ⟨(hit, span.flatten) :: es, by rw [List.map_cons, hes], ?_, ?_⟩
    · exact List.forall_mem_cons.mpr ⟨inserts_of_hit hinterpolate hevaluate hspan, hinserts⟩
    · rw [List.flatten_append, List.flatten_append, heq, flatten_of_gap hgap, woven]

/-- The pieces of a text with escape spans only. -/
theorem isEscape_of_mem_ofHits {hs : List Hit}
    (hroles : ∀ h ∈ hs, h.interpolate = none ∧ h.evaluate = none) :
    ∀ p ∈ Piece.ofHits text pos hs, p.isEscape = true := by
  induction hs generalizing pos with
  | nil => exact List.forall_mem_nil _
  | cons hit hs ih =>
    obtain ⟨⟨hinterpolate, hevaluate⟩, hroles⟩ := List.forall_mem_cons.mp hroles
    intro p hp
    rw [Piece.ofHits, List.mem_append, List.mem_append] at hp
    rcases hp with (hgap | hspan) | hrest
    · unfold Piece.gap at hgap
      split at hgap
      · rw [List.mem_singleton.mp hgap]
        rfl
      · cases hgap
    · unfold Piece.ofHit Hit.role? at hspan
      rw [hinterpolate, hevaluate] at hspan
      cases hescape : hit.escape with
      | none =>
        rw [hescape] at hspan
        cases hspan
      | some cs =>
        rw [hescape] at hspan
        rw [List.mem_singleton.mp hspan]
        rfl
    · exact ih hroles p hrest

/-- **Marks are in the literal text only**: each of them is in the whole as often as there. -/
theorem count_woven {c : Char} (hc : c ∈ Text.Html.marks) {es : List (Hit × List Char)}
    (hes : ∀ e ∈ es, e.1.Inserts e.2) :
    (woven text pos es).count c = (gaps text pos (es.map (·.1))).count c := by
  induction es generalizing pos with
  | nil => rfl
  | cons e es ih =>
    obtain ⟨⟨-, s, hs⟩, hes⟩ := List.forall_mem_cons.mp hes
    have hnone : e.2.count c = 0 :=
      List.count_eq_zero.mpr (hs ▸ (Text.Html.inert_escape s).no_mark c hc)
    have hrest : (woven text e.1.stop es).count c =
        (woven text e.1.stop ((es.map (·.1)).map fun h => (h, []))).count c := ih hes
    rw [List.map_cons, gaps, List.map_cons, woven, woven, List.count_append, List.count_append,
      List.count_append, List.count_append, hnone, hrest, List.count_nil]

end Markers

/-- **A template that escapes lets nothing into its markup.** Where a marker for escaped values is
the only one, and whatever that marker is, the text that a template gives is its literal text, as it
is, with an inert text for each match in which the marker took part and nothing for the others; the
literal text and the matches make up the template. Each of the five marks is in the text as often as
in the literal text, whatever the context holds. -/
theorem renders_escaped {escape : MarkerOffer} {m : Markers} (hescape : escape.Genuine)
    (hm : Markers.ofOffers escape .absent .absent = .ok m) {text : String} {t : Template}
    (ht : Template.compile m text = .ok t) {machine : Machine} {context : Option Value}
    {heap heap' : Heap} {out : String}
    (h : outcome (renderTemplate machine t.nodes context) heap = (.ok out, heap')) :
    let cs := text.toList.toArray
    ∃ es : List (Markers.Hit × List Char), es.map (·.1) = m.hits cs ∧
      out.toList = Markers.woven cs 0 es ∧
      (∀ e ∈ es, (e.1.escape = none → e.2 = []) ∧ Text.Html.Inert e.2) ∧
      Markers.spelled cs 0 (m.hits cs) = text.toList ∧
      ∀ c ∈ ['<', '>', '"', '\x27', '\x60'],
        out.toList.count c = (Markers.gaps cs 0 (m.hits cs)).count c := by
  intro cs
  have hsound := Markers.sound_of_ofOffers hescape MarkerOffer.genuine_absent
    MarkerOffer.genuine_absent hm
  have hroles : ∀ hit ∈ m.hits cs, hit.interpolate = none ∧ hit.evaluate = none :=
    hsound.role_of_mem_hits (Markers.absent_of_ofOffers hm).1 (Markers.absent_of_ofOffers hm).2
  have hnodes : Node.ofPieces (Piece.ofHits cs 0 (m.hits cs)) = .ok t.nodes := by
    unfold Template.compile at ht
    split at ht
    · cases ht
      assumption
    · cases ht
  have hescapes := Blocks.forall₂_of_ofPieces (Markers.isEscape_of_mem_ofHits hroles) hnodes
  obtain ⟨_, _, -, h⟩ := exists_of_outcome_bind_eq_ok h
  obtain ⟨page, _, hpage, h⟩ := exists_of_outcome_bind_eq_ok h
  cases h
  obtain ⟨inserted, hinserted, htext⟩ := inserts_of_renderAll hescapes hpage
  obtain ⟨es, hes, hinserts, heq⟩ := Markers.exists_woven hroles hinserted
  have hout : page.text.toList = Markers.woven cs 0 es := by
    rw [htext, heq]
    rfl
  have htiles := Regex.tiles_scan (hsound.isSome_matchAt?_size cs)
  have hspelled : Markers.spelled cs 0 (m.hits cs) = text.toList := by
    rw [Markers.hits, Markers.spelled_of_tiles htiles, Array.extract_size]
  refine ⟨es, hes, hout, fun e he => ?_, hspelled, fun c hc => ?_⟩
  · obtain ⟨hnone, s, hs⟩ := hinserts e he
    exact ⟨hnone, hs ▸ Text.Html.inert_escape s⟩
  · rw [hout, ← hes]
    exact Markers.count_woven hc hinserts

/-- What is between two signs of percent is escaped; a value tries to end a quote and a tag. -/
theorem renders_escaped_quote :
    ∃ m t heap', Markers.ofOffers (.source "%(a+)%") .absent .absent = .ok m ∧
      Template.compile m "<%a%>" = .ok t ∧
      outcome (renderTemplate ⟨fun _ _ => throw .exhausted, 0⟩ t.nodes (some (.dict 0)))
        ⟨#[.dict [(.str "a", .str "\x22>")]]⟩ = (.ok "<&quot;&gt;>", heap') ∧
      Markers.spelled #['<', '%', 'a', '%', '>'] 0 (m.hits #['<', '%', 'a', '%', '>']) =
        ['<', '%', 'a', '%', '>'] ∧
      ∃ es : List (Markers.Hit × List Char), es.map (·.1) = m.hits #['<', '%', 'a', '%', '>'] ∧
        "<&quot;&gt;>".toList = Markers.woven #['<', '%', 'a', '%', '>'] 0 es ∧
        ∀ e ∈ es, (e.1.escape = none → e.2 = []) ∧ Text.Html.Inert e.2 := by
  obtain ⟨m, hm, h⟩ := exists_of_map_toOption
    (x := Markers.ofOffers (.source "%(a+)%") .absent .absent)
    (f := fun m => (Template.compile m "<%a%>").toOption.map fun t =>
      (outcome (renderTemplate ⟨fun _ _ => throw .exhausted, 0⟩ t.nodes (some (.dict 0)))
        ⟨#[.dict [(.str "a", .str "\x22>")]]⟩).1.toOption)
    (b := some (some "<&quot;&gt;>")) (by decide +kernel)
  obtain ⟨t, ht, hout⟩ := exists_of_map_toOption h
  generalize hrender : outcome (renderTemplate _ t.nodes _) _ = result at hout
  obtain ⟨_ | out, heap'⟩ := result
  · cases hout
  · cases hout
    obtain ⟨es, hes, hwoven, hinert, hspelled, -⟩ :=
      renders_escaped (MarkerOffer.genuine_source _) hm ht hrender
    exact ⟨m, t, heap', hm, ht, hrender, hspelled, es, hes, hwoven, hinert⟩

end Wording
