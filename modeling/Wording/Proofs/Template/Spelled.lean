import Wording.Proofs.Marker.Combined
import Wording.Proofs.Outcome
import Wording.Template.Basic
import Wording.Template.Render

/-!
# No character is lost

The matches of the markers come in order and reach the end of the text, so that the literal text in
front of each match and the match itself, one after the other, spell the text again. A text in which
no marker matches is all literal, and a template of it renders as the text.

The second part needs that markers keep their meaning, and so holds where they do: with a reference
by number behind the first marker, a text can change in which no marker matches.
-/

namespace Wording

open Pattern

/-- The characters that a piece stands for as they are. -/
def Piece.literal : Piece → List Char
  | .text s => s.toList
  | .span _ _ _ => []

namespace Markers

/-- The literal text in front of each match with the characters of the match, from a place on. -/
def spelled (text : Array Char) : Nat → List Hit → List Char
  | _, [] => []
  | pos, h :: hs =>
    (Piece.gap text pos h.start).flatMap Piece.literal ++ (text.extract h.start h.stop).toList ++
      spelled text h.stop hs

variable {text : Array Char} {pos : Nat}

/-! ## Spelling -/

theorem extract_append {i j k : Nat} (hij : i ≤ j) (hjk : j ≤ k) :
    (text.extract i j).toList ++ (text.extract j k).toList = (text.extract i k).toList := by
  rw [← Array.toList_append, Array.extract_append_extract, Nat.min_eq_left hij,
    Nat.max_eq_right hjk]

/-- The literal text between two places is the text between them. -/
theorem literal_gap {i j : Nat} (hij : i ≤ j) :
    (Piece.gap text i j).flatMap Piece.literal = (text.extract i j).toList := by
  unfold Piece.gap
  split
  · rw [List.flatMap_singleton, Piece.literal, String.toList_ofList]
  · rw [Nat.le_antisymm hij (Nat.le_of_not_lt ‹_›)]
    simp

/-- **Matches that tile a text spell it.** -/
theorem spelled_of_tiles {ms : List Match} (h : Tiles text.size pos ms) :
    spelled text pos (ms.map (Hit.ofMatch text)) = (text.extract pos text.size).toList := by
  induction h with
  | nil => simp [spelled]
  | @cons pos m ms hstart hstop hms ih =>
    show (Piece.gap text pos m.start).flatMap Piece.literal ++
      (text.extract m.start m.stop).toList ++ spelled text m.stop (ms.map (Hit.ofMatch text)) = _
    rw [ih, literal_gap hstart, extract_append hstart hstop,
      extract_append (Nat.le_trans hstart hstop) hms.pos_le]

/-- Matches that tile a text come in order. -/
theorem isChain_of_tiles {ms : List Match} (h : Tiles text.size pos ms) :
    (ms.map (Hit.ofMatch text)).IsChain fun h h' => h.stop ≤ h'.start := by
  induction h with
  | nil => exact .nil
  | @cons pos m ms _ _ hms ih =>
    cases ms with
    | nil => exact .singleton _
    | cons m' ms => exact .cons_cons hms.of_cons.1 ih

theorem start_le_stop_of_tiles {ms : List Match} (h : Tiles text.size pos ms) :
    ∀ h ∈ ms.map (Hit.ofMatch text), h.start ≤ h.stop := by
  induction h with
  | nil => exact nofun
  | cons hstart hstop hms ih => exact List.forall_mem_cons.mpr ⟨hstop, ih⟩

/-- The last of the matches that tile a text ends with it. -/
theorem stop_getLast?_of_tiles {ms : List Match} (h : Tiles text.size pos ms) (hne : ms ≠ []) :
    (ms.map (Hit.ofMatch text)).getLast?.map (·.stop) = some text.size := by
  induction h with
  | nil => exact absurd rfl hne
  | @cons pos m ms _ _ hms ih =>
    cases ms with
    | nil => exact congrArg some hms.of_nil
    | cons m' ms =>
      rw [List.map_cons, List.map_cons, List.getLast?_cons_cons]
      exact ih nofun

/-- The pattern of all markers matches at the end of a text, if nothing else does there. -/
theorem Sound.isSome_matchAt?_size {m : Markers} (h : m.Sound) (text : Array Char) :
    (m.matcher.regex.matchAt? text text.size false).isSome := by
  obtain ⟨f, -, hregex⟩ := h.exists_alternatives
  have hend : (Regex.anchor .textEnd).matchAt? text text.size false =
      some ⟨text.size, text.size, []⟩ := by
    rw [matchAt?_textEnd, if_pos rfl]
  rw [hregex]
  simp only [Regex.alternatives, Regex.matchAt?_alt, hend, Option.isSome_or, Option.isSome_some,
    Bool.or_true]

/-! ## Texts without matches -/

/-- Where no marker matches, all that is found is the end of the text. -/
theorem Sound.hits_of_none {m : Markers} (h : m.Sound) (hnumbers : m.Unnumbered)
    (hnone : ∀ r, ∀ pos ≤ text.size, m.ownMatch? text pos r = none) :
    m.hits text = [Hit.ofMatch text ⟨text.size, text.size, []⟩] := by
  have hat : ∀ pos ≤ text.size, m.matcher.regex.matchAt? text pos false =
      if pos = text.size then some ⟨pos, pos, []⟩ else none := by
    intro pos hpos
    have hfirst : m.firstMatch? text pos = none := by
      rw [firstMatch?, List.findSome?_eq_none_iff]
      exact fun r _ => by rw [hnone r pos hpos]; rfl
    rw [h.matchAt?_matcher hnumbers, hfirst]
    rfl
  have hscan : m.matcher.regex.scan text = [⟨text.size, text.size, []⟩] := by
    refine Regex.scan_of_end (fun pos hpos => ?_) ?_
    · rw [hat pos (Nat.le_of_lt hpos), if_neg (Nat.ne_of_lt hpos)]
    · rw [hat _ (Nat.le_refl _), if_pos rfl]
  rw [hits, hscan]
  rfl

end Markers

/-- A template without spans: its literal text, if there is any. -/
def Node.literal (s : String) : List Node := if s = "" then [] else [.text s]

theorem Node.ofPieces_gap {text : Array Char} {i j : Nat} (hj : j ≤ text.size) :
    Node.ofPieces (Piece.gap text i j) =
      .ok (Node.literal (String.ofList (text.extract i j).toList)) := by
  have hempty : String.ofList (text.extract i j).toList = "" ↔ ¬ i < j := by
    rw [← String.toList_inj, String.toList_ofList]
    simp
    omega
  unfold Piece.gap Node.literal
  split
  · rw [if_neg (mt hempty.mp (not_not.mpr ‹_›))]
    rfl
  · rw [if_pos (hempty.mpr ‹_›)]
    rfl

/-- **A literal text renders as itself**, whatever the context. -/
theorem outcome_renderTemplate_literal (machine : Machine) (s : String) (context : Option Value)
    (heap : Heap) :
    outcome (renderTemplate machine (Node.literal s) context) heap = (.ok s, heap) := by
  have hwrite : outcome (Node.renderAll machine (context.filter heap.truthy) (Node.literal s)
      ⟨[], ""⟩) heap = (.ok ⟨[], s⟩, heap) := by
    unfold Node.literal
    split
    · rename_i h
      rw [h, Node.renderAll]
      rfl
    · rw [Node.renderAll, Node.render, pure_bind, Node.renderAll, outcome_pure, Page.write,
        String.empty_append]
  unfold renderTemplate
  rw [outcome_bind_of_ok (show outcome (contextOf context) heap = (.ok _, heap) from rfl),
    outcome_bind_of_ok hwrite]
  rfl

namespace Markers

/-- The matches of a text come in order, reach its end and spell it with the literal text between
them; and where none of the markers matches, the template of the text renders as the text. -/
theorem spelled_and_literal {escape interpolate evaluate : MarkerOffer} {m : Markers}
    (hescape : escape.Genuine) (hinterpolate : interpolate.Genuine) (hevaluate : evaluate.Genuine)
    (hm : ofOffers escape interpolate evaluate = .ok m) (text : String) :
    let cs := text.toList.toArray
    (m.hits cs).IsChain (fun h h' => h.stop ≤ h'.start) ∧
      (∀ h ∈ m.hits cs, h.start ≤ h.stop) ∧
      (m.hits cs).getLast?.map (·.stop) = some cs.size ∧
      spelled cs 0 (m.hits cs) = text.toList ∧
      (m.Unnumbered → (∀ r, ∀ pos ≤ cs.size, m.ownMatch? cs pos r = none) →
        ∃ t, Template.compile m text = .ok t ∧
          ∀ machine context heap,
            outcome (renderTemplate machine t.nodes context) heap = (.ok text, heap)) := by
  intro cs
  have hsound := sound_of_ofOffers hescape hinterpolate hevaluate hm
  have hend := hsound.isSome_matchAt?_size cs
  have htiles : Tiles cs.size 0 (m.matcher.regex.scan cs) := Regex.tiles_scan hend
  have hall : (cs.extract 0 cs.size).toList = text.toList := by
    rw [Array.extract_size]
  refine ⟨isChain_of_tiles htiles, start_le_stop_of_tiles htiles,
    stop_getLast?_of_tiles htiles (Regex.scan_ne_nil hend), ?_, fun hnumbers hnone => ?_⟩
  · rw [hits, spelled_of_tiles htiles, hall]
  -- The only match is the end of the text, in which no role takes part.
  · have hpieces : Piece.ofText m text = Piece.gap cs 0 cs.size := by
      show Piece.ofHits cs 0 (m.hits cs) = _
      rw [hsound.hits_of_none hnumbers hnone]
      exact (List.append_nil _).trans (List.append_nil _)
    have hnodes : Node.ofPieces (Piece.ofText m text) = .ok (Node.literal text) := by
      rw [hpieces, Node.ofPieces_gap (Nat.le_refl _), hall, String.ofList_toList]
    refine ⟨⟨text, m, Node.literal text⟩, ?_, fun machine context heap =>
      outcome_renderTemplate_literal machine text context heap⟩
    rw [Template.compile, hnodes]

/-- No marker matches at one of the places of a short text. -/
theorem ownMatch?_eq_none {m : Markers} {text : Array Char} {n : Nat}
    (h : ∀ r ∈ Role.all, ∀ pos ∈ List.range n, m.ownMatch? text pos r = none) :
    ∀ r, ∀ pos < n, m.ownMatch? text pos r = none :=
  fun r pos hpos => h r (by cases r <;> decide) pos (List.mem_range.mpr hpos)

/-- A marker that matches nowhere in a text leaves it as it is. -/
theorem renderTemplate_unmatched :
    ∃ m, ofOffers .absent (.source "(?P<x>a)(?P=x)") .absent = .ok m ∧
      spelled #['a', 'c'] 0 (m.hits #['a', 'c']) = ['a', 'c'] ∧
      ∃ t, Template.compile m "ac" = .ok t ∧
        ∀ machine context heap,
          outcome (renderTemplate machine t.nodes context) heap = (.ok "ac", heap) := by
  obtain ⟨m, hm, h⟩ := exists_of_map_toOption
    (x := ofOffers .absent (.source "(?P<x>a)(?P=x)") .absent)
    (f := fun m => (m.numbers,
      decide (∀ r ∈ Role.all, ∀ pos ∈ List.range 3, m.ownMatch? #['a', 'c'] pos r = none)))
    (b := ([none, some [], none], true)) (by decide +kernel)
  obtain ⟨hnumbers, hnone⟩ := Prod.mk.inj h
  have hunmatched := ownMatch?_eq_none (of_decide_eq_true hnone)
  obtain ⟨-, -, -, hspelled, hliteral⟩ := spelled_and_literal MarkerOffer.genuine_absent
    (MarkerOffer.genuine_source _) MarkerOffer.genuine_absent hm "ac"
  exact ⟨m, hm, hspelled, hliteral (unnumbered_of_numbers hnumbers) fun r pos hpos =>
    hunmatched r pos (Nat.lt_succ_of_le hpos)⟩

/-- A condition that names its group by number can change a text in which its marker matches
nowhere. -/
theorem renderTemplate_conditionalReference :
    ∃ m t, ofOffers .absent (.source "(a)(?(1)b|c)") .absent = .ok m ∧
      Template.compile m "ac" = .ok t ∧
      (∀ r, ∀ pos < 3, m.ownMatch? #['a', 'c'] pos r = none) ∧
      ∃ machine context heap,
        (outcome (renderTemplate machine t.nodes context) heap).1.toOption = some "x" := by
  obtain ⟨m, hm, h⟩ := exists_of_map_toOption
    (x := ofOffers .absent (.source "(a)(?(1)b|c)") .absent)
    (f := fun m =>
      (decide (∀ r ∈ Role.all, ∀ pos ∈ List.range 3, m.ownMatch? #['a', 'c'] pos r = none),
        (Template.compile m "ac").toOption.map fun t =>
          (outcome (renderTemplate ⟨fun _ _ => throw .exhausted, 0⟩ t.nodes (some (.dict 0)))
            ⟨#[.dict [(.str "a", .str "x")]]⟩).1.toOption))
    (b := (true, some (some "x"))) (by decide +kernel)
  obtain ⟨hnone, hcompile⟩ := Prod.mk.inj h
  obtain ⟨t, ht, htext⟩ := exists_of_map_toOption hcompile
  exact ⟨m, t, hm, ht, ownMatch?_eq_none (of_decide_eq_true hnone), _, _, _, htext⟩

end Markers

end Wording
