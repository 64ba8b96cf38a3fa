import Wording.Proofs.Template.RoundTrip

/-!
# Characters around a text

With characters in front of a text and behind it that are no braces, the scanner finds the spans of
the text again, each as far behind as there are characters in front, and no other span.

* No span begins in front of the text or behind it, because a span begins with a brace
  (`scanFrom_text`).
* A span that begins within the text ends at a closing. None of the closings lies outside the text,
  so the first one is the same (`firstFrom?_surrounded`), and up to it nothing is read but the text
  (`spanAt?_surrounded`).

Of the literal text of a template only the first piece and the last one take further characters:
`pieces_surrounded`.
-/

namespace Wording

open Pattern (standsAt standsAt_cons)
open Markers

/-- A text with characters in front of it and behind it. -/
def surrounded (l : List Char) (text : Array Char) (r : List Char) : Array Char :=
  (l ++ text.toList ++ r).toArray

/-- A match as far behind as `k` characters. -/
def Markers.Hit.moved (k : Nat) (h : Hit) : Hit :=
  { h with start := k + h.start, stop := k + h.stop }

/-- A piece as far behind as `k` characters. -/
def Piece.moved (k : Nat) : Piece → Piece
  | .text s => .text s
  | .span role start inner => .span role (k + start) inner

namespace Braces

variable {text : Array Char} {l r cs : List Char} {i j : Nat}

/-! ## What stands where -/

theorem size_surrounded : (surrounded l text r).size = l.length + text.size + r.length := by
  simp [surrounded, Nat.add_assoc]

theorem length_drop_toList (i : Nat) : (text.toList.drop i).length = text.size - i := by
  rw [List.length_drop, Array.length_toList]

theorem drop_surrounded (i : Nat) : (surrounded l text r).toList.drop (l.length + i) =
    text.toList.drop i ++ r.drop (i - text.size) := by
  rw [surrounded, List.append_assoc, ← List.drop_drop, List.drop_left, List.drop_append,
    Array.length_toList]

theorem getElem?_surrounded (i : Nat) : (surrounded l text r)[l.length + i]? =
    if i < text.size then text[i]? else r[i - text.size]? := by
  rw [← Array.getElem?_toList, surrounded, List.append_assoc, List.getElem?_append_right (by omega),
    Nat.add_sub_cancel_left, List.getElem?_append, Array.length_toList, Array.getElem?_toList]

theorem otherAt_surrounded (hi : i < text.size) :
    otherAt (surrounded l text r) cs (l.length + i) = otherAt text cs i := by
  rw [otherAt, otherAt, getElem?_surrounded, if_pos hi]

theorem slice_surrounded (hj : j ≤ text.size) :
    slice (surrounded l text r) (l.length + i) (l.length + j) = slice text i j := by
  rw [toList_slice, toList_slice, drop_surrounded, Nat.add_sub_add_left,
    List.take_append_of_le_length]
  rw [length_drop_toList]
  omega

/-- What stands in front of a place of the text. -/
theorem slice_surrounded_front (hi : i ≤ text.size) :
    slice (surrounded l text r) 0 (l.length + i) = l ++ slice text 0 i := by
  rw [toList_slice, toList_slice, Nat.sub_zero, Nat.sub_zero, List.drop_zero, List.drop_zero,
    surrounded, List.append_assoc, List.take_length_add_append, List.take_append_of_le_length]
  rwa [Array.length_toList]

/-- What stands from a place of the text on. -/
theorem slice_surrounded_back (hi : i ≤ text.size) :
    slice (surrounded l text r) (l.length + i) (surrounded l text r).size =
      slice text i text.size ++ r := by
  rw [toList_slice, toList_slice, drop_surrounded, Nat.sub_eq_zero_of_le hi, List.drop_zero,
    List.take_of_length_le, List.take_of_length_le (Nat.le_of_eq (length_drop_toList i))]
  rw [List.length_append, length_drop_toList, size_surrounded]
  omega

/-- Characters that are found up to the end of the text are those of the text. -/
theorem standsAt_surrounded (hi : i + cs.length ≤ text.size) :
    standsAt (surrounded l text r) cs (l.length + i) = standsAt text cs i := by
  rw [standsAt, standsAt, drop_surrounded, Bool.eq_iff_iff, List.isPrefixOf_iff_prefix,
    List.isPrefixOf_iff_prefix]
  constructor
  · intro h
    refine List.prefix_of_prefix_length_le h (List.prefix_append _ _) ?_
    rw [length_drop_toList]
    omega
  · exact fun h => h.trans (List.prefix_append _ _)

theorem add_length_le_of_standsAt (hcs : cs ≠ []) (h : standsAt text cs i = true) :
    i + cs.length ≤ text.size := by
  have hlen := (List.isPrefixOf_iff_prefix.mp h).length_le
  have hpos := List.length_pos_iff.mpr hcs
  rw [length_drop_toList] at hlen
  omega

/-! ## Closings -/

/-- No closing lies behind the text, and none goes on there. -/
theorem standsAt_closing_surrounded (hclose : '\x7d' ∉ r) (n i : Nat) :
    standsAt (surrounded l text r) (closing n) (l.length + i) = standsAt text (closing n) i := by
  induction n generalizing i with
  | zero => rfl
  | succ n ih =>
    have hfirst : ((surrounded l text r)[l.length + i]? == some '\x7d') =
        (text[i]? == some '\x7d') := by
      rw [getElem?_surrounded]
      split
      · rfl
      · rename_i hi
        have hno : r[i - text.size]? ≠ some '\x7d' := fun h => hclose (List.mem_of_getElem? h)
        rw [Array.getElem?_eq_none (Nat.le_of_not_lt hi), beq_eq_false_iff_ne.mpr hno]
        rfl
    rw [closing, List.replicate_succ, standsAt_cons, standsAt_cons, hfirst, Nat.add_assoc]
    exact congrArg _ (ih (i + 1))

theorem closing_ne_nil (n : Nat) : closing (n + 1) ≠ [] := nofun

theorem firstFrom?_closing_eq_some_iff {n : Nat} :
    firstFrom? text (closing (n + 1)) i = some j ↔ i ≤ j ∧
      standsAt text (closing (n + 1)) j = true ∧
      ∀ k, i ≤ k → k < j → standsAt text (closing (n + 1)) k = false := by
  rw [firstFrom?, List.find?_range'_eq_some]
  simp only [List.mem_range'_1, Bool.not_eq_true']
  constructor
  · rintro ⟨hj, ⟨hle, -⟩, hbefore⟩
    exact ⟨hle, hj, hbefore⟩
  · rintro ⟨hle, hj, hbefore⟩
    have := add_length_le_of_standsAt (closing_ne_nil n) hj
    exact ⟨hj, ⟨hle, by omega⟩, hbefore⟩

theorem add_le_of_firstFrom?_closing {n : Nat} (h : firstFrom? text (closing (n + 1)) i = some j) :
    j + (n + 1) ≤ text.size := by
  have := add_length_le_of_standsAt (closing_ne_nil n) (firstFrom?_closing_eq_some_iff.mp h).2.1
  rwa [closing, List.length_replicate] at this

/-- **The first closing is that of the text.** -/
theorem firstFrom?_surrounded (hclose : '\x7d' ∉ r) (n i : Nat) :
    firstFrom? (surrounded l text r) (closing (n + 1)) (l.length + i) =
      (firstFrom? text (closing (n + 1)) i).map (l.length + ·) := by
  refine Option.ext fun j => ?_
  rw [Option.map_eq_some_iff, firstFrom?_closing_eq_some_iff]
  simp only [firstFrom?_closing_eq_some_iff]
  constructor
  · rintro ⟨hle, hj, hbefore⟩
    obtain ⟨d, rfl⟩ := Nat.exists_eq_add_of_le (Nat.le_trans (Nat.le_add_right _ i) hle)
    rw [standsAt_closing_surrounded hclose] at hj
    refine ⟨d, ⟨Nat.le_of_add_le_add_left hle, hj, fun k hik hkd => ?_⟩, rfl⟩
    rw [← standsAt_closing_surrounded (l := l) hclose]
    exact hbefore _ (Nat.add_le_add_left hik _) (Nat.add_lt_add_left hkd _)
  · rintro ⟨d, ⟨hle, hd, hbefore⟩, rfl⟩
    rw [standsAt_closing_surrounded hclose]
    refine ⟨Nat.add_le_add_left hle _, hd, fun k hik hkd => ?_⟩
    obtain ⟨k, rfl⟩ := Nat.exists_eq_add_of_le (Nat.le_trans (Nat.le_add_right _ i) hik)
    rw [standsAt_closing_surrounded hclose]
    exact hbefore k (Nat.le_of_add_le_add_left hik) (Nat.lt_of_add_lt_add_left hkd)

/-! ## Spans -/

/-- An opening with a character behind it within the text is that of the text. -/
theorem opens_surrounded {ds : List Char} (hi : i + cs.length < text.size) :
    (standsAt (surrounded l text r) cs (l.length + i) &&
        otherAt (surrounded l text r) ds (l.length + (i + cs.length))) =
      (standsAt text cs i && otherAt text ds (i + cs.length)) := by
  rw [standsAt_surrounded (Nat.le_of_lt hi), otherAt_surrounded hi]

/-- A span depends on what is read up to its closing only. -/
theorem ite_map_moved {k : Nat} {c c' : Bool} {o : Option Nat} {f f' : Nat → Hit}
    (h : ∀ j ∈ o, c' = c ∧ f' (k + j) = (f j).moved k) :
    (if c' then (o.map (k + ·)).map f' else none) =
      (if c then o.map f else none).map (Hit.moved k) := by
  cases o with
  | none => cases c <;> cases c' <;> rfl
  | some j =>
    obtain ⟨rfl, hf⟩ := h j rfl
    cases c' with
    | false => rfl
    | true => exact congrArg some hf

theorem escapeAt?_surrounded (hclose : '\x7d' ∉ r) (i : Nat) :
    escapeAt? (surrounded l text r) (l.length + i) =
      (escapeAt? text i).map (Hit.moved l.length) := by
  rw [escapeAt?, escapeAt?, Nat.add_assoc, Nat.add_assoc, firstFrom?_surrounded hclose]
  refine ite_map_moved fun j hj => ?_
  have hle := le_of_firstFrom? hj
  have hstop := add_le_of_firstFrom?_closing hj
  rw [slice_surrounded (by omega)]
  exact ⟨opens_surrounded (show i + 2 < text.size by omega), rfl⟩

theorem interpolateAt?_surrounded (hclose : '\x7d' ∉ r) (i : Nat) :
    interpolateAt? (surrounded l text r) (l.length + i) =
      (interpolateAt? text i).map (Hit.moved l.length) := by
  rw [interpolateAt?, interpolateAt?, Nat.add_assoc, Nat.add_assoc, firstFrom?_surrounded hclose]
  refine ite_map_moved fun j hj => ?_
  have hle := le_of_firstFrom? hj
  have hstop := add_le_of_firstFrom?_closing hj
  rw [slice_surrounded (by omega)]
  exact ⟨opens_surrounded (show i + 3 < text.size by omega), rfl⟩

/-- The first closing, if it is on the line. -/
theorem filter_firstFrom?_surrounded (hclose : '\x7d' ∉ r) (n i : Nat) :
    (firstFrom? (surrounded l text r) (closing (n + 1)) (l.length + i)).filter
        (fun j => !(slice (surrounded l text r) (l.length + i) j).contains '\n') =
      ((firstFrom? text (closing (n + 1)) i).filter
        fun j => !(slice text i j).contains '\n').map (l.length + ·) := by
  rw [firstFrom?_surrounded hclose]
  cases hj : firstFrom? text (closing (n + 1)) i with
  | none => rfl
  | some j =>
    have hstop := add_le_of_firstFrom?_closing hj
    rw [Option.map_some, Option.filter_some, Option.filter_some, slice_surrounded (by omega)]
    split <;> rfl

theorem evaluateAt?_surrounded (hclose : '\x7d' ∉ r) (i : Nat) :
    evaluateAt? (surrounded l text r) (l.length + i) =
      (evaluateAt? text i).map (Hit.moved l.length) := by
  rw [evaluateAt?, evaluateAt?, Nat.add_assoc, Nat.add_assoc, filter_firstFrom?_surrounded hclose]
  refine ite_map_moved fun j hj => ?_
  have hfirst := (Option.filter_eq_some_iff.mp hj).1
  have hle := le_of_firstFrom? hfirst
  have hstop := add_le_of_firstFrom?_closing hfirst
  rw [slice_surrounded (by omega)]
  exact ⟨opens_surrounded (show i + 3 < text.size by omega), rfl⟩

/-- **Within the text the same spans begin.** -/
theorem spanAt?_surrounded (hclose : '\x7d' ∉ r) (i : Nat) :
    spanAt? (surrounded l text r) (l.length + i) =
      (spanAt? text i).map (Hit.moved l.length) := by
  rw [spanAt?, escapeAt?_surrounded hclose, interpolateAt?_surrounded hclose,
    evaluateAt?_surrounded hclose, spanAt?, Option.map_or, Option.map_or]

/-- A span ends within the text. -/
theorem stop_le_of_spanAt? {h : Hit} (hi : i ≤ text.size) (hs : spanAt? text i = some h) :
    h.stop ≤ text.size := by
  have hat : (pattern.matchAt? text i false).map (Hit.ofMatch text) = _ := matchAt?_pattern i
  rw [hs, Option.some_or] at hat
  obtain ⟨m, hm, rfl⟩ := Option.map_eq_some_iff.mp hat
  obtain ⟨-, -, hsize, -⟩ := Pattern.Regex.of_matchAt? hi hm
  exact hsize

/-! ## The scanner -/

/-- A match that lies within the text. -/
def Within (text : Array Char) (h : Hit) : Prop := h.start ≤ text.size ∧ h.stop ≤ text.size

/-- From any place of the text on, the scanner finds the spans of the text, and then the end. -/
theorem exists_spans (hopen : '\x7b' ∉ r) (hclose : '\x7d' ∉ r) (hi : i ≤ text.size) :
    ∃ spans, (∀ h ∈ spans, Within text h) ∧ scanFrom text i = spans ++ [lastHit text] ∧
      scanFrom (surrounded l text r) (l.length + i) =
        spans.map (Hit.moved l.length) ++ [lastHit (surrounded l text r)] := by
  induction h : text.size - i using Nat.strongRecOn generalizing i with
  | _ n ih =>
    subst h
    obtain rfl | hlt := Nat.eq_or_lt_of_le hi
    -- Behind the text there is nothing but the characters that were put there.
    · have hdrop : (surrounded l text r).toList.drop (l.length + text.size) = r ++ [] := by
        rw [drop_surrounded, Nat.sub_self, List.drop_zero, List.append_nil,
          List.drop_eq_nil_of_le (by rw [Array.length_toList]), List.nil_append]
      refine ⟨[], nofun, scanFrom_size text, ?_⟩
      rw [scanFrom_text hopen hdrop, ← size_surrounded, scanFrom_size]
      rfl
    · have hlt' : l.length + i < (surrounded l text r).size := by
        rw [size_surrounded]
        omega
      cases hspan : spanAt? text i with
      | none =>
        have hspan' : spanAt? (surrounded l text r) (l.length + i) = none := by
          rw [spanAt?_surrounded hclose, hspan, Option.map_none]
        rw [scanFrom_of_none hlt hspan, scanFrom_of_none hlt' hspan', Nat.add_assoc]
        exact ih _ (by omega) hlt rfl
      | some span =>
        obtain ⟨hstart, hmoves⟩ := start_spanAt? hspan
        have hstop := stop_le_of_spanAt? hi hspan
        have hspan' : spanAt? (surrounded l text r) (l.length + i) =
            some (span.moved l.length) := by
          rw [spanAt?_surrounded hclose, hspan, Option.map_some]
        obtain ⟨spans, hwithin, hscan, hscan'⟩ := ih (text.size - span.stop) (by omega) hstop rfl
        refine ⟨span :: spans, List.forall_mem_cons.mpr ⟨⟨by omega, hstop⟩, hwithin⟩, ?_, ?_⟩
        · rw [scanFrom_of_some hlt hspan, hscan, List.cons_append]
        · rw [scanFrom_of_some hlt' hspan', List.map_cons, List.cons_append]
          exact congrArg _ hscan'

/-- The scanner goes through the characters in front of the text. -/
theorem scan_surrounded (hl : '\x7b' ∉ l) :
    scan (surrounded l text r) = scanFrom (surrounded l text r) l.length := by
  have hdrop : (surrounded l text r).toList.drop 0 = l ++ (text.toList ++ r) := by
    rw [List.drop_zero, surrounded, List.append_assoc]
  rw [scan, scanFrom_text hl hdrop, Nat.zero_add]

/-! ## Pieces -/

theorem gap_surrounded (hj : j ≤ text.size) :
    Piece.gap (surrounded l text r) (l.length + i) (l.length + j) = Piece.gap text i j := by
  have hslice : ((surrounded l text r).extract (l.length + i) (l.length + j)).toList =
      (text.extract i j).toList := slice_surrounded hj
  simp only [Piece.gap, hslice, Nat.add_lt_add_iff_left]

theorem map_moved_gap (k : Nat) :
    (Piece.gap text i j).map (Piece.moved k) = Piece.gap text i j := by
  unfold Piece.gap
  split <;> rfl

theorem ofHit_moved (k : Nat) (h : Hit) :
    Piece.ofHit (h.moved k) = (Piece.ofHit h).map (Piece.moved k) := by
  have hrole : (h.moved k).role? = h.role? := rfl
  rw [Piece.ofHit, Piece.ofHit, hrole]
  cases h.role? <;> rfl

theorem ofHits_lastHit (i : Nat) :
    Piece.ofHits text i [lastHit text] = Piece.gap text i text.size := by
  simp [Piece.ofHits, Piece.ofHit, lastHit, Hit.role?]

/-- Between two places of the text the pieces are those of the text; the last literal text takes the
characters behind it. -/
theorem exists_ofHits_surrounded {spans : List Hit} (hspans : ∀ h ∈ spans, Within text h)
    (hi : i ≤ text.size) :
    ∃ ps b, b ≤ text.size ∧
      Piece.ofHits text i (spans ++ [lastHit text]) = ps ++ Piece.gap text b text.size ∧
      Piece.ofHits (surrounded l text r) (l.length + i)
          (spans.map (Hit.moved l.length) ++ [lastHit (surrounded l text r)]) =
        ps.map (Piece.moved l.length) ++
          Piece.gap (surrounded l text r) (l.length + b) (surrounded l text r).size := by
  induction spans generalizing i with
  | nil => exact ⟨[], i, hi, ofHits_lastHit i, ofHits_lastHit _⟩
  | cons h spans ih =>
    obtain ⟨⟨hstart, hstop⟩, hrest⟩ := List.forall_mem_cons.mp hspans
    obtain ⟨ps, b, hb, hps, hps'⟩ := ih hrest hstop
    refine ⟨Piece.gap text i h.start ++ Piece.ofHit h ++ ps, b, hb, ?_, ?_⟩
    · rw [List.cons_append, Piece.ofHits, hps]
      simp only [List.append_assoc]
    · have hgap : Piece.gap (surrounded l text r) (l.length + i) (h.moved l.length).start =
          Piece.gap text i h.start := gap_surrounded hstart
      rw [List.map_cons, List.cons_append, Piece.ofHits, hgap, ofHit_moved, List.map_append,
        List.map_append, map_moved_gap, List.append_assoc _ (ps.map _)]
      exact congrArg _ hps'

/-- **The pieces of the text are found again.** Either all of it is literal, or the first literal
text and the last one take the characters around the text. -/
theorem pieces_surrounded (text : Array Char) (hl : '\x7b' ∉ l) (hopen : '\x7b' ∉ r)
    (hclose : '\x7d' ∉ r) :
    (Piece.ofHits text 0 (scan text) = Piece.gap text 0 text.size ∧
      Piece.ofHits (surrounded l text r) 0 (scan (surrounded l text r)) =
        Piece.gap (surrounded l text r) 0 (surrounded l text r).size) ∨
    ∃ a b ps, a ≤ text.size ∧ b ≤ text.size ∧
      Piece.ofHits text 0 (scan text) = Piece.gap text 0 a ++ ps ++ Piece.gap text b text.size ∧
      Piece.ofHits (surrounded l text r) 0 (scan (surrounded l text r)) =
        Piece.gap (surrounded l text r) 0 (l.length + a) ++ ps.map (Piece.moved l.length) ++
          Piece.gap (surrounded l text r) (l.length + b) (surrounded l text r).size := by
  obtain ⟨spans, hwithin, hscan, hscan'⟩ :=
    exists_spans (l := l) hopen hclose (Nat.zero_le text.size)
  rw [Nat.add_zero] at hscan'
  rw [scan_surrounded hl, hscan', scan, hscan]
  cases spans with
  | nil => exact .inl ⟨ofHits_lastHit 0, ofHits_lastHit 0⟩
  | cons h spans =>
    obtain ⟨⟨hstart, hstop⟩, hrest⟩ := List.forall_mem_cons.mp hwithin
    obtain ⟨ps, b, hb, hps, hps'⟩ := exists_ofHits_surrounded (l := l) (r := r) hrest hstop
    refine .inr ⟨h.start, b, Piece.ofHit h ++ ps, hstart, hb, ?_, ?_⟩
    · rw [List.cons_append, Piece.ofHits, hps]
      simp only [List.append_assoc]
    · rw [List.map_cons, List.cons_append, Piece.ofHits, ofHit_moved, List.map_append]
      simp only [List.append_assoc]
      exact congrArg _ (congrArg _ hps')

end Braces

end Wording
