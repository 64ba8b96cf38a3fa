import Mathlib.Data.List.TakeWhile
import Wording.Marker.Basic
import Wording.Proofs.Outcome
import Wording.Proofs.Pattern.Delimited
import Wording.Proofs.Pattern.Tiling

/-!
# Spans between braces

What the three known markers find in a text, said without patterns. A scanner goes through the text
from left to right and asks at each place for a span that begins there:

* two braces, a character that is no brace and no number sign, at least one more character, two
  closing braces: a value that is escaped
* the same with three braces on each side: a value that is written as it is
* two braces and a number sign, a character that is no brace, any characters up to a line feed, two
  closing braces: a statement

A span ends with the first closing that leaves it its characters. `hits_eq_scan` says that the
markers find these spans and, at the end of the text, a match without characters.

The scanner ends because a span is not empty.
-/

namespace Wording.Braces

open Pattern Markers

/-! ## Spans -/

/-- So many opening braces. -/
def opening (n : Nat) : List Char := List.replicate n '\x7b'

/-- So many closing braces. -/
def closing (n : Nat) : List Char := List.replicate n '\x7d'

/-- The characters from `i` on in front of `j`. -/
def slice (text : Array Char) (i j : Nat) : List Char := (text.extract i j).toList

/-- Whether a character stands at `i` that is none of `cs`. -/
def otherAt (text : Array Char) (cs : List Char) (i : Nat) : Bool :=
  text[i]?.any fun c => !cs.contains c

/-- The first place from `i` on at which `cs` stands. -/
def firstFrom? (text : Array Char) (cs : List Char) (i : Nat) : Option Nat :=
  (List.range' i (text.size + 1 - i)).find? (standsAt text cs)

/-- A value that is escaped, from `i` on. -/
def escapeAt? (text : Array Char) (i : Nat) : Option Hit :=
  if standsAt text (opening 2) i && otherAt text ['\x7b', '\x7d', '#'] (i + 2) then
    (firstFrom? text (closing 2) (i + 4)).map fun j =>
      ⟨i, j + 2, some (slice text (i + 2) j), none, none⟩
  else none

/-- A value that is written as it is, from `i` on. -/
def interpolateAt? (text : Array Char) (i : Nat) : Option Hit :=
  if standsAt text (opening 3) i && otherAt text ['\x7b', '\x7d', '#'] (i + 3) then
    (firstFrom? text (closing 3) (i + 5)).map fun j =>
      ⟨i, j + 3, none, some (slice text (i + 3) j), none⟩
  else none

/-- A statement, from `i` on. -/
def evaluateAt? (text : Array Char) (i : Nat) : Option Hit :=
  if standsAt text (opening 2 ++ ['#']) i && otherAt text ['\x7b', '\x7d'] (i + 3) then
    ((firstFrom? text (closing 2) (i + 4)).filter fun j =>
      !(slice text (i + 4) j).contains '\n').map fun j =>
        ⟨i, j + 2, none, none, some (slice text (i + 3) j)⟩
  else none

/-- The span that begins at `i`. -/
def spanAt? (text : Array Char) (i : Nat) : Option Hit :=
  (escapeAt? text i).or ((interpolateAt? text i).or (evaluateAt? text i))

theorem le_of_firstFrom? {text : Array Char} {cs : List Char} {i j : Nat}
    (h : firstFrom? text cs i = some j) : i ≤ j :=
  (List.mem_range'_1.mp (List.mem_of_find?_eq_some h)).1

theorem start_escapeAt? {text : Array Char} {i : Nat} {h : Hit}
    (hs : escapeAt? text i = some h) : h.start = i ∧ i < h.stop := by
  unfold escapeAt? at hs
  split at hs
  · obtain ⟨j, hj, rfl⟩ := Option.map_eq_some_iff.mp hs
    have := le_of_firstFrom? hj
    exact ⟨rfl, by simp only; omega⟩
  · cases hs

theorem start_interpolateAt? {text : Array Char} {i : Nat} {h : Hit}
    (hs : interpolateAt? text i = some h) : h.start = i ∧ i < h.stop := by
  unfold interpolateAt? at hs
  split at hs
  · obtain ⟨j, hj, rfl⟩ := Option.map_eq_some_iff.mp hs
    have := le_of_firstFrom? hj
    exact ⟨rfl, by simp only; omega⟩
  · cases hs

theorem start_evaluateAt? {text : Array Char} {i : Nat} {h : Hit}
    (hs : evaluateAt? text i = some h) : h.start = i ∧ i < h.stop := by
  unfold evaluateAt? at hs
  split at hs
  · obtain ⟨j, hj, rfl⟩ := Option.map_eq_some_iff.mp hs
    have := le_of_firstFrom? (Option.filter_eq_some_iff.mp hj).1
    exact ⟨rfl, by simp only; omega⟩
  · cases hs

/-- **A span begins where it is asked for, and is not empty.** -/
theorem start_spanAt? {text : Array Char} {i : Nat} {h : Hit} (hs : spanAt? text i = some h) :
    h.start = i ∧ i < h.stop := by
  obtain he | ⟨_, hs⟩ := Option.or_eq_some_iff.mp hs
  · exact start_escapeAt? he
  · obtain hi | ⟨_, he⟩ := Option.or_eq_some_iff.mp hs
    · exact start_interpolateAt? hi
    · exact start_evaluateAt? he

/-! ## The scanner -/

/-- The match at the end of a text. -/
def lastHit (text : Array Char) : Hit := ⟨text.size, text.size, none, none, none⟩

/-- The spans from `i` on, and the match at the end. -/
def scanFrom (text : Array Char) (i : Nat) : List Hit :=
  if i < text.size then
    match _h : spanAt? text i with
    | some span => span :: scanFrom text span.stop
    | none => scanFrom text (i + 1)
  else [lastHit text]
termination_by text.size - i
decreasing_by
  · have := (start_spanAt? _h).2
    omega
  · omega

/-- The spans of a text, and the match at its end. -/
def scan (text : Array Char) : List Hit := scanFrom text 0

theorem scanFrom_of_some {text : Array Char} {i : Nat} {span : Hit} (hi : i < text.size)
    (h : spanAt? text i = some span) : scanFrom text i = span :: scanFrom text span.stop := by
  rw [scanFrom, if_pos hi]
  split
  · rename_i span' h'
    rw [h] at h'
    cases h'
    rfl
  · rename_i h'
    rw [h] at h'
    cases h'

theorem scanFrom_of_none {text : Array Char} {i : Nat} (hi : i < text.size)
    (h : spanAt? text i = none) : scanFrom text i = scanFrom text (i + 1) := by
  rw [scanFrom, if_pos hi]
  split
  · rename_i span' h'
    rw [h] at h'
    cases h'
  · rfl

theorem scanFrom_size (text : Array Char) : scanFrom text text.size = [lastHit text] := by
  rw [scanFrom, if_neg (Nat.lt_irrefl _)]

/-! ## The pattern of the markers -/

/-- Every character: blank or not. -/
def anyChar : CharSet := ⟨[.cls .blank false false, .cls .blank false true], false, .exact⟩

theorem contains_anyChar (c : Char) : anyChar.contains c = true := by
  simp only [CharSet.contains, anyChar, List.any_cons, List.any_nil, CharItem.contains]
  cases CharClass.blank.contains false c <;> rfl

/-- The pattern of the three markers. -/
def pattern : Regex :=
  .alternatives [
    delimited (opening 2) 1 (listed ['\x7b', '\x7d', '#'] true) 1 anyChar (closing 2),
    delimited (opening 3) 2 (listed ['\x7b', '\x7d', '#'] true) 1 anyChar (closing 3),
    delimited (opening 2 ++ ['#']) 3 (listed ['\x7b', '\x7d'] true) 0 .notNewline (closing 2),
    .anchor .textEnd]

theorem regex_ofOffers :
    (Markers.ofOffers Marker.doubleBraces Marker.tripleBraces
      Marker.hashBraces).toOption.map (·.matcher.regex) = some pattern := by
  decide +kernel

variable {text : Array Char}

theorem otherAt_eq (cs : List Char) (i : Nat) :
    text[i]?.any (listed cs true).contains = otherAt text cs i := by
  unfold otherAt
  cases text[i]? with
  | none => rfl
  | some c => rw [Option.any_some, Option.any_some, contains_listed, Bool.bne_true]

/-- All characters up to the end of the text are reached. -/
theorem reach_anyChar (i : Nat) : reach anyChar text i = text.size - i := by
  unfold reach
  rw [List.takeWhile_eq_self_iff.mpr fun c _ => contains_anyChar c, List.length_drop,
    Array.length_toList]

theorem toList_slice (i j : Nat) : slice text i j = (text.toList.drop i).take (j - i) := by
  rw [slice, Array.toList_extract, List.extract_eq_take_drop]

theorem all_take_iff {α : Type} (p : α → Bool) (l : List α) {n : Nat} (hn : n ≤ l.length) :
    (l.take n).all p = true ↔ n ≤ (l.takeWhile p).length := by
  induction l generalizing n with
  | nil => simpa using hn
  | cons a l ih =>
    cases n with
    | zero => simp
    | succ n =>
      have hlen : n ≤ l.length := Nat.le_of_succ_le_succ hn
      rw [List.take_succ_cons, List.all_cons, List.takeWhile_cons]
      cases hp : p a with
      | false => simp
      | true => simpa using ih hlen

/-- The line ends behind the characters that are no line feed. -/
theorem contains_slice_newline {i j : Nat} (hij : i ≤ j) (hj : j ≤ text.size) :
    (!(slice text i j).contains '\n') = decide (j < i + (reach .notNewline text i + 1)) := by
  have hcontains : ∀ c, CharSet.notNewline.contains c = (c != '\n') := by
    intro c
    rw [show CharSet.notNewline = listed ['\n'] true from rfl, contains_listed,
      List.contains_cons, List.contains_nil, Bool.or_false, Bool.bne_true]
    rfl
  have hlen : j - i ≤ (text.toList.drop i).length := by
    rw [List.length_drop, Array.length_toList]
    omega
  have hall := all_take_iff CharSet.notNewline.contains (text.toList.drop i) hlen
  have hnot : (!(slice text i j).contains '\n') =
      ((text.toList.drop i).take (j - i)).all CharSet.notNewline.contains := by
    rw [toList_slice, Bool.eq_iff_iff]
    simp [hcontains]
    grind
  rw [hnot, Bool.eq_iff_iff, hall, decide_eq_true_iff, reach]
  omega

theorem find?_range'_filter (p : Nat → Bool) (a : Nat) {k n : Nat} (hk : k ≤ n) :
    ((List.range' a n).find? p).filter (fun j => j < a + k) = (List.range' a k).find? p := by
  obtain ⟨d, rfl⟩ := Nat.exists_eq_add_of_le hk
  rw [← List.range'_append_1, List.find?_append]
  cases hfirst : (List.range' a k).find? p with
  | some j =>
    have hj := (List.mem_range'_1.mp (List.mem_of_find?_eq_some hfirst)).2
    simp [hj]
  | none =>
    rw [Option.none_or, Option.filter_eq_none_iff]
    intro j hj
    have := (List.mem_range'_1.mp (List.mem_of_find?_eq_some hj)).1
    simp only [decide_eq_true_eq]
    omega

/-- The first closing on the line. -/
theorem firstFrom?_filter (n i : Nat) :
    (firstFrom? text (closing (n + 1)) i).filter (fun j => !(slice text i j).contains '\n') =
      (List.range' i (reach .notNewline text i + 1)).find? (standsAt text (closing (n + 1))) := by
  by_cases hi : i ≤ text.size
  · have hle : reach .notNewline text i ≤ text.size - i := reach_le _ _
    rw [← find?_range'_filter _ _ (show reach .notNewline text i + 1 ≤ text.size + 1 - i by omega),
      firstFrom?]
    cases hj : (List.range' i (text.size + 1 - i)).find? (standsAt text (closing (n + 1))) with
    | none => rfl
    | some j =>
      have hmem := List.mem_range'_1.mp (List.mem_of_find?_eq_some hj)
      simp only [Option.filter_some, contains_slice_newline hmem.1 (by omega : j ≤ text.size)]
  · have hnone : text[i]? = none := Array.getElem?_eq_none (by omega)
    have hreach : reach .notNewline text i = 0 := by
      unfold reach
      rw [drop_toList_of_none hnone]
      rfl
    rw [firstFrom?, show text.size + 1 - i = 0 by omega, hreach]
    simp [closing, List.replicate_succ, standsAt_cons, hnone]

/-! ## Hits -/

/-- A way to match from a place, by roles. -/
def hitOf (text : Array Char) (i : Nat) (t : State) : Hit := Hit.ofMatch text ⟨i, t.pos, t.groups⟩

theorem map_hitOf_ite (c : Bool) (o : Option Nat) (f : Nat → State) (i : Nat) :
    (if c then o.map f else none).map (hitOf text i) =
      if c then o.map fun j => hitOf text i (f j) else none := by
  cases c with
  | false => rfl
  | true => rw [if_pos rfl, if_pos rfl, Option.map_map]; rfl

theorem escapeAt?_eq (i : Nat) :
    ((delimited (opening 2) 1 (listed ['\x7b', '\x7d', '#'] true) 1 anyChar
      (closing 2)).run text ⟨i, []⟩).toList.head?.map (hitOf text i) = escapeAt? text i := by
  rw [head?_delimited, map_hitOf_ite, otherAt_eq, reach_anyChar, escapeAt?, firstFrom?]
  rw [show (opening 2).length = 2 from rfl, show (closing 2).length = 2 from rfl,
    show text.size - (i + 2 + 1) + 1 - 1 = text.size + 1 - (i + 4) by omega]
  rfl

theorem interpolateAt?_eq (i : Nat) :
    ((delimited (opening 3) 2 (listed ['\x7b', '\x7d', '#'] true) 1 anyChar
      (closing 3)).run text ⟨i, []⟩).toList.head?.map (hitOf text i) =
      interpolateAt? text i := by
  rw [head?_delimited, map_hitOf_ite, otherAt_eq, reach_anyChar, interpolateAt?, firstFrom?]
  rw [show (opening 3).length = 3 from rfl, show (closing 3).length = 3 from rfl,
    show text.size - (i + 3 + 1) + 1 - 1 = text.size + 1 - (i + 5) by omega]
  rfl

theorem evaluateAt?_eq (i : Nat) :
    ((delimited (opening 2 ++ ['#']) 3 (listed ['\x7b', '\x7d'] true) 0 .notNewline
      (closing 2)).run text ⟨i, []⟩).toList.head?.map (hitOf text i) = evaluateAt? text i := by
  rw [head?_delimited, map_hitOf_ite, otherAt_eq, evaluateAt?, firstFrom?_filter]
  rfl

/-- **What the pattern matches at a place**: the span that begins there, or the end of the text. -/
theorem matchAt?_pattern (i : Nat) :
    (pattern.matchAt? text i false).map (Hit.ofMatch text) =
      (spanAt? text i).or (if i = text.size then some (lastHit text) else none) := by
  have hlast : (((Regex.anchor .textEnd).run text ⟨i, []⟩).toList.head?).map (hitOf text i) =
      if i = text.size then some (lastHit text) else none := by
    by_cases hi : i = text.size <;> simp [Regex.run, Anchor.holds, hi, hitOf, lastHit]
    rfl
  rw [Regex.matchAt?_false, Option.map_map, spanAt?, ← escapeAt?_eq, ← interpolateAt?_eq,
    ← evaluateAt?_eq, ← hlast]
  simp only [pattern, Regex.alternatives, Regex.head?_alt, Option.map_or, Option.or_assoc]
  rfl

/-- **The pattern finds the spans of the scanner**, if it may find enough of them. -/
theorem map_scanFrom {i fuel : Nat} (hi : i ≤ text.size) (hfuel : text.size - i < fuel) :
    (pattern.scanFrom text fuel i false).map (Hit.ofMatch text) = scanFrom text i := by
  induction h : text.size - i using Nat.strongRecOn generalizing i fuel with
  | _ n ih =>
    subst h
    have hat : (pattern.matchAt? text i false).map (Hit.ofMatch text) = _ := matchAt?_pattern i
    cases hm : pattern.matchAt? text i false with
    | none =>
      rw [hm, Option.map_none] at hat
      obtain ⟨hspan, hlast⟩ := Option.or_eq_none_iff.mp hat.symm
      have hlt : i < text.size := by
        refine Nat.lt_of_le_of_ne hi fun heq => ?_
        rw [if_pos heq] at hlast
        cases hlast
      rw [Regex.scanFrom_of_none hlt hm, scanFrom_of_none hlt hspan]
      exact ih _ (by omega) hlt (by omega) rfl
    | some m =>
      obtain ⟨fuel, rfl⟩ : ∃ k, fuel = k + 1 := ⟨fuel - 1, by omega⟩
      obtain ⟨hstart, _, hsize, _⟩ := Regex.of_matchAt? hi hm
      rw [hm, Option.map_some] at hat
      rw [Regex.scanFrom_of_some hm, List.map_cons]
      obtain hspan | ⟨_, hlast⟩ := Option.or_eq_some_iff.mp hat.symm
      · have hstop : i < m.stop := (start_spanAt? hspan).2
        have hmoves : (m.stop == m.start) = false := by
          rw [beq_eq_false_iff_ne]
          omega
        rw [hmoves, scanFrom_of_some (by omega) hspan]
        congr 1
        exact ih _ (by omega) hsize (by omega) rfl
      · have heq : i = text.size := by
          by_contra hne
          rw [if_neg hne] at hlast
          cases hlast
        subst heq
        rw [if_pos rfl, Option.some.injEq] at hlast
        have hstop : m.stop = text.size := (congrArg Hit.stop hlast).symm
        rw [hstop, hstart, beq_self_eq_true, Regex.scanFrom_size, scanFrom_size, ← hlast]
        rfl

/-- **The markers find what the scanner finds.** -/
theorem map_scan (text : Array Char) :
    (pattern.scan text).map (Hit.ofMatch text) = scan text :=
  map_scanFrom (Nat.zero_le _) (by omega)

/-- The known markers go together. -/
theorem exists_ofOffers :
    ∃ m, Markers.ofOffers Marker.doubleBraces Marker.tripleBraces Marker.hashBraces = .ok m ∧
      m.matcher.regex = pattern :=
  exists_of_map_toOption regex_ofOffers

theorem hits_of_regex {m : Markers} (h : m.matcher.regex = pattern) (text : Array Char) :
    m.hits text = scan text := by
  rw [Markers.hits, h, map_scan]

/-- The known markers go together, and find in every text the spans between braces from left to
right. -/
theorem hits_eq_scan :
    ∃ m, Markers.ofOffers Marker.doubleBraces Marker.tripleBraces Marker.hashBraces = .ok m ∧
      ∀ text, m.hits text = scan text := by
  obtain ⟨m, hm, hregex⟩ := exists_ofOffers
  exact ⟨m, hm, hits_of_regex hregex⟩

end Wording.Braces
