/-!
# Segments of a text

A text and the list of its segments between the occurrences of a separator carry the same
information: `glue` undoes `pieces`, and `pieces` undoes `glue` for segments without the separator.

Both recursions follow the text or the list of segments.
-/

namespace Wording.Text

/-- The segments of `cs` between the occurrences of `sep`; there is always at least one. -/
def pieces (sep : Char) : List Char → List (List Char)
  | [] => [[]]
  | c :: cs =>
    if c = sep then [] :: pieces sep cs
    else match pieces sep cs with
      | [] => [[c]]
      | p :: ps => (c :: p) :: ps

/-- Writes the segments one after the other with `sep` between neighbours. -/
def glue (sep : Char) : List (List Char) → List Char
  | [] => []
  | [p] => p
  | p :: q :: ps => p ++ sep :: glue sep (q :: ps)

theorem pieces_ne_nil (sep : Char) (cs : List Char) : pieces sep cs ≠ [] := by
  cases cs with
  | nil => simp [pieces]
  | cons c cs =>
    rw [pieces]
    split
    · simp
    · split <;> simp

/-- The head of a segment list can be moved in front of the glued text. -/
theorem glue_cons_head (sep c : Char) (p : List Char) (ps : List (List Char)) :
    glue sep ((c :: p) :: ps) = c :: glue sep (p :: ps) := by
  cases ps <;> simp [glue]

theorem glue_nil_cons (sep : Char) {ps : List (List Char)} (h : ps ≠ []) :
    glue sep ([] :: ps) = sep :: glue sep ps := by
  cases ps with
  | nil => exact absurd rfl h
  | cons q qs => simp [glue]

/-- Nothing is lost by cutting a text into its segments. -/
theorem glue_pieces (sep : Char) (cs : List Char) : glue sep (pieces sep cs) = cs := by
  induction cs with
  | nil => rfl
  | cons c cs ih =>
    rw [pieces]
    split
    · next h => rw [glue_nil_cons sep (pieces_ne_nil sep cs), ih, h]
    · split
      · next h => exact absurd h (pieces_ne_nil sep cs)
      · next p ps h => rw [glue_cons_head, ← h, ih]

/-! ## Segments without the separator -/

theorem not_mem_of_mem_pieces {sep : Char} {cs p : List Char} (h : p ∈ pieces sep cs) :
    sep ∉ p := by
  induction cs generalizing p with
  | nil =>
    rw [pieces, List.mem_singleton] at h
    simp [h]
  | cons c cs ih =>
    rw [pieces] at h
    split at h
    · rcases List.mem_cons.mp h with rfl | h
      · simp
      · exact ih h
    · next hc =>
      split at h
      · next hnil => exact absurd hnil (pieces_ne_nil sep cs)
      · next q qs hcons =>
        rw [hcons] at ih
        rcases List.mem_cons.mp h with rfl | h
        · rw [List.mem_cons, not_or]
          exact ⟨Ne.symm hc, ih List.mem_cons_self⟩
        · exact ih (List.mem_cons_of_mem q h)

theorem pieces_of_not_mem {sep : Char} {p : List Char} (hp : sep ∉ p) : pieces sep p = [p] := by
  induction p with
  | nil => rfl
  | cons c p ih =>
    rw [List.mem_cons, not_or] at hp
    rw [pieces, if_neg (Ne.symm hp.1), ih hp.2]

/-- The first separator ends the first segment. -/
theorem pieces_append {sep : Char} {p : List Char} (hp : sep ∉ p) (cs : List Char) :
    pieces sep (p ++ sep :: cs) = p :: pieces sep cs := by
  induction p with
  | nil => rw [List.nil_append, pieces, if_pos rfl]
  | cons c p ih =>
    rw [List.mem_cons, not_or] at hp
    rw [List.cons_append, pieces, if_neg (Ne.symm hp.1), ih hp.2]

/-- Segments without the separator are found again in the text that they are glued to. -/
theorem pieces_glue {sep : Char} {ps : List (List Char)} (hne : ps ≠ [])
    (hps : ∀ p ∈ ps, sep ∉ p) : pieces sep (glue sep ps) = ps := by
  induction ps with
  | nil => exact absurd rfl hne
  | cons p ps ih =>
    have hp : sep ∉ p := hps p List.mem_cons_self
    cases ps with
    | nil => exact pieces_of_not_mem hp
    | cons q qs =>
      rw [glue, pieces_append hp, ih (by simp) fun x hx => hps x (List.mem_cons_of_mem p hx)]

end Wording.Text
