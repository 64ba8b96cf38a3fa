import Wording.Error
import Wording.Proofs.Outcome
import Wording.Proofs.Template.BlockFlaw

/-!
# How texts are refused

A text that is no template is refused with an error of its own, which holds the text and the place
of one of the matches of the markers. The exception are expressions with a null character: no
written text may hold one, and a text with such an expression is refused without a message.

* `read_eq_nullCharacter_iff`: the expressions that are refused without a message
* `exists_hit_of_position?`: spans start where matches start
* `compile_or_refuse`: a text is compiled, or refused at a match
-/

namespace Wording

/-! ## Null characters -/

/-- Characters that are not left out stay. -/
theorem Text.mem_dropWhile_iff {p : Char → Bool} {c : Char} (h : p c = false) (cs : List Char) :
    c ∈ cs.dropWhile p ↔ c ∈ cs := by
  constructor
  · exact fun hc => (List.dropWhile_sublist p).mem hc
  · intro hc
    rw [← List.takeWhile_append_dropWhile (p := p) (l := cs), List.mem_append] at hc
    refine hc.resolve_left fun ht => ?_
    rw [List.all_eq_true.mp List.all_takeWhile c ht] at h
    cases h

/-- Trimming leaves characters that are not blank where they are. -/
theorem Text.mem_trim_iff {c : Char} (h : isBlank c = false) (cs : List Char) :
    c ∈ trim cs ↔ c ∈ cs := by
  rw [trim, trimBoth, trimRight, trimLeft, List.mem_reverse, mem_dropWhile_iff h,
    List.mem_reverse, mem_dropWhile_iff h]

/-- The flaw of a term is never a null character. -/
theorem Expression.ofTerm_ne_nullCharacter (source : String) (t : Term) :
    ofTerm source t ≠ .error .nullCharacter := by
  unfold ofTerm
  split <;> nofun

/-- **An expression is refused for a null character if it holds one**, whatever else is wrong. -/
theorem Expression.read_eq_nullCharacter_iff {source : String} :
    read source = .error .nullCharacter ↔ '\x00' ∈ source.toList := by
  rw [← Text.mem_trim_iff (by decide) source.toList]
  unfold read
  dsimp only
  split
  · rename_i hempty
    rw [List.isEmpty_iff.mp hempty]
    simp
  · split
    · rename_i hnull
      simpa using hnull
    · rename_i hnull
      rw [List.contains_iff_mem] at hnull
      refine iff_of_false (fun h => ?_) hnull
      split at h
      · cases h
      · exact ofTerm_ne_nullCharacter _ _ h

namespace Blocks

/-! ## Places -/

/-- The pieces at a place are of a match that starts there. -/
theorem exists_hit_of_mem_ofHits {text : Array Char} {pos i : Nat} {hs : List Markers.Hit}
    {p : Piece} (hp : p ∈ Piece.ofHits text pos hs) (hi : position? p = some i) :
    ∃ h ∈ hs, h.start = i := by
  induction hs generalizing pos with
  | nil => cases hp
  | cons h hs ih =>
    rw [Piece.ofHits, List.mem_append, List.mem_append] at hp
    rcases hp with (hgap | hhit) | hrest
    · -- Literal text has no place.
      unfold Piece.gap at hgap
      split at hgap
      · rw [List.mem_singleton.mp hgap] at hi
        cases hi
      · cases hgap
    · refine ⟨h, List.mem_cons_self, ?_⟩
      unfold Piece.ofHit at hhit
      cases hr : h.role? with
      | none => simp [hr] at hhit
      | some r =>
        rw [hr] at hhit
        rw [List.mem_singleton.mp hhit] at hi
        exact Option.some.inj hi
    · obtain ⟨h', hmem, hstart⟩ := ih hrest
      exact ⟨h', List.mem_cons_of_mem _ hmem, hstart⟩

/-- **Spans start where matches start.** -/
theorem exists_hit_of_position? {m : Markers} {text : String} {p : Piece} {i : Nat}
    (hp : p ∈ Piece.ofText m text) (hi : position? p = some i) :
    ∃ h ∈ m.hits text.toList.toArray, h.start = i :=
  exists_hit_of_mem_ofHits hp hi

/-- A flaw is at the place of a piece. -/
theorem FlawedAt.exists_position {ps : List Piece} {f : Flaw} {i : Nat} (h : FlawedAt ps f i) :
    ∃ p ∈ ps, position? p = some i := by
  cases h with
  | piece hps _ _ _ hi => exact ⟨_, by rw [hps]; simp, hi⟩
  | unterminated _ ho =>
    obtain ⟨outer, p, inner, o, ns, hps, -, -, hi⟩ := ho
    exact ⟨p, by rw [hps]; simp, hi⟩

/-! ## Refusals -/

/-- A span at a place holds an expression with a null character. -/
def NullAt (ps : List Piece) (position : Nat) : Prop :=
  ∃ p ∈ ps, position? p = some position ∧
    ∃ source, source? p = some source ∧ '\x00' ∈ source.toList

theorem FlawedAt.nullAt {ps : List Piece} {i : Nat} (h : FlawedAt ps (.expr .nullCharacter) i) :
    NullAt ps i := by
  cases h with
  | piece hps _ _ hf hi =>
    cases hf with
    | misplaced hm => cases hm
    | unreadable _ hs he =>
      exact ⟨_, by rw [hps]; simp, hi, _, hs, Expression.read_eq_nullCharacter_iff.mp he⟩

/--
A text is compiled, or it is refused with the text and the place of a match; the error has a message
of its own, unless the expression at this place holds a null character.
-/
theorem compile_or_refuse (m : Markers) (text : String) :
    (∃ t, Template.compile m text = .ok t ∧ t.source = text ∧ t.markers = m) ∨
      ∃ e, ∃ h ∈ m.hits text.toList.toArray, Template.compile m text = .error e ∧
        e.template = some text ∧ e.position = some (h.start : Int) ∧
        (¬ NullAt (Piece.ofText m text) h.start →
          (Error.template e).message? = some e.message) := by
  cases hc : Template.compile m text with
  | ok t =>
    obtain ⟨hsource, hmarkers, -⟩ := ((compile_iff m text).1 t).mp hc
    exact .inl ⟨t, rfl, hsource, hmarkers⟩
  | error e =>
    obtain ⟨htemplate, i, hi, hflaw⟩ := ((compile_iff m text).2.1 e).mp hc
    obtain ⟨p, hp, hpos⟩ := hflaw.exists_position
    obtain ⟨h, hmem, rfl⟩ := exists_hit_of_position? hp hpos
    refine .inr ⟨e, h, hmem, rfl, htemplate, hi, fun hnull => ?_⟩
    have hne : e.flaw ≠ .expr .nullCharacter := by
      intro he
      rw [he] at hflaw
      exact hnull hflaw.nullAt
    rw [Error.message?, if_neg hne]

/-- A text with a null character in an expression is refused without a message. -/
theorem compile_nullExpression :
    ∃ m e, Markers.ofOffers Marker.doubleBraces Marker.tripleBraces .absent = .ok m ∧
      Template.compile m "\x7b\x7ba\x00b\x7d\x7d" = .error e ∧
      (Error.template e).message? = none := by
  obtain ⟨m, hm, h⟩ := exists_of_map_toOption
    (x := Markers.ofOffers Marker.doubleBraces Marker.tripleBraces .absent)
    (f := fun m => match Template.compile m "\x7b\x7ba\x00b\x7d\x7d" with
      | .ok _ => none
      | .error e => some (Error.template e).message?)
    (b := some none) (by decide +kernel)
  cases hc : Template.compile m "\x7b\x7ba\x00b\x7d\x7d" with
  | ok t =>
    rw [hc] at h
    cases h
  | error e =>
    rw [hc] at h
    exact ⟨m, e, hm, hc, Option.some.inj h⟩

end Blocks

end Wording
