import Wording.Proofs.Outcome
import Wording.Proofs.Pattern.Spliced
import Wording.Template.Piece

/-!
# Markers keep their meaning

The pattern of all markers is made from the written forms of the markers. At each place it reports
the first role whose marker matches there, and of that the end and the inner text:
`reportAt?_eq_firstMatch?`.

Written forms are put one behind the other as they are, and the groups are counted through. A
reference by number in the second or third marker keeps its number and so goes to the group of the
first one. Such markers are accepted and do not keep their meaning: `reportAt?_backReference`. What
is said here is said of markers without such references; a reference by name is none, nor does the
first marker have to be without.
-/

namespace Wording

open Pattern

/-! ## Accepted markers -/

/-- A pattern that is offered has been read before. -/
def MarkerOffer.Genuine : MarkerOffer → Prop
  | .pattern p => ∃ flags, Compiled.read p.source flags = .ok p
  | _ => True

theorem MarkerOffer.genuine_absent : absent.Genuine := trivial

theorem MarkerOffer.genuine_source (s : String) : (source s).Genuine := trivial

namespace Marker

/-- What is known of a pattern that serves as a marker. -/
structure Fit (p : Compiled) : Prop where
  read : ∃ flags, Compiled.read p.source flags = .ok p
  groupCount : p.groupCount = 1
  flags : p.flags.Alike {}

theorem read_of_readPattern {e : MarkerError} {source : String} {p : Compiled}
    (h : readPattern e source = .ok p) : Compiled.read source {} = .ok p := by
  unfold readPattern at h
  split at h <;> simp_all

theorem fit_of_accept {role : Role} {p q : Compiled} (h : accept role p = .ok q)
    (hread : ∃ flags, Compiled.read p.source flags = .ok p) : Fit q := by
  unfold accept at h
  split at h
  · cases h
  · rename_i hcount
    split at h
    · cases h
    · rename_i hflags
      cases h
      refine ⟨hread, not_not.mp hcount, ?_⟩
      have hempty : ({ p.flags with unicode := false } : Flags) = {} := by
        simpa [hasFlags, Flags.isEmpty] using hflags
      obtain ⟨h1, h2, h3, h4, h5, -, -⟩ := Flags.mk.inj hempty
      exact ⟨h1, h2, h3, h4, h5⟩

theorem fit_of_ofOffer {role : Role} {o : MarkerOffer} {p : Compiled} (ho : o.Genuine)
    (h : ofOffer role o = .ok (some p)) : Fit p := by
  cases o with
  | absent => cases h
  | unsuitable => cases h
  | pattern q =>
    obtain ⟨r, hr, hpure⟩ := exists_of_bind_eq_ok h
    cases hpure
    exact fit_of_accept hr ho
  | source s =>
    obtain ⟨q, hq, hrest⟩ := exists_of_bind_eq_ok h
    obtain ⟨r, hr, hpure⟩ := exists_of_bind_eq_ok hrest
    cases hpure
    have hread : Compiled.read s {} = .ok q := read_of_readPattern hq
    exact fit_of_accept hr ⟨{}, Compiled.source_of_read hread ▸ hread⟩

/-- The pattern that matches nowhere, as it is read. -/
def nowherePattern : Compiled :=
  ⟨nowhereSource, { unicode := true }, 1, [],
    .seq (.capture 1 (.char .notNewline)) (.anchor .textStart)⟩

theorem read_nowhere : Compiled.read nowhereSource {} = .ok nowherePattern := by
  decide +kernel

theorem fit_nowhere : Fit nowherePattern :=
  ⟨⟨{}, read_nowhere⟩, rfl, ⟨rfl, rfl, rfl, rfl, rfl⟩⟩

theorem matchAt?_nowhere (text : Array Char) (pos : Nat) :
    nowherePattern.regex.matchAt? text pos false = none := by
  rw [Regex.matchAt?_false, Option.map_eq_none_iff, List.head?_eq_none_iff]
  simp only [nowherePattern, Regex.run]
  split
  · split <;> simp [Search.bind, State.advance, Anchor.holds]
  · rfl

end Marker

namespace Markers

/-- The pattern that stands for a marker, or for none. -/
def standing (p : Option Compiled) : Compiled := p.getD Marker.nowherePattern

/-- The pattern that stands for a role in the pattern of all markers. -/
def pattern (m : Markers) (r : Role) : Compiled := (m.get? r).getD Marker.nowherePattern

/-- What is known of markers that have been put together. -/
structure Sound (m : Markers) : Prop where
  fit : ∀ r, Marker.Fit (m.pattern r)
  read : Compiled.read (matcherSource m.escape m.interpolate m.evaluate) {} = .ok m.matcher

theorem sound_of_ofOffers {escape interpolate evaluate : MarkerOffer} {m : Markers}
    (hescape : escape.Genuine) (hinterpolate : interpolate.Genuine)
    (hevaluate : evaluate.Genuine) (h : ofOffers escape interpolate evaluate = .ok m) :
    m.Sound := by
  have hfit : ∀ {role : Role} {o : MarkerOffer} {p : Option Compiled}, o.Genuine →
      Marker.ofOffer role o = .ok p → Marker.Fit (p.getD Marker.nowherePattern) := by
    intro role o p ho hp
    cases p with
    | none => exact Marker.fit_nowhere
    | some p => exact Marker.fit_of_ofOffer ho hp
  obtain ⟨_, he, hrest⟩ := exists_of_bind_eq_ok h
  obtain ⟨_, hi, hrest⟩ := exists_of_bind_eq_ok hrest
  obtain ⟨_, hv, hrest⟩ := exists_of_bind_eq_ok hrest
  obtain ⟨q, hq, hpure⟩ := exists_of_bind_eq_ok hrest
  cases hpure
  refine ⟨fun r => ?_, Marker.read_of_readPattern hq⟩
  cases r with
  | escape => exact hfit hescape he
  | interpolate => exact hfit hinterpolate hi
  | evaluate => exact hfit hevaluate hv

/-! ## The pattern of all markers -/

/-- The glyphs of a pattern between the parentheses of a group and what follows. -/
theorem ofChars_enclosed {s : String} (h : .dangling ∉ Glyph.ofChars s.toList) (rest : String) :
    Glyph.ofChars ("(?:" ++ s ++ ")" ++ rest).toList = enclosed s (Glyph.ofChars rest.toList) := by
  have hchars : ("(?:" ++ s ++ ")" ++ rest).toList =
      '(' :: '?' :: ':' :: (s.toList ++ ')' :: rest.toList) := by simp
  rw [hchars, Glyph.ofChars_cons (by decide), Glyph.ofChars_cons (by decide),
    Glyph.ofChars_cons (by decide), Glyph.ofChars_append h, Glyph.ofChars_cons (by decide)]
  rfl

/-- The number of groups before those of a role. -/
def offset (r : Role) : Nat := r.group - 1

/-- The glyphs of the pattern of three markers. -/
def glyphsOf (escape interpolate evaluate : Compiled) : List Glyph :=
  enclosed escape.source <| .plain '|' ::
    (enclosed interpolate.source <| .plain '|' ::
      (enclosed evaluate.source [.plain '|', .escaped 'Z']))

/-- What the glyphs of the pattern of all markers are. -/
theorem ofChars_matcherSource {escape interpolate evaluate : Option Compiled}
    (he : .dangling ∉ Glyph.ofChars (standing escape).source.toList)
    (hi : .dangling ∉ Glyph.ofChars (standing interpolate).source.toList)
    (hv : .dangling ∉ Glyph.ofChars (standing evaluate).source.toList) :
    Glyph.ofChars (matcherSource escape interpolate evaluate).toList =
      glyphsOf (standing escape) (standing interpolate) (standing evaluate) := by
  have hsource : matcherSource escape interpolate evaluate =
      "(?:" ++ (standing escape).source ++ ")" ++ ("|" ++
        ("(?:" ++ (standing interpolate).source ++ ")" ++ ("|" ++
          ("(?:" ++ (standing evaluate).source ++ ")" ++ "|\\Z")))) := by
    have hpart : ∀ p : Option Compiled, (p.map (·.source)).getD Marker.nowhereSource =
        (standing p).source := by
      intro p
      cases p <;> rfl
    simp only [matcherSource, hpart, String.append_assoc]
  have hbar : ∀ s : String,
      Glyph.ofChars ("|" ++ s).toList = .plain '|' :: Glyph.ofChars s.toList := by
    intro s
    rw [String.toList_append]
    exact Glyph.ofChars_cons (by decide) _
  rw [hsource, ofChars_enclosed he, hbar, ofChars_enclosed hi, hbar, ofChars_enclosed hv]
  rfl

variable {m : Markers}

theorem Sound.exists_run (h : m.Sound) (r : Role) :
    ∃ n flags s, (m.pattern r).Run n flags s := by
  obtain ⟨flags, hread⟩ := (h.fit r).read
  obtain ⟨n, s, hrun⟩ := Compiled.exists_run hread
  exact ⟨n, flags, s, hrun⟩

theorem Sound.ofChars_matcherSource (h : m.Sound) :
    Glyph.ofChars (matcherSource m.escape m.interpolate m.evaluate).toList =
      glyphsOf (m.pattern .escape) (m.pattern .interpolate) (m.pattern .evaluate) := by
  have hno : ∀ r, .dangling ∉ Glyph.ofChars (m.pattern r).source.toList := by
    intro r
    obtain ⟨n, flags, s, hrun⟩ := h.exists_run r
    exact hrun.not_mem_dangling
  exact Markers.ofChars_matcherSource (hno .escape) (hno .interpolate) (hno .evaluate)

/-- One value for each role. -/
def byRole {α : Type} (escape interpolate evaluate : α) : Role → α
  | .escape => escape
  | .interpolate => interpolate
  | .evaluate => evaluate

/-- **The pattern of all markers** is that of each of them, one after the other, and the end of the
text. -/
theorem Sound.exists_alternatives (h : m.Sound) :
    ∃ f : Role → Regex, (∀ r, Placed (offset r) (m.pattern r) (f r)) ∧
      m.matcher.regex =
        .alternatives [f .escape, f .interpolate, f .evaluate, .anchor .textEnd] := by
  obtain ⟨n, s, hrun⟩ := Compiled.exists_run h.read
  obtain ⟨_, _, _, hescape⟩ := h.exists_run .escape
  obtain ⟨_, _, _, hinterpolate⟩ := h.exists_run .interpolate
  obtain ⟨_, _, _, hevaluate⟩ := h.exists_run .evaluate
  have hglyphs : Glyph.ofChars m.matcher.source.toList =
      glyphsOf (m.pattern .escape) (m.pattern .interpolate) (m.pattern .evaluate) := by
    rw [Compiled.source_of_read h.read, h.ofChars_matcherSource]
  have hstart : Stage 0 (glyphsOf _ _ _) (.start m.matcher.source {}) :=
    ⟨hglyphs, rfl, nofun, rfl, .refl {}⟩
  -- Each marker is read behind the groups of those before it, and leaves a bar.
  obtain ⟨_, v₁, e, rs₁, he, hmore₁, hregex⟩ := of_reads_alternatives_top hrun.reads
  obtain ⟨hplaced₁, hstage₁⟩ :=
    of_reads_enclosed hescape (h.fit _).flags (.refl {}) hstart he
  have hflags := hstage₁.flags
  obtain ⟨_, v₂, i, rs₂, hi, hmore₂, rfl⟩ := of_reads_moreAlternatives hstage₁.rest hmore₁
  obtain ⟨hplaced₂, hstage₂⟩ :=
    of_reads_enclosed hinterpolate (h.fit _).flags hflags (hstage₁.withRest _) hi
  obtain ⟨_, v₃, v, rs₃, hv, hmore₃, rfl⟩ := of_reads_moreAlternatives hstage₂.rest hmore₂
  obtain ⟨hplaced₃, hstage₃⟩ :=
    of_reads_enclosed hevaluate (h.fit _).flags hflags (hstage₂.withRest _) hv
  obtain ⟨_, v₄, z, rs₄, hz, hmore₄, rfl⟩ := of_reads_moreAlternatives hstage₃.rest hmore₃
  -- Behind the last bar the end of the text is all that is left.
  obtain ⟨_, acc, _, v₅, htake, hend⟩ :=
    of_reads_sequence_cons (g := .escaped 'Z') rfl (by simp) nofun hz
  rw [take_textEnd] at htake
  obtain ⟨hpiece, rfl⟩ := Reader.reads_pure.mp htake
  obtain ⟨rfl, -⟩ := Prod.mk.inj hpiece
  obtain ⟨rfl, rfl⟩ := of_reads_sequence_stop (by simp) hend
  obtain ⟨rfl, -⟩ := of_reads_moreAlternatives_nil rfl hmore₄
  refine ⟨byRole e i v, fun r => ?_, hregex⟩
  have hcount : ∀ r, (m.pattern r).groupCount = 1 := fun r => (h.fit r).groupCount
  rw [hcount] at hplaced₂
  rw [hcount, hcount] at hplaced₃
  cases r with
  | escape => exact hplaced₁
  | interpolate => exact hplaced₂
  | evaluate => exact hplaced₃

/-! ## Reports -/

/-- The match of the marker of a role at a place. -/
def ownMatch? (m : Markers) (text : Array Char) (pos : Nat) (r : Role) : Option Match :=
  (m.get? r).bind fun p => p.regex.matchAt? text pos false

/-- The first role whose marker matches at a place, with that match. -/
def firstMatch? (m : Markers) (text : Array Char) (pos : Nat) : Option (Role × Match) :=
  Role.all.findSome? fun r => (m.ownMatch? text pos r).map (r, ·)

/-- What the pattern of all markers reports at a place: a role, an end and an inner text. -/
def reportAt? (m : Markers) (text : Array Char) (pos : Nat) : Option (Role × Nat × String) :=
  (m.matcher.regex.matchAt? text pos false).bind fun found =>
    (Hit.ofMatch text found).role?.map fun (r, inner) => (r, found.stop, inner)

/-- No marker behind the first one refers to a group by number. -/
def Unnumbered (m : Markers) : Prop :=
  ∀ r p, m.get? r = some p → r = .escape ∨ p.numbered = []

variable {text : Array Char} {pos : Nat}

theorem ownMatch?_eq (m : Markers) (r : Role) :
    m.ownMatch? text pos r = (m.pattern r).regex.matchAt? text pos false := by
  unfold ownMatch? pattern
  cases m.get? r with
  | none => exact (Marker.matchAt?_nowhere text pos).symm
  | some p => rfl

theorem Unnumbered.eq_renumber (h : m.Unnumbered) {r : Role} {e : Regex}
    (he : Placed (offset r) (m.pattern r) e) :
    e = (m.pattern r).regex.renumber (shift (offset r)) := by
  refine he.eq_renumber ?_
  unfold pattern
  cases hr : m.get? r with
  | none => exact .inr rfl
  | some p => exact (h r p hr).imp_left fun hescape => by rw [hescape]; rfl

/-- The end of the text is matched where it is. -/
theorem matchAt?_textEnd (text : Array Char) (pos : Nat) :
    (Regex.anchor .textEnd).matchAt? text pos false =
      if pos = text.size then some ⟨pos, pos, []⟩ else none := by
  rw [Regex.matchAt?_false]
  by_cases hpos : pos = text.size <;> simp [Regex.run, Anchor.holds, hpos]

/-- **What the pattern of all markers matches at a place**: what the first marker does that matches
there, or the end of the text. -/
theorem Sound.matchAt?_matcher (h : m.Sound) (hnumbers : m.Unnumbered) :
    m.matcher.regex.matchAt? text pos false =
      ((m.firstMatch? text pos).map fun (r, found) => found.renumber (shift (offset r))).or
        (if pos = text.size then some ⟨pos, pos, []⟩ else none) := by
  obtain ⟨f, hplaced, hregex⟩ := h.exists_alternatives
  have hrole : ∀ r, (f r).matchAt? text pos false =
      (m.ownMatch? text pos r).map (Match.renumber (shift (offset r))) := by
    intro r
    rw [hnumbers.eq_renumber (hplaced r), Regex.matchAt?_renumber (shift_injective _), ownMatch?_eq]
  rw [hregex]
  simp only [Regex.alternatives, Regex.matchAt?_alt, hrole, matchAt?_textEnd, firstMatch?,
    Role.all, List.findSome?_cons, List.findSome?_nil]
  cases m.ownMatch? text pos .escape with
  | some found => rfl
  | none =>
    cases m.ownMatch? text pos .interpolate with
    | some found => rfl
    | none => cases m.ownMatch? text pos .evaluate <;> rfl

/-- A match whose only group is that of a role is reported as one of this role. -/
theorem role?_renumber {found : Match} (h : ∀ g ∈ found.groups, g.1 = 1) (r : Role) :
    (Hit.ofMatch text (found.renumber (shift (offset r)))).role? =
      (found.group? text 1).map fun inner => (r, String.ofList inner) := by
  have hgroup : ∀ r' : Role, (found.renumber (shift (offset r))).group? text r'.group =
      if r' = r then found.group? text 1 else none := by
    have hshift : ∀ r : Role, shift (offset r) 1 = r.group := by
      intro r
      cases r <;> rfl
    intro r'
    split
    · rename_i heq
      rw [heq, ← hshift r, Match.group?_renumber (shift_injective _)]
    · rename_i hne
      refine Match.group?_renumber_of_ne fun g hg => ?_
      rw [h g hg, hshift]
      intro heq
      exact hne (by cases r <;> cases r' <;> first | rfl | cases heq)
  unfold Hit.role? Hit.ofMatch
  rw [hgroup, hgroup, hgroup]
  cases found.group? text 1 <;> cases r <;> rfl

/-- The groups of the own match of a marker. -/
theorem Sound.groups_of_ownMatch? (h : m.Sound) {r : Role} {found : Match}
    (hfound : m.ownMatch? text pos r = some found) : ∀ g ∈ found.groups, g.1 = 1 := by
  obtain ⟨f, hplaced, -⟩ := h.exists_alternatives
  rw [ownMatch?_eq] at hfound
  intro g hg
  have hcaptured := (hplaced r).captures g.1 (Regex.groups_of_matchAt? hfound g hg)
  rw [(h.fit r).groupCount] at hcaptured
  exact Nat.le_antisymm hcaptured.2 hcaptured.1

/-- The first match is the own match of its role. -/
theorem ownMatch?_of_firstMatch? {r : Role} {found : Match}
    (h : m.firstMatch? text pos = some (r, found)) : m.ownMatch? text pos r = some found := by
  obtain ⟨r', -, hr'⟩ := List.exists_of_findSome?_eq_some h
  obtain ⟨found', hown, heq⟩ := Option.map_eq_some_iff.mp hr'
  cases heq
  exact hown

/-- The pattern of all markers reports at each place the first role whose marker matches there, the
end of that match, and what its group took. -/
theorem reportAt?_eq_firstMatch? {escape interpolate evaluate : MarkerOffer} {m : Markers}
    (hescape : escape.Genuine) (hinterpolate : interpolate.Genuine) (hevaluate : evaluate.Genuine)
    (hm : ofOffers escape interpolate evaluate = .ok m) (hnumbers : m.Unnumbered)
    (text : Array Char) (pos : Nat) :
    m.reportAt? text pos = (m.firstMatch? text pos).bind fun (r, found) =>
      (found.group? text 1).map fun inner => (r, found.stop, String.ofList inner) := by
  have hsound := sound_of_ofOffers hescape hinterpolate hevaluate hm
  rw [reportAt?, hsound.matchAt?_matcher hnumbers]
  cases hfirst : m.firstMatch? text pos with
  | none =>
    -- At most the end of the text is matched, and no role takes part in that.
    by_cases hpos : pos = text.size
    · rw [if_pos hpos]
      rfl
    · rw [if_neg hpos]
      rfl
  | some p =>
    obtain ⟨r, found⟩ := p
    have hgroups := hsound.groups_of_ownMatch? (ownMatch?_of_firstMatch? hfirst)
    show ((Hit.ofMatch text (found.renumber (shift (offset r)))).role?).map _ = _
    rw [role?_renumber hgroups, Option.map_map]
    rfl

/-- The numbers that the markers refer to, by roles. -/
def numbers (m : Markers) : List (Option (List Nat)) :=
  Role.all.map fun r => (m.get? r).map (·.numbered)

theorem unnumbered_of_numbers {o : Option (List Nat)} (h : m.numbers = [o, some [], none]) :
    m.Unnumbered := by
  intro r p hr
  simp only [numbers, Role.all, List.map_cons, List.map_nil, List.cons.injEq] at h
  cases r with
  | escape => exact .inl rfl
  | interpolate =>
    rw [hr, Option.map_some] at h
    exact .inr (Option.some.inj h.2.1)
  | evaluate =>
    rw [hr, Option.map_some] at h
    cases h.2.2.1

/-- A reference by name goes to the group of its own marker. -/
theorem reportAt?_nameReference :
    ∃ m, ofOffers .absent (.source "(?P<x>a)(?P=x)") .absent = .ok m ∧ m.Unnumbered ∧
      m.reportAt? #['a', 'a'] 0 = some (.interpolate, 2, "a") := by
  obtain ⟨m, hm, h⟩ := exists_of_map_toOption
    (x := ofOffers .absent (.source "(?P<x>a)(?P=x)") .absent)
    (f := fun m => (m.numbers, m.firstMatch? #['a', 'a'] 0))
    (b := ([none, some [], none], some (.interpolate, ⟨0, 2, [(1, 0, 1)]⟩))) (by decide +kernel)
  obtain ⟨hnumbers, hfirst⟩ := Prod.mk.inj h
  have hunnumbered := unnumbered_of_numbers hnumbers
  refine ⟨m, hm, hunnumbered, ?_⟩
  have hreport := reportAt?_eq_firstMatch? MarkerOffer.genuine_absent
    (MarkerOffer.genuine_source _) MarkerOffer.genuine_absent hm hunnumbered #['a', 'a'] 0
  rw [hreport, hfirst]
  rfl

/-- A reference by number behind the first marker does not: the marker matches on its own, and is
not reported. -/
theorem reportAt?_backReference :
    ∃ m, ofOffers .absent (.source "(a)\\1") .absent = .ok m ∧
      m.firstMatch? #['a', 'a'] 0 = some (.interpolate, ⟨0, 2, [(1, 0, 1)]⟩) ∧
      m.reportAt? #['a', 'a'] 0 = none := by
  obtain ⟨m, hm, h⟩ := exists_of_map_toOption
    (x := ofOffers .absent (.source "(a)\\1") .absent)
    (f := fun m => (m.firstMatch? #['a', 'a'] 0, m.reportAt? #['a', 'a'] 0))
    (b := (some (.interpolate, ⟨0, 2, [(1, 0, 1)]⟩), none)) (by decide +kernel)
  obtain ⟨hfirst, hreport⟩ := Prod.mk.inj h
  exact ⟨m, hm, hfirst, hreport⟩

end Markers

end Wording
