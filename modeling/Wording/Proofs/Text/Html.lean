import Wording.Proofs.Outcome
import Wording.Template.Render

/-!
# Escaped text means nothing to markup

Of the six characters that markup gives a meaning, escaped text has the ampersand only, and each of
its ampersands begins one of the six entities (`inert_escape`). What stands around escaped text
therefore finds no quote to end, no tag to open and no entity to complete in it.

Nothing is lost either. What stands for a character is read as that character, whatever is behind
it, so reading is never inside an entity where the next character begins: an ampersand of the text
itself is an entity too, and joins with nothing.

* `unescape_escape_append`: escaped text is read back, and reading goes on behind it
* `inert_iff`: the inert texts are the escaped ones
* `escapedText_reads_back`: what follows for the text that a value is escaped to
-/

namespace Wording.Text.Html

/-- The characters that open or end tags and quotes. -/
def marks : List Char := ['<', '>', '"', '\x27', '\x60']

def entities : List (List Char) :=
  ["&amp;", "&lt;", "&gt;", "&quot;", "&#39;", "&#96;"].map String.toList

/-- A text without marks, in which each ampersand begins an entity. -/
structure Inert (cs : List Char) : Prop where
  no_mark : ∀ c ∈ marks, c ∉ cs
  entity : ∀ before after, cs = before ++ '&' :: after → ∃ e ∈ entities, e <+: '&' :: after

/-- A character stands for itself, or an entity stands for it. -/
theorem escapeChar_cases (c : Char) :
    escapeChar c ∈ entities ∨ c ∉ marks ∧ c ≠ '&' ∧ escapeChar c = [c] := by
  unfold escapeChar entity?
  split
  case h_7 hamp hlt hgt hquot hapos hgrave =>
    have hne (d : Char) (h : c.toNat ≠ d.toNat) : c ≠ d := fun he => h (he ▸ rfl)
    refine .inr ⟨?_, hne _ hamp, rfl⟩
    simp only [marks, List.mem_cons, List.not_mem_nil, or_false, not_or]
    exact ⟨hne _ hlt, hne _ hgt, hne _ hquot, hne _ hapos, hne _ hgrave⟩
  all_goals exact .inl (by simp [entities])

/-- An entity has no mark, and no ampersand behind its first character. -/
theorem entity_clean : ∀ e ∈ entities, (∀ c ∈ marks, c ∉ e) ∧ e.head? = some '&' ∧ '&' ∉ e.tail := by
  simp [entities, marks]

theorem no_mark_escapeChar (c : Char) : ∀ d ∈ marks, d ∉ escapeChar c := by
  intro d hd hmem
  rcases escapeChar_cases c with hentity | ⟨hc, -, heq⟩
  · exact (entity_clean _ hentity).1 d hd hmem
  · rw [heq, List.mem_singleton] at hmem
    exact hc (hmem ▸ hd)

/-- An ampersand in what stands for a character is the first character of an entity. -/
theorem entity_escapeChar {c : Char} {before after : List Char}
    (h : escapeChar c = before ++ '&' :: after) : before = [] ∧ '&' :: after ∈ entities := by
  rcases escapeChar_cases c with hentity | ⟨-, hc, heq⟩
  · cases before with
    | nil => exact ⟨rfl, by rwa [h] at hentity⟩
    | cons d before =>
      have hno := (entity_clean _ hentity).2.2
      rw [h, List.cons_append, List.tail_cons] at hno
      exact absurd (List.mem_append_right _ List.mem_cons_self) hno
  · have hmem : '&' ∈ [c] := heq ▸ h ▸ List.mem_append_right _ List.mem_cons_self
    exact absurd (List.mem_singleton.mp hmem).symm hc

/-- **Escaped text is inert.** -/
theorem inert_escape (cs : List Char) : Inert (escape cs) where
  no_mark d hd hmem := by
    obtain ⟨c, -, hc⟩ := List.mem_flatMap.mp hmem
    exact no_mark_escapeChar c d hd hc
  entity before after h := by
    induction cs generalizing before with
    | nil => simp [escape] at h
    | cons c cs ih =>
      rw [escape, List.flatMap_cons] at h
      rcases List.append_eq_append_iff.mp h with ⟨rest, rfl, hrest⟩ | ⟨rest, hc, hrest⟩
      · exact ih rest hrest
      · cases rest with
        | nil => exact ih [] hrest.symm
        | cons d rest =>
          -- The ampersand is one of the characters that stand for `c`.
          cases hrest
          obtain ⟨-, hentity⟩ := entity_escapeChar hc
          exact ⟨_, hentity, List.prefix_append _ _⟩

/-! ## Reading back -/

/-- A character that is no ampersand is read as itself. -/
theorem unescape_cons {c : Char} (hc : c ≠ '&') (rest : List Char) :
    unescape (c :: rest) = c :: unescape rest := by
  rw [unescape]
  -- What is left is that no entity begins here.
  all_goals exact fun _ h => absurd h hc

/-- An entity is read as the character that it stands for, whatever is behind it. -/
theorem unescape_entity {c : Char} {e : List Char} (he : entity? c = some e) (rest : List Char) :
    unescape (e ++ rest) = c :: unescape rest := by
  have hcode : Char.ofNat c.toNat = c := Char.ofNat_toNat c
  unfold entity? at he
  split at he
  case h_7 => cases he
  all_goals
    next hc =>
    rw [hc] at hcode
    rw [← hcode, ← Option.some.inj he]
    rfl

theorem unescape_escapeChar (c : Char) (rest : List Char) :
    unescape (escapeChar c ++ rest) = c :: unescape rest := by
  unfold escapeChar
  cases he : entity? c with
  | some e => exact unescape_entity he rest
  | none =>
    have hc : c ≠ '&' := by
      rintro rfl
      cases he
    exact unescape_cons hc rest

theorem escapeChar_ne_nil (c : Char) : escapeChar c ≠ [] := by
  intro h
  have hread := unescape_escapeChar c []
  rw [h] at hread
  cases hread

theorem escapeChar_injective {c d : Char} (h : escapeChar c = escapeChar d) : c = d := by
  have hread := unescape_escapeChar c []
  rw [h, unescape_escapeChar] at hread
  exact (List.cons.inj hread).1.symm

theorem escape_cons (c : Char) (cs : List Char) : escape (c :: cs) = escapeChar c ++ escape cs :=
  List.flatMap_cons

/-- **Escaped text is read back**, and reading goes on behind it. -/
theorem unescape_escape_append (cs rest : List Char) :
    unescape (escape cs ++ rest) = cs ++ unescape rest := by
  induction cs with
  | nil => rfl
  | cons c cs ih =>
    calc unescape (escape (c :: cs) ++ rest)
      _ = unescape (escapeChar c ++ (escape cs ++ rest)) := by rw [escape_cons, List.append_assoc]
      _ = c :: unescape (escape cs ++ rest) := unescape_escapeChar c _
      _ = c :: cs ++ unescape rest := by rw [ih, List.cons_append]

theorem unescape_escape (cs : List Char) : unescape (escape cs) = cs := by
  have h := unescape_escape_append cs []
  rwa [List.append_nil, unescape, List.append_nil] at h

/-! ## Which texts are inert -/

/-- What stands behind a part of an inert text is inert. -/
theorem Inert.of_append {front cs : List Char} (h : Inert (front ++ cs)) : Inert cs where
  no_mark c hc hmem := h.no_mark c hc (List.mem_append_right front hmem)
  entity before after hcs := h.entity (front ++ before) after (by rw [hcs, List.append_assoc])

/-- The entities stand for the ampersand and the marks. -/
theorem entities_eq_map : entities = ('&' :: marks).map escapeChar := rfl

/-- All other characters stand for themselves. -/
theorem escapeChar_of_not_mem {c : Char} (hc : c ∉ '&' :: marks) : escapeChar c = [c] := by
  rcases escapeChar_cases c with hentity | ⟨-, -, heq⟩
  · rw [entities_eq_map] at hentity
    obtain ⟨d, hd, hdc⟩ := List.mem_map.mp hentity
    exact absurd (escapeChar_injective hdc ▸ hd) hc
  · exact heq

/-- An inert text that is not empty begins with what stands for some character. -/
theorem Inert.exists_escapeChar {c : Char} {cs : List Char} (h : Inert (c :: cs)) :
    ∃ d rest, c :: cs = escapeChar d ++ rest := by
  by_cases hc : c = '&'
  · subst hc
    obtain ⟨e, he, rest, hrest⟩ := h.entity [] cs rfl
    rw [entities_eq_map] at he
    obtain ⟨d, -, rfl⟩ := List.mem_map.mp he
    exact ⟨d, rest, hrest.symm⟩
  · have hmem : c ∉ '&' :: marks := by
      rw [List.mem_cons, not_or]
      exact ⟨hc, fun hmark => h.no_mark c hmark List.mem_cons_self⟩
    exact ⟨c, cs, by rw [escapeChar_of_not_mem hmem, List.singleton_append]⟩

/-- **The inert texts are the escaped ones.** -/
theorem inert_iff {cs : List Char} : Inert cs ↔ ∃ ds, escape ds = cs := by
  constructor
  · intro h
    -- The step takes a whole entity away, so the induction is on the length.
    induction hn : cs.length using Nat.strongRecOn generalizing cs with
    | ind n ih =>
      cases cs with
      | nil => exact ⟨[], rfl⟩
      | cons c cs =>
        obtain ⟨d, rest, hrest⟩ := h.exists_escapeChar
        rw [hrest] at h hn
        have hpos : 0 < (escapeChar d).length := List.length_pos_iff.mpr (escapeChar_ne_nil d)
        have hlt : rest.length < n := by
          rw [List.length_append] at hn
          omega
        obtain ⟨ds, hds⟩ := ih rest.length hlt h.of_append rfl
        exact ⟨d :: ds, by rw [escape_cons, hds, hrest]⟩
  · rintro ⟨ds, rfl⟩
    exact inert_escape ds

/-! ## Texts -/

/-- The text that is written for a text where it is escaped. -/
def escaped (s : String) : String := String.ofList (escape s.toList)

theorem toList_escaped (s : String) : (escaped s).toList = escape s.toList := String.toList_ofList

theorem escaped_append (s t : String) : escaped (s ++ t) = escaped s ++ escaped t := by
  rw [escaped, String.toList_append, escape_append, String.ofList_append]
  rfl

theorem inert_toList_iff {t : String} : Inert t.toList ↔ ∃ s, escaped s = t := by
  rw [inert_iff]
  constructor
  · rintro ⟨cs, hcs⟩
    refine ⟨String.ofList cs, ?_⟩
    rw [escaped, String.toList_ofList, hcs, String.ofList_toList]
  · rintro ⟨s, rfl⟩
    exact ⟨s.toList, (toList_escaped s).symm⟩

end Wording.Text.Html

namespace Wording

open Text.Html

/-- **Escaping loses nothing and leaves nothing to markup.** A text is escaped without a failure and
without a look at the heap. What is written for it has none of the five marks, and ampersands only
where entities begin; one pass from left to right over its entities gives the text back. Two texts
are therefore never escaped to the same, texts are escaped part by part, and the inert texts are
exactly those that some text is escaped to. -/
theorem escapedText_reads_back :
    (∀ s h, outcome (escapedText (.str s)) h = (.ok (escaped s), h)) ∧
      (∀ s, Inert (escaped s).toList) ∧
      (∀ s, unescape (escaped s).toList = s.toList) ∧
      Function.Injective escaped ∧
      (∀ s t, escaped (s ++ t) = escaped s ++ escaped t) ∧
      ∀ t : String, Inert t.toList ↔ ∃ s, escaped s = t := by
  have hread (s : String) : unescape (escaped s).toList = s.toList := by
    rw [toList_escaped, unescape_escape]
  have hinjective : Function.Injective escaped := by
    intro s t h
    rw [← String.toList_inj, ← hread s, h, hread t]
  exact ⟨fun _ _ => rfl, fun s => inert_toList_iff.mpr ⟨s, rfl⟩, hread, hinjective,
    escaped_append, fun _ => inert_toList_iff⟩

/-- An entity in a text is escaped by its ampersand alone, and read back in one pass. -/
example : escaped "&lt;<" = "&amp;lt;&lt;" ∧ unescape "&amp;lt;&lt;".toList = "&lt;<".toList := by
  decide

end Wording
