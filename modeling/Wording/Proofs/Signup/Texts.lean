import Wording.Proofs.Signup.Worded

/-!
# The messages for what the rules find

For each finding and each language, what the catalogs hold, the tree of the template that it is, and
the text that the template writes.

* `Finding.compile_source`: what the catalogs hold is compiled to its tree
* `Finding.exists_renderTemplate`: the template writes the message
-/

namespace Wording

open Text

namespace Signup

/-! ## Languages -/

/-- The languages of the messages. -/
inductive Language where
  | en
  | de

def Language.code : Language → String
  | en => "en"
  | de => "de"

namespace Finding

/-- The fields of an issue that reports a finding. -/
def fields (f : Finding) : Entries :=
  (f.data.insert (.str "name") (.str f.name)).insert (.str "type") (.str f.type)

/-- What an issue tells a template: its fields, and the generic name. -/
def context (f : Finding) : Entries := Session.given (genericName? (.str f.name)) [] f.fields

/-! ## Messages -/

/-- A text that is shown, escaped, between two others. -/
def between (start s stop : String) : String :=
  start ++ String.ofList (Html.escape s.toList) ++ stop

/-- The message for a finding in English. -/
def english : Finding → String
  | lacking field =>
    if field.1 = "password" then "Choose a password" else field.2 ++ " is required"
  | short _ => "Username must be at least 3 characters"
  | noAddress s => between "Email is not valid (" s ")"
  | noTags => "Add at least 1 tag"
  | emptyTag i => "Tag #" ++ toString (i + 1) ++ " cannot be empty"

/-- The message for a finding in German. -/
def german : Finding → String
  | lacking field => field.2 ++ " ist erforderlich"
  | short _ => "Username muss mindestens 3 Zeichen lang sein"
  | noAddress s => between "Email ist ungültig (" s ")"
  | noTags => "Mindestens 1 Schlagwort angeben"
  | emptyTag _ => "Schlagwort darf nicht leer sein"

def message : Language → Finding → String
  | .en => english
  | .de => german

/-- What the English catalog holds for a finding: a text that is a template, or a callable. -/
def englishSource : Finding → Value
  | lacking field =>
    if field.1 = "password" then .str "Choose a password"
    else .str (shows "label" ++ " is required")
  | short _ => .str (shows "label" ++ " must be at least " ++ shows "min" ++ " characters")
  | noAddress _ => .str (shows "label" ++ " is not valid (" ++ shows "value" ++ ")")
  | noTags => minCountMessage
  | emptyTag _ =>
    .str ("Tag #" ++ shows " int(name.split(\x27.\x27)[-1]) + 1 " ++ " cannot be empty")

/-- What the German catalog holds for a finding. -/
def germanSource : Finding → Value
  | lacking _ => .str (shows "label" ++ " ist erforderlich")
  | short _ => .str (shows "label" ++ " muss mindestens " ++ shows "min" ++ " Zeichen lang sein")
  | noAddress _ => .str (shows "label" ++ " ist ungültig (" ++ shows "value" ++ ")")
  | noTags =>
    .str ("Mindestens " ++ shows "minCount" ++ " " ++ statement "if minCount == 1"
      ++ "Schlagwort" ++ statement "else" ++ "Schlagwörter" ++ statement "end" ++ " angeben")
  | emptyTag _ => .str "Schlagwort darf nicht leer sein"

def source : Language → Finding → Value
  | .en => englishSource
  | .de => germanSource

/-! ## Trees -/

/-- The condition that one tag is asked for. -/
def oneTag : Expression :=
  ⟨"minCount == 1", .compare (.name "minCount") [(.eq, .literal (.int 1))]⟩

/-- The trees of the English templates. -/
def englishNodes : Finding → List Node
  | lacking field =>
    if field.1 = "password" then [.text "Choose a password"]
    else [shown "label", .text " is required"]
  | short _ => [shown "label", .text " must be at least ", shown "min", .text " characters"]
  | noAddress _ => [shown "label", .text " is not valid (", shown "value", .text ")"]
  | noTags =>
    [.text "Add at least ", .interpolate ⟨"minCount", .name "minCount"⟩, .text " ",
      .cond oneTag [.text "tag"] (.otherwise [.text "tags"])]
  | emptyTag _ => [.text "Tag #", .escape tagNumber, .text " cannot be empty"]

/-- The trees of the German templates. -/
def germanNodes : Finding → List Node
  | lacking _ => [shown "label", .text " ist erforderlich"]
  | short _ => [shown "label", .text " muss mindestens ", shown "min", .text " Zeichen lang sein"]
  | noAddress _ => [shown "label", .text " ist ungültig (", shown "value", .text ")"]
  | noTags =>
    [.text "Mindestens ", shown "minCount", .text " ",
      .cond oneTag [.text "Schlagwort"] (.otherwise [.text "Schlagwörter"]), .text " angeben"]
  | emptyTag _ => [.text "Schlagwort darf nicht leer sein"]

def nodes : Language → Finding → List Node
  | .en => englishNodes
  | .de => germanNodes

/-- **What the catalogs hold for a finding is compiled to its tree.** -/
theorem compile_source {m : Markers} (hm : formMarkers = .ok m) (l : Language) (f : Finding)
    {text : String} (htext : f.source l = .str text) :
    Template.compile m text = .ok ⟨text, m, f.nodes l⟩ := by
  apply compile_of_compilesTo hm
  cases l with
  | en =>
    cases f with
    | lacking field =>
      rw [source, englishSource] at htext
      rw [nodes, englishNodes]
      by_cases hpassword : field.1 = "password"
      · rw [if_pos hpassword] at htext ⊢
        cases htext
        decide +kernel
      · rw [if_neg hpassword] at htext ⊢
        cases htext
        decide +kernel
    | noTags => cases htext
    | short | noAddress | emptyTag =>
      cases htext
      rw [nodes, englishNodes]
      decide +kernel
  | de =>
    cases f <;>
    · cases htext
      rw [nodes, germanNodes]
      decide +kernel

/-! ## Contexts -/

theorem requiredFields_cases {field : String × String} (h : field ∈ requiredFields) :
    field = ("username", "Username") ∨ field = ("email", "Email") ∨
      field = ("password", "Password") := by
  simpa only [requiredFields, List.mem_cons, List.not_mem_nil, or_false] using h

/-- The generic name of the field of a finding. -/
def generic : Finding → String
  | emptyTag _ => "tags.$"
  | f => f.name

theorem name_emptyTag (i : Nat) :
    (emptyTag i).name.toList = "tags".toList ++ '.' :: Nat.toDigits 10 i := by
  rw [name, String.toList_append, toList_toString]
  rfl

theorem genericName?_name {f : Finding} (hf : f.Known) :
    genericName? (.str f.name) = some f.generic := by
  cases f with
  | lacking field =>
    rcases requiredFields_cases hf with rfl | rfl | rfl <;> decide +kernel
  | emptyTag i =>
    rw [genericName?, name_emptyTag, generic_position (by decide)]
    rfl
  | short | noAddress | noTags =>
    simp only [generic, name]
    decide +kernel

theorem context_eq {f : Finding} (hf : f.Known) : f.context =
    (.str "genericName", .str f.generic) :: (f.data ++
      [(.str "name", .str f.name), (.str "type", .str f.type)]) := by
  rw [context, genericName?_name hf]
  cases f <;>
    simp [fields, Session.given, Entries.overlay, Entries.insert, data, extra, Keyed.put,
      Value.keyEq_str]

/-- What an issue says further is what a template finds. -/
theorem lookup_context {f : Finding} (hf : f.Known) {id : String} {v : Value}
    (hv : f.data.lookup (.str id) = some v) (hid : id ≠ "genericName") :
    f.context.lookup (.str id) = some v := by
  have hother : (Value.str "genericName").keyEq (.str id) = false := by
    simpa [Value.keyEq_str] using hid.symm
  unfold Entries.lookup Keyed.find? at hv ⊢
  obtain ⟨e, he, rfl⟩ := Option.map_eq_some_iff.mp hv
  rw [context_eq hf, List.find?_cons_of_neg (by simp [hother]), List.find?_append, he]
  rfl

/-! ## What is written -/

theorem escape_label {field : String × String} (h : field ∈ requiredFields) :
    String.ofList (Html.escape field.2.toList) = field.2 := by
  rcases requiredFields_cases h with rfl | rfl | rfl <;> decide

theorem escape_digits (i : Nat) :
    String.ofList (Html.escape (toString i).toList) = toString i := by
  have hchar : ∀ c ∈ (toString i).toList, Html.escapeChar c = [c] := by
    intro c hc
    rw [toList_toString] at hc
    have hcode := (isDigit_iff c).mp (isDigit_of_mem_digits hc)
    unfold Html.escapeChar Html.entity?
    split <;> first | omega | rfl
  rw [Html.escape, List.flatMap_congr hchar, List.flatMap_singleton', String.ofList_toList]

section

variable {f : Finding} {m : Machine} {r : Ref} {h : Heap} (hf : f.Known)
  (hr : h.cells[r]? = some (.dict f.context))
include hf hr

theorem yields_data {id source : String} {v : Value} (hv : f.data.lookup (.str id) = some v)
    (hid : id ≠ "genericName") : Expression.Yields m r h ⟨source, .name id⟩ v :=
  yields_name hr (lookup_context hf hv hid)

/-- A place that shows further data of an issue. -/
theorem writes_shown {id s t : String} {v : Value} (hv : f.data.lookup (.str id) = some v)
    (hid : id ≠ "genericName") (hs : v.Shows s) (ht : String.ofList (Html.escape s.toList) = t) :
    (shown id).Writes m r h t :=
  ht ▸ writes_escape (yields_data hf hr hv hid) hs

end

section

variable {m : Machine} {r : Ref} {h : Heap}

theorem exists_writes_lacking {field : String × String} (hf : (lacking field).Known)
    (hr : h.cells[r]? = some (.dict (lacking field).context)) (l : Language) :
    ∃ ss, List.Forall₂ (Node.Writes m r h) ((lacking field).nodes l) ss ∧
      ss.foldl (· ++ ·) "" = (lacking field).message l := by
  have hlabel : (shown "label").Writes m r h field.2 :=
    writes_shown hf hr rfl (by decide) (shows_str _) (escape_label hf)
  have hall (s : String) : List.Forall₂ (Node.Writes m r h) [shown "label", .text s]
      [field.2, s] := .cons hlabel (.cons (writes_text s) .nil)
  have hjoined (s : String) : [field.2, s].foldl (· ++ ·) "" = field.2 ++ s :=
    congrArg (· ++ s) String.empty_append
  cases l with
  | en =>
    by_cases hpassword : field.1 = "password"
    · refine ⟨["Choose a password"], ?_, (if_pos hpassword).symm⟩
      rw [nodes, englishNodes, if_pos hpassword]
      exact .cons (writes_text _) .nil
    · refine ⟨[field.2, " is required"], ?_, (hjoined _).trans (if_neg hpassword).symm⟩
      rw [nodes, englishNodes, if_neg hpassword]
      exact hall _
  | de => exact ⟨_, hall " ist erforderlich", hjoined _⟩

theorem exists_writes_short {v : Value} (hr : h.cells[r]? = some (.dict (short v).context))
    (l : Language) : ∃ ss, List.Forall₂ (Node.Writes m r h) ((short v).nodes l) ss ∧
      ss.foldl (· ++ ·) "" = (short v).message l := by
  have hf : (short v).Known := trivial
  have hlabel : (shown "label").Writes m r h "Username" :=
    writes_shown hf hr rfl (by decide) (shows_str _) (by decide)
  have hmin : (shown "min").Writes m r h "3" :=
    writes_shown hf hr rfl (by decide) (shows_int (n := 3) rfl) (by decide)
  have hall (s t : String) : List.Forall₂ (Node.Writes m r h)
      [shown "label", .text s, shown "min", .text t] ["Username", s, "3", t] :=
    .cons hlabel (.cons (writes_text s) (.cons hmin (.cons (writes_text t) .nil)))
  cases l with
  | en => exact ⟨_, hall " must be at least " " characters", rfl⟩
  | de => exact ⟨_, hall " muss mindestens " " Zeichen lang sein", rfl⟩

theorem exists_writes_noAddress {s : String}
    (hr : h.cells[r]? = some (.dict (noAddress s).context)) (l : Language) :
    ∃ ss, List.Forall₂ (Node.Writes m r h) ((noAddress s).nodes l) ss ∧
      ss.foldl (· ++ ·) "" = (noAddress s).message l := by
  have hf : (noAddress s).Known := trivial
  have hlabel : (shown "label").Writes m r h "Email" :=
    writes_shown hf hr rfl (by decide) (shows_str _) (by decide)
  have hvalue : (shown "value").Writes m r h (String.ofList (Html.escape s.toList)) :=
    writes_shown hf hr rfl (by decide) (shows_str _) rfl
  have hall (s₁ s₂ : String) : List.Forall₂ (Node.Writes m r h)
      [shown "label", .text s₁, shown "value", .text s₂]
      ["Email", s₁, String.ofList (Html.escape s.toList), s₂] :=
    .cons hlabel (.cons (writes_text s₁) (.cons hvalue (.cons (writes_text s₂) .nil)))
  cases l with
  | en => exact ⟨_, hall _ _, rfl⟩
  | de => exact ⟨_, hall _ _, rfl⟩

theorem yields_oneTag (hr : h.cells[r]? = some (.dict noTags.context)) :
    oneTag.Yields m r h (.bool true) := by
  refine Expression.yields_of_eval fun k hk => ⟨k, ?_, .refl k⟩
  have hcount : k.lookup r (.str "minCount") = some (.int 1) :=
    (hk.lookup_cell hr _).trans (lookup_context (f := noTags) trivial rfl (by decide))
  rw [oneTag, Expr.eval, Expr.eval, outcome_bind_of_ok (outcome_evalName hcount)]
  rfl

theorem exists_writes_noTags (hr : h.cells[r]? = some (.dict noTags.context)) (l : Language) :
    ∃ ss, List.Forall₂ (Node.Writes m r h) (noTags.nodes l) ss ∧
      ss.foldl (· ++ ·) "" = noTags.message l := by
  have hf : noTags.Known := trivial
  cases l with
  | en =>
    have hcount : (Node.interpolate ⟨"minCount", .name "minCount"⟩).Writes m r h "1" :=
      writes_interpolate (yields_data hf hr rfl (by decide)) (shows_int (n := 1) rfl)
    rw [nodes, message]
    exact ⟨["Add at least ", "1", " ", "tag"], .cons (writes_text _) (.cons hcount
      (.cons (writes_text _) (.cons (writes_cond (yields_oneTag hr)) .nil))), rfl⟩
  | de =>
    have hcount : (shown "minCount").Writes m r h "1" :=
      writes_shown hf hr rfl (by decide) (shows_int (n := 1) rfl) (by decide)
    rw [nodes, message]
    exact ⟨["Mindestens ", "1", " ", "Schlagwort", " angeben"], .cons (writes_text _) (.cons hcount
      (.cons (writes_text _) (.cons (writes_cond (yields_oneTag hr)) (.cons (writes_text _)
        .nil)))), rfl⟩

theorem exists_writes_emptyTag {i : Nat} (hf : (emptyTag i).Known)
    (hr : h.cells[r]? = some (.dict (emptyTag i).context)) (limit depth : Nat) (l : Language) :
    ∃ ss, List.Forall₂ (Node.Writes ⟨callTo limit (depth + 1), limit⟩ r h)
        ((emptyTag i).nodes l) ss ∧ ss.foldl (· ++ ·) "" = (emptyTag i).message l := by
  cases l with
  | en =>
    have hname : (emptyTag i).context.lookup (.str "name") =
        some (.ofChars ("tags".toList ++ '.' :: Nat.toDigits 10 i)) := by
      rw [context_eq hf, Value.ofChars, ← name_emptyTag, String.ofList_toList]
      simp [Entries.lookup, Keyed.find?, data, extra, Value.keyEq_str]
    have hint : (emptyTag i).context.lookup (.str "int") = none := by
      rw [context_eq hf]
      simp [Entries.lookup, Keyed.find?, data, extra, Value.keyEq_str]
    have hnumber : tagNumber.Yields ⟨callTo limit (depth + 1), limit⟩ r h (.int (i + 1)) :=
      yields_tagNumber limit depth hr (by decide) hname hint hf
    have hshows : (Value.int (i + 1)).Shows (toString (i + 1)) := shows_int
      (intText_of_le (n := i + 1) (by have := hf; simp only [Known] at this; omega)).1
    have hwrites := writes_escape hnumber hshows
    rw [escape_digits] at hwrites
    exact ⟨["Tag #", toString (i + 1), " cannot be empty"], .cons (writes_text _)
      (.cons hwrites (.cons (writes_text _) .nil)), rfl⟩
  | de => exact ⟨["Schlagwort darf nicht leer sein"], .cons (writes_text _) .nil, rfl⟩

/-- **The nodes for a finding write its message.** -/
theorem exists_writes {f : Finding} (hf : f.Known) (hr : h.cells[r]? = some (.dict f.context))
    (limit depth : Nat) (l : Language) :
    ∃ ss, List.Forall₂ (Node.Writes ⟨callTo limit (depth + 1), limit⟩ r h) (f.nodes l) ss ∧
      ss.foldl (· ++ ·) "" = f.message l := by
  cases f with
  | lacking => exact exists_writes_lacking hf hr l
  | short => exact exists_writes_short hr l
  | noAddress => exact exists_writes_noAddress hr l
  | noTags => exact exists_writes_noTags hr l
  | emptyTag => exact exists_writes_emptyTag hf hr limit depth l

theorem context_ne_nil {f : Finding} (hf : f.Known) : f.context ≠ [] := by
  rw [context_eq hf]
  exact List.cons_ne_nil _ _

/-- What the catalogs hold for a finding is a text that is a template, or a callable. -/
theorem source_cases (l : Language) (f : Finding) :
    (∃ text, f.source l = .str text) ∨ f = noTags ∧ l = .en := by
  cases l with
  | en =>
    cases f with
    | lacking field =>
      refine .inl ?_
      rw [source, englishSource]
      split <;> exact ⟨_, rfl⟩
    | noTags => exact .inr ⟨rfl, rfl⟩
    | short | noAddress | emptyTag => exact .inl ⟨_, rfl⟩
  | de => cases f <;> exact .inl ⟨_, rfl⟩

/-- **The template for a finding writes its message.** -/
theorem exists_renderTemplate {f : Finding} (hf : f.Known)
    (hr : h.cells[r]? = some (.dict f.context)) (limit depth : Nat) (l : Language) :
    ∃ k, outcome (renderTemplate ⟨callTo limit (depth + 1), limit⟩ (f.nodes l) (some (.dict r))) h =
      (.ok (f.message l), k) ∧ h.Extends k := by
  obtain ⟨ss, hss, htext⟩ := exists_writes hf hr limit depth l
  rw [← htext]
  exact exists_rendered hr (context_ne_nil hf) hss

/-- The callable for no tags is called. -/
theorem exists_call_minCount (hr : h.cells[r]? = some (.dict noTags.context))
    (limit depth : Nat) :
    ∃ k, outcome (callTo limit (depth + 1) minCountMessage ⟨[.dict r], []⟩) h =
      (.ok (.str (noTags.message .en)), k) ∧ h.Extends k := by
  obtain ⟨ss, hss, htext⟩ := exists_writes_noTags (m := ⟨callTo limit depth, limit⟩) hr .en
  obtain ⟨k, hk, hext⟩ := exists_rendered hr (context_ne_nil trivial) hss
  have hcall : callTo limit (depth + 1) minCountMessage ⟨[.dict r], []⟩ = (do
      return .str (← renderTemplate ⟨callTo limit depth, limit⟩ (noTags.nodes .en)
        (some (.dict r)))) := rfl
  refine ⟨k, ?_, hext⟩
  rw [hcall, outcome_bind_of_ok hk, htext]
  rfl

end

end Finding

end Signup

end Wording
