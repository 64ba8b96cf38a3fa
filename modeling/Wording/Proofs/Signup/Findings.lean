import Wording.Proofs.Signup.Position
import Wording.Proofs.Template.Untouched

/-!
# What the rules of the form find

The issues with the answers of a form, as far as the messages for them depend on them. A field that
must be filled in is either found empty or checked further, so it is found once; each empty tag is
found at its own position.

* `Finding.Known`: all that the rules can find
* `exists_findings`: the issues with some answers, no two of them with one field
-/

namespace Wording

namespace Heap

variable {h k : Heap}

theorem Extends.entries_eq (hk : h.Extends k) {r : Ref} (hr : r < h.cells.size) :
    k.entries r = h.entries r := by
  rw [entries, hk.2 r hr, entries]

theorem Extends.lookup_eq (hk : h.Extends k) {r : Ref} (hr : r < h.cells.size) (key : Value) :
    k.lookup r key = h.lookup r key := by
  rw [lookup, hk.entries_eq hr, lookup]

theorem Extends.cell (hk : h.Extends k) {r : Ref} {c : Cell} (hr : h.cells[r]? = some c) :
    k.cells[r]? = some c := by
  obtain ⟨hlt, -⟩ := Array.getElem?_eq_some_iff.mp hr
  rw [hk.2 r hlt, hr]

/-- A value counts as true behind later changes if it did before. -/
theorem Extends.truthy_eq (hk : h.Extends k) {v : Value}
    (hv : v.In fun r : Nat => r < h.cells.size) : k.truthy v = h.truthy v := by
  cases hv with
  | list hr => rw [truthy, items, hk.2 _ hr, truthy, items]
  | dict hr => rw [truthy, hk.entries_eq hr, truthy]
  | atom ha => cases v <;> first | rfl | cases ha
  | _ => rfl

end Heap

namespace Signup

/-! ## Findings -/

/-- What a rule finds wrong with an answer. -/
inductive Finding where
  /-- A field that must be filled in, with its label, is not. -/
  | lacking (field : String × String)
  /-- The user name is too short. -/
  | short (v : Value)
  /-- The email is no address. -/
  | noAddress (s : String)
  | noTags
  /-- The tag at a position is empty. -/
  | emptyTag (i : Nat)

namespace Finding

/-- The field that a finding is about. -/
def name : Finding → String
  | lacking field => field.1
  | short _ => "username"
  | noAddress _ => "email"
  | noTags => "tags"
  | emptyTag i => "tags." ++ toString i

/-- The type of the error. -/
def type : Finding → String
  | lacking _ | emptyTag _ => "required"
  | short _ => "minString"
  | noAddress _ => "regEx"
  | noTags => "minCount"

/-- The further data of an issue. -/
def extra : Finding → List (String × Value)
  | lacking field => [("label", .str field.2)]
  | short v => [("label", .str "Username"), ("min", .int 3), ("value", v)]
  | noAddress s => [("label", .str "Email"), ("value", .str s)]
  | noTags => [("label", .str "Tags"), ("minCount", .int 1)]
  | emptyTag _ => [("label", .str "Tag")]

/-- What the rules of the form can find: only fields that are asked for are missing, and a list of
tags is no longer than lists can be. -/
def Known : Finding → Prop
  | lacking field => field ∈ requiredFields
  | emptyTag i => (i : Int) < Value.maxSize
  | _ => True

/-- The further data, as it lies in a heap. -/
def data (f : Finding) : Entries := f.extra.map fun e => (.str e.1, e.2)

/-- An issue reports a finding. -/
def Reported (f : Finding) (h : Heap) (d : Descriptor) : Prop :=
  ∃ r, d = ⟨.str f.name, .str f.type, .null, .dict r⟩ ∧ h.cells[r]? = some (.dict f.data)

end Finding

/-- From one heap to another, findings are reported by issues. -/
structure Reports (h : Heap) (fs : List Finding) (ds : List Descriptor) (k : Heap) : Prop where
  grown : h.Extends k
  reported : List.Forall₂ (fun f d => f.Reported k d) fs ds

section

variable {h k l : Heap} {f : Finding} {fs gs : List Finding} {d : Descriptor}
  {ds es : List Descriptor}

theorem Finding.Reported.mono (hd : f.Reported h d) (hk : h.Extends k) : f.Reported k d := by
  obtain ⟨r, rfl, hr⟩ := hd
  exact ⟨r, rfl, hk.cell hr⟩

theorem Reports.nil (h : Heap) : Reports h [] [] h := ⟨.refl h, .nil⟩

theorem Reports.append (hfs : Reports h fs ds k) (hgs : Reports k gs es l) :
    Reports h (fs ++ gs) (ds ++ es) l :=
  ⟨hfs.grown.trans hgs.grown,
    List.rel_append (hfs.reported.imp fun _ _ hd => hd.mono hgs.grown) hgs.reported⟩

/-- A finding is reported by a new issue. -/
theorem exists_issue (f : Finding) (h : Heap) :
    ∃ d k, outcome (issue f.name f.type f.extra) h = (.ok d, k) ∧ Reports h [f] [d] k :=
  ⟨⟨.str f.name, .str f.type, .null, .dict h.cells.size⟩, ⟨h.cells.push (.dict f.data)⟩, rfl,
    (Heap.Extends.refl h).push _, .cons ⟨_, rfl, Array.getElem?_push_size⟩ .nil⟩

end

/-! ## Answers -/

/-- The answer in a field, null if there is none. -/
def answerTo (h : Heap) (r : Ref) (name : String) : Value := (h.lookup r (.str name)).getD .null

/-- Whether a field is filled in. -/
def fills (h : Heap) (r : Ref) (name : String) : Bool := h.truthy (answerTo h r name)

section

variable {h k l : Heap} {r : Ref} {ds : List Descriptor}

theorem outcome_field (h : Heap) (r : Ref) (name : String) :
    outcome (field (.dict r) name) h = (.ok (answerTo h r name), h) := rfl

theorem outcome_isFilled (h : Heap) (v : Value) :
    outcome (isFilled v) h = (.ok (h.truthy v), h) := rfl

theorem answerTo_extends (hk : h.Extends k) (hr : r < h.cells.size) (name : String) :
    answerTo k r name = answerTo h r name := by
  rw [answerTo, hk.lookup_eq hr, answerTo]

theorem answerTo_in (hclosed : h.Closed) (r : Ref) (name : String) :
    (answerTo h r name).In fun s : Nat => s < h.cells.size := by
  rw [answerTo]
  cases hv : h.lookup r (.str name) with
  | none => exact .atom rfl
  | some v =>
    rw [Heap.lookup, Entries.lookup, Keyed.find?] at hv
    obtain ⟨e, he, rfl⟩ := Option.map_eq_some_iff.mp hv
    have hmem := List.mem_of_find?_eq_some he
    rw [Heap.entries] at hmem
    split at hmem
    · next es hcell =>
      cases hclosed r _ hcell with
      | dict hes => exact (hes e hmem).2
    · cases hmem

/-- A field that is filled in stays so while issues are reported. -/
theorem fills_extends (hclosed : h.Closed) (hk : h.Extends k) (hr : r < h.cells.size)
    (name : String) : fills k r name = fills h r name := by
  rw [fills, answerTo_extends hk hr, hk.truthy_eq (answerTo_in hclosed r name), fills]

/-! ## Rules -/

variable (hclosed : h.Closed) (hr : r < h.cells.size) (hk : h.Extends k)
include hclosed hr hk

/-- **The fields that must be filled in and are not.** -/
theorem exists_missing (fields : List (String × String)) :
    ∃ ds l, outcome (missing (.dict r) fields) k = (.ok ds, l) ∧
      Reports k ((fields.filter fun e => !fills h r e.1).map Finding.lacking) ds l := by
  induction fields generalizing k with
  | nil => exact ⟨[], k, rfl, .nil k⟩
  | cons e fields ih =>
    obtain ⟨name, label⟩ := e
    have hfills : k.truthy (answerTo k r name) = fills h r name :=
      fills_extends hclosed hk hr name
    rw [missing, outcome_bind_of_ok (outcome_field k r name),
      outcome_bind_of_ok (outcome_isFilled k _), hfills]
    cases hname : fills h r name with
    | true =>
      obtain ⟨ds, l, hds, hrest⟩ := ih hk
      refine ⟨ds, l, outcome_bind_of_ok hds, ?_⟩
      rwa [List.filter_cons_of_neg (by simp [hname])]
    | false =>
      obtain ⟨d, l, hd, hfirst⟩ := exists_issue (.lacking (name, label)) k
      obtain ⟨ds, m, hds, hrest⟩ := ih (hk.trans hfirst.grown)
      refine ⟨d :: ds, m, ?_, ?_⟩
      · exact (outcome_bind_of_ok hd).trans (outcome_bind_of_ok hds)
      · rw [List.filter_cons_of_pos (by simp [hname])]
        exact hfirst.append hrest

/-- A user name that is filled in may be too short. -/
theorem exists_of_shortName (h' : outcome (shortName (.dict r)) k = (.ok ds, l)) :
    ∃ fs, Reports k fs ds l ∧
      (fs = [] ∨ fills h r "username" = true ∧ ∃ v, fs = [.short v]) := by
  have hfills : k.truthy (answerTo k r "username") = fills h r "username" :=
    fills_extends hclosed hk hr "username"
  rw [shortName, outcome_bind_of_ok (outcome_field k r _),
    outcome_bind_of_ok (outcome_isFilled k _), hfills] at h'
  cases hname : fills h r "username" with
  | false =>
    rw [hname] at h'
    cases h'
    exact ⟨[], .nil k, .inl rfl⟩
  | true =>
    rw [hname, if_pos rfl, outcome_get_bind] at h'
    cases hlen : helperLen k (answerTo k r "username") with
    | error e =>
      rw [hlen] at h'
      cases h'
    | ok n =>
      have hn : outcome (Eval.lift (.ok n)) k = (.ok n, k) := rfl
      rw [hlen, outcome_bind_of_ok hn] at h'
      split at h'
      · next n =>
        split at h'
        · obtain ⟨d, l', hd, hreports⟩ := exists_issue (.short (answerTo k r "username")) k
          cases (outcome_bind_of_ok hd).symm.trans h'
          exact ⟨_, hreports, .inr ⟨rfl, _, rfl⟩⟩
        · cases h'
          exact ⟨[], .nil k, .inl rfl⟩
      · cases h'
        exact ⟨[], .nil k, .inl rfl⟩

/-- An address that is filled in may be none. -/
theorem exists_of_badEmail (h' : outcome (badEmail (.dict r)) k = (.ok ds, l)) :
    ∃ fs, Reports k fs ds l ∧
      (fs = [] ∨ fills h r "email" = true ∧ ∃ s, fs = [.noAddress s]) := by
  have hfills : k.truthy (answerTo k r "email") = fills h r "email" :=
    fills_extends hclosed hk hr "email"
  rw [badEmail, outcome_bind_of_ok (outcome_field k r _),
    outcome_bind_of_ok (outcome_isFilled k _), hfills] at h'
  cases hname : fills h r "email" with
  | false =>
    rw [hname] at h'
    cases h'
    exact ⟨[], .nil k, .inl rfl⟩
  | true =>
    rw [hname, if_pos rfl] at h'
    split at h'
    · next s hs =>
      rw [hs] at h'
      split at h'
      · cases h'
        exact ⟨[], .nil k, .inl rfl⟩
      · obtain ⟨d, l', hd, hreports⟩ := exists_issue (.noAddress s) k
        cases (outcome_bind_of_ok hd).symm.trans h'
        exact ⟨_, hreports, .inr ⟨rfl, s, rfl⟩⟩
    · cases h'

end

/-- **The empty tags**, whatever the positions are counted from. -/
theorem exists_emptyTags (vs : List Value) (i : Nat) (k : Heap) :
    ∃ (js : List Nat) (ds : List Descriptor) (l : Heap),
      outcome (emptyTags i vs) k = (.ok ds, l) ∧
      Reports k (js.map Finding.emptyTag) ds l ∧ js.Pairwise (· < ·) ∧
      ∀ j ∈ js, i ≤ j ∧ j < i + vs.length := by
  induction vs generalizing i k with
  | nil => exact ⟨[], [], k, rfl, .nil k, .nil, nofun⟩
  | cons v vs ih =>
    rw [emptyTags, outcome_bind_of_ok (outcome_isFilled k v)]
    cases hv : k.truthy v with
    | true =>
      obtain ⟨js, ds, l, hds, hreports, hordered, hjs⟩ := ih (i + 1) k
      refine ⟨js, ds, l, outcome_bind_of_ok hds, hreports, hordered, fun j hj => ?_⟩
      obtain ⟨hlow, hhigh⟩ := hjs j hj
      rw [List.length_cons]
      omega
    | false =>
      obtain ⟨d, k', hd, hfirst⟩ := exists_issue (.emptyTag i) k
      obtain ⟨js, ds, l, hds, hreports, hordered, hjs⟩ := ih (i + 1) k'
      refine ⟨i :: js, d :: ds, l, (outcome_bind_of_ok hd).trans (outcome_bind_of_ok hds),
        hfirst.append hreports, .cons (fun j hj => (hjs j hj).1) hordered, ?_⟩
      rw [List.length_cons]
      refine List.forall_mem_cons.mpr ⟨by omega, fun j hj => ?_⟩
      obtain ⟨hlow, hhigh⟩ := hjs j hj
      omega

/-- The items that are put into a list are not more than a list can hold. -/
theorem length_of_listed {k l : Heap} {v : Value} {vs : List Value}
    (h : outcome (listed v) k = (.ok vs, l)) : l = k ∧ (vs.length : Int) ≤ Value.maxSize := by
  rw [listed, Eval.elements, bind_assoc, outcome_get_bind] at h
  cases helements : k.elements v with
  | error e =>
    rw [helements] at h
    cases h
  | ok items =>
    rw [helements] at h
    have hitems : outcome (Eval.lift (.ok items)) k = (.ok items, k) := rfl
    rw [outcome_bind_of_ok hitems] at h
    split at h
    · cases h
    · next hlen =>
      cases h
      exact ⟨rfl, Int.not_lt.mp hlen⟩

/-- **No tags at all, or those that are empty.** -/
theorem exists_of_badTags {r : Ref} {k l : Heap} {ds : List Descriptor}
    (h : outcome (badTags (.dict r)) k = (.ok ds, l)) :
    ∃ fs, Reports k fs ds l ∧
      (fs = [.noTags] ∨ ∃ js : List Nat, fs = js.map Finding.emptyTag ∧ js.Pairwise (· < ·) ∧
        ∀ j ∈ js, (j : Int) < Value.maxSize) := by
  obtain ⟨d, m, hd, hreports⟩ := exists_issue .noTags k
  have hnone {x : Except Fault (List Descriptor) × Heap} (hx : outcome (do
      let d ← issue Finding.noTags.name Finding.noTags.type Finding.noTags.extra
      let es ← emptyTags 0 []
      return [d] ++ es) k = x) : x = (.ok [d], m) := by
    rw [← hx, outcome_bind_of_ok hd]
    rfl
  rw [badTags, outcome_bind_of_ok (outcome_field k r _),
    outcome_bind_of_ok (outcome_isFilled k _)] at h
  cases hfills : k.truthy (answerTo k r "tags") with
  | false =>
    rw [hfills] at h
    cases hnone h
    exact ⟨_, hreports, .inl rfl⟩
  | true =>
    rw [hfills, if_pos rfl] at h
    obtain ⟨vs, k', hvs, h⟩ := exists_of_outcome_bind_eq_ok h
    obtain ⟨rfl, hlen⟩ := length_of_listed hvs
    cases vs with
    | nil =>
      cases hnone h
      exact ⟨_, hreports, .inl rfl⟩
    | cons v vs =>
      obtain ⟨js, es, l', hes, hreports, hordered, hjs⟩ := exists_emptyTags (v :: vs) 0 k'
      cases (outcome_bind_of_ok hes).symm.trans h
      refine ⟨_, hreports, .inr ⟨js, rfl, hordered, fun j hj => ?_⟩⟩
      obtain ⟨-, hhigh⟩ := hjs j hj
      omega

/-! ## All rules -/

theorem emptyTag_name_injective {i j : Nat}
    (h : (Finding.emptyTag i).name = (Finding.emptyTag j).name) : i = j :=
  toString_injective ((String.append_right_inj _).mp h)

/-- The names of fields that must be filled in and are not. -/
theorem mem_lacking {filled : String → Bool} {name : String}
    (h : name ∈ ((requiredFields.filter fun e => !filled e.1).map Finding.lacking).map (·.name)) :
    (name = "username" ∨ name = "email" ∨ name = "password") ∧ filled name = false := by
  simp only [List.map_map, List.mem_map, List.mem_filter, Function.comp] at h
  obtain ⟨e, ⟨he, hfilled⟩, rfl⟩ := h
  refine ⟨?_, by simpa [Finding.name] using hfilled⟩
  simp only [requiredFields, List.mem_cons, List.not_mem_nil, or_false] at he
  rcases he with rfl | rfl | rfl
  · exact .inl rfl
  · exact .inr (.inl rfl)
  · exact .inr (.inr rfl)

/-- The findings about tags, with names that begin as no other name does. -/
theorem tags_named {fs : List Finding} (h : fs = [.noTags] ∨ ∃ js : List Nat,
      fs = js.map Finding.emptyTag ∧ js.Pairwise (· < ·) ∧ ∀ j ∈ js, (j : Int) < Value.maxSize) :
    (∀ f ∈ fs, f.Known) ∧ (fs.map (·.name)).Nodup ∧
      ∀ name ∈ fs.map (·.name), name.toList.head? = some 't' := by
  rcases h with rfl | ⟨js, rfl, hordered, hjs⟩
  · simp [Finding.Known, Finding.name]
  · refine ⟨?_, ?_, ?_⟩
    · intro f hf
      obtain ⟨j, hj, rfl⟩ := List.mem_map.mp hf
      exact hjs j hj
    · rw [List.map_map]
      exact (hordered.imp Nat.ne_of_lt).map _ fun i j hne heq => hne (emptyTag_name_injective heq)
    · intro name hname
      simp only [List.map_map, List.mem_map, Function.comp] at hname
      obtain ⟨j, -, rfl⟩ := hname
      simp [Finding.name]

/-- A field that is filled in is not missing, and no tag is called like another field. -/
theorem nodup_names {filled : String → Bool} {short email tags : List Finding}
    (hshort : short = [] ∨ filled "username" = true ∧ ∃ v, short = [.short v])
    (hemail : email = [] ∨ filled "email" = true ∧ ∃ s, email = [.noAddress s])
    (hnodup : (tags.map (·.name)).Nodup)
    (hstart : ∀ name ∈ tags.map (·.name), name.toList.head? = some 't') :
    (((requiredFields.filter fun e => !filled e.1).map Finding.lacking ++ short ++ email ++
      tags).map (·.name)).Nodup := by
  have hlacking : (((requiredFields.filter fun e => !filled e.1).map Finding.lacking).map
      (·.name)).Nodup := by
    rw [List.map_map]
    exact (List.filter_sublist.map _).nodup (by decide : (requiredFields.map (·.1)).Nodup)
  have hothers : ∀ name ∈ tags.map (·.name), name ≠ "username" ∧ name ≠ "email" ∧
      name ≠ "password" := by
    intro name hname
    have hhead := hstart name hname
    refine ⟨?_, ?_, ?_⟩ <;>
    · rintro rfl
      revert hhead
      decide
  have hshort' : (short.map (·.name)).Nodup ∧ ∀ name ∈ short.map (·.name),
      name = "username" ∧ filled name = true := by
    rcases hshort with rfl | ⟨hfilled, v, rfl⟩
    · simp
    · simpa [Finding.name] using hfilled
  have hemail' : (email.map (·.name)).Nodup ∧ ∀ name ∈ email.map (·.name),
      name = "email" ∧ filled name = true := by
    rcases hemail with rfl | ⟨hfilled, s, rfl⟩
    · simp
    · simpa [Finding.name] using hfilled
  rw [List.map_append, List.map_append, List.map_append]
  refine ((hlacking.append hshort'.1 ?_).append hemail'.1 ?_).append hnodup ?_
  · intro name hname hname'
    cases (mem_lacking hname).2.symm.trans (hshort'.2 name hname').2
  · intro name hname hname'
    obtain ⟨rfl, hfilled⟩ := hemail'.2 name hname'
    rcases List.mem_append.mp hname with hname | hname
    · cases (mem_lacking hname).2.symm.trans hfilled
    · exact absurd (hshort'.2 _ hname).1 (by decide)
  · intro name hname hname'
    obtain ⟨husername, hemail, hpassword⟩ := hothers name hname'
    simp only [List.mem_append] at hname
    rcases hname with (hname | hname) | hname
    · rcases (mem_lacking hname).1 with heq | heq | heq
      · exact husername heq
      · exact hemail heq
      · exact hpassword heq
    · exact husername (hshort'.2 _ hname).1
    · exact hemail (hemail'.2 _ hname).1

theorem exists_dict_of_field {data v : Value} {name : String} {h k : Heap}
    (hv : outcome (field data name) h = (.ok v, k)) : ∃ r, data = .dict r := by
  cases data <;> first | exact ⟨_, rfl⟩ | cases hv

/-- **What the rules find with some answers.** No field is found twice. -/
theorem exists_findings {h k : Heap} {data : Value} {ds : List Descriptor} (hclosed : h.Closed)
    (hdata : data.In fun r : Nat => r < h.cells.size)
    (hds : outcome (validate data) h = (.ok ds, k)) :
    ∃ fs, Reports h fs ds k ∧ (∀ f ∈ fs, f.Known) ∧ (fs.map (·.name)).Nodup := by
  obtain ⟨ds₁, h₁, hmissing, hds⟩ := exists_of_outcome_bind_eq_ok hds
  obtain ⟨v, h₀, hfield, -⟩ := exists_of_outcome_bind_eq_ok hmissing
  obtain ⟨r, rfl⟩ := exists_dict_of_field hfield
  have hr : r < h.cells.size := by
    cases hdata with
    | atom ha => cases ha
    | dict hr => exact hr
  obtain ⟨es, h₁', hes, hlacking⟩ := exists_missing hclosed hr (.refl h) requiredFields
  cases hes.symm.trans hmissing
  obtain ⟨ds₂, h₂, hshort, hds⟩ := exists_of_outcome_bind_eq_ok hds
  obtain ⟨ds₃, h₃, hemail, hds⟩ := exists_of_outcome_bind_eq_ok hds
  obtain ⟨ds₄, h₄, htags, hds⟩ := exists_of_outcome_bind_eq_ok hds
  cases hds
  obtain ⟨short, hreported₂, hshort⟩ :=
    exists_of_shortName hclosed hr hlacking.grown hshort
  obtain ⟨email, hreported₃, hemail⟩ :=
    exists_of_badEmail hclosed hr (hlacking.grown.trans hreported₂.grown) hemail
  obtain ⟨tags, hreported₄, htags⟩ := exists_of_badTags htags
  obtain ⟨hknown, hnodup, hstart⟩ := tags_named htags
  refine ⟨_, ((hlacking.append hreported₂).append hreported₃).append hreported₄, ?_, ?_⟩
  · simp only [List.forall_mem_append]
    refine ⟨⟨⟨?_, ?_⟩, ?_⟩, hknown⟩
    · intro f hf
      obtain ⟨e, he, rfl⟩ := List.mem_map.mp hf
      exact List.mem_of_mem_filter he
    · rcases hshort with rfl | ⟨-, v, rfl⟩ <;> simp [Finding.Known]
    · rcases hemail with rfl | ⟨-, s, rfl⟩ <;> simp [Finding.Known]
  · exact nodup_names hshort hemail hnodup hstart

end Signup

end Wording
