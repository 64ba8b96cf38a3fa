import Wording.Proofs.Pattern.Taken
import Wording.Proofs.Signup.Findings

/-!
# Addresses that the form accepts

The rule for the email looks for a way of its pattern from the beginning of the text. The parts of
an address can stand in the text in more than one way, since a point may stand in the part before
the last one; that there is a way says that it is an address. The last anchor of the pattern holds
before the end of the text and before a line feed at the end too, so that an address with a line
feed behind it is accepted as well.

* `takes_address`: the language of the pattern without its anchors
* `isEmail_iff`: which texts the rule accepts
* `email_accepted_iff`: the answers without an issue with the email
-/

namespace Wording.Signup

open Pattern Text

/-! ## Addresses -/

/-- A text of the form of an address: one at sign, no blank, and behind the last point of the form
two small letters at least. -/
structure IsAddress (cs : List Char) : Prop where
  no_blank : ∀ c ∈ cs, isBlank c = false
  one_at : cs.count '@' = 1
  form : ∃ mailbox host tld : List Char, mailbox ≠ [] ∧ host ≠ [] ∧ 2 ≤ tld.length ∧
    (∀ c ∈ tld, 'a' ≤ c ∧ c ≤ 'z') ∧ cs = mailbox ++ '@' :: (host ++ '.' :: tld)

theorem contains_addressChar (c : Char) :
    addressChar.contains c = true ↔ c ≠ '@' ∧ isBlank c = false := by
  have hat : rangeContains .exact 64 64 c = (c == '@') := rangeContains_self '@' c
  simp [addressChar, CharSet.contains, CharItem.contains, CharClass.contains, hat]

theorem contains_lowerLetter (c : Char) :
    lowerLetter.contains c = true ↔ 'a' ≤ c ∧ c ≤ 'z' := by
  simp [lowerLetter, CharSet.contains, CharItem.contains, rangeContains, Char.le_def,
    UInt32.le_iff_toNat_le]

theorem not_blank_of_lowerLetter {c : Char} (h : 'a' ≤ c ∧ c ≤ 'z') : isBlank c = false := by
  obtain ⟨hlow, hhigh⟩ := h
  have hcode : 97 ≤ c.toNat ∧ c.toNat ≤ 122 := ⟨hlow, hhigh⟩
  simp [isBlank]
  omega

theorem ne_at_of_lowerLetter {c : Char} (h : 'a' ≤ c ∧ c ≤ 'z') : c ≠ '@' := by
  rintro rfl
  exact absurd h.1 (by decide)

/-- The characters that the parts of an address may have. -/
def PartChar (c : Char) : Prop := c ≠ '@' ∧ isBlank c = false

/-- An address by its parts: the at sign is the only one because no part has any. -/
theorem isAddress_iff {cs : List Char} : IsAddress cs ↔
    ∃ mailbox host tld : List Char, mailbox ≠ [] ∧ host ≠ [] ∧ 2 ≤ tld.length ∧
      (∀ c ∈ mailbox, PartChar c) ∧ (∀ c ∈ host, PartChar c) ∧
      (∀ c ∈ tld, 'a' ≤ c ∧ c ≤ 'z') ∧ cs = mailbox ++ '@' :: (host ++ '.' :: tld) := by
  constructor
  · rintro ⟨hblank, hat, mailbox, host, tld, hmailbox, hhost, hlength, htld, rfl⟩
    have hcount : mailbox.count '@' = 0 ∧ host.count '@' = 0 := by
      rw [List.count_append, List.count_cons_self, List.count_append] at hat
      omega
    rw [List.count_eq_zero, List.count_eq_zero] at hcount
    refine ⟨mailbox, host, tld, hmailbox, hhost, hlength, ?_, ?_, htld, rfl⟩
    · intro c hc
      exact ⟨fun h => hcount.1 (h ▸ hc), hblank c (by simp [hc])⟩
    · intro c hc
      exact ⟨fun h => hcount.2 (h ▸ hc), hblank c (by simp [hc])⟩
  · rintro ⟨mailbox, host, tld, hmailbox, hhost, hlength, hm, hh, htld, rfl⟩
    refine ⟨?_, ?_, mailbox, host, tld, hmailbox, hhost, hlength, htld, rfl⟩
    · simp only [List.forall_mem_append, List.forall_mem_cons]
      exact ⟨fun c hc => (hm c hc).2, by decide, fun c hc => (hh c hc).2, by decide,
        fun c hc => not_blank_of_lowerLetter (htld c hc)⟩
    · have hnone {p : List Char} (h : ∀ c ∈ p, c ≠ '@') : p.count '@' = 0 :=
        List.count_eq_zero.mpr fun hp => h '@' hp rfl
      rw [List.count_append, List.count_cons_self, List.count_append,
        List.count_cons_of_ne (by decide), hnone fun c hc => (hm c hc).1,
        hnone fun c hc => (hh c hc).1, hnone fun c hc => ne_at_of_lowerLetter (htld c hc)]

/-! ## The pattern -/

/-- The pattern between its anchors. -/
def addressRegex : List Regex :=
  [.loop 1 none false (.char addressChar), .char (.single '@' .exact),
    .loop 1 none false (.char addressChar), .char (.single '.' .exact),
    .loop 2 none false (.char lowerLetter)]

theorem contains_single (c d : Char) : (CharSet.single c .exact).contains d = true ↔ d = c := by
  have h : rangeContains .exact c.toNat c.toNat d = (d == c) := rangeContains_self c d
  simp [CharSet.single, CharSet.contains, CharItem.contains, h]

theorem takes_single (c : Char) : (Regex.char (.single c .exact)).Takes fun p => p = [c] := by
  refine (Regex.takes_char _).congr fun p => ?_
  simp only [contains_single]
  exact ⟨fun ⟨d, hd, hp⟩ => hd ▸ hp, fun hp => ⟨c, rfl, hp⟩⟩

/-- **The language of the pattern**: the addresses. -/
theorem takes_address : (Regex.ofList addressRegex).Takes IsAddress := by
  have hpart := Regex.takes_loop addressChar 1 false
  have htld := Regex.takes_loop lowerLetter 2 false
  have hsome (p : List Char) : 1 ≤ p.length ↔ p ≠ [] := List.length_pos_iff
  refine (hpart.seq ((takes_single '@').seq (hpart.seq ((takes_single '.').seq htld)))).congr
    fun cs => ?_
  simp only [contains_addressChar, contains_lowerLetter, isAddress_iff, PartChar, hsome]
  constructor
  · rintro ⟨mailbox, ⟨hmailbox, hm⟩, _, ⟨_, rfl, _, ⟨host, ⟨hhost, hh⟩, _,
      ⟨_, rfl, tld, ⟨hlength, htld⟩, rfl⟩, rfl⟩, rfl⟩, rfl⟩
    exact ⟨mailbox, host, tld, hmailbox, hhost, hlength, hm, hh, htld, rfl⟩
  · rintro ⟨mailbox, host, tld, hmailbox, hhost, hlength, hm, hh, htld, rfl⟩
    exact ⟨mailbox, ⟨hmailbox, hm⟩, _, ⟨_, rfl, _, ⟨host, ⟨hhost, hh⟩, _,
      ⟨_, rfl, tld, ⟨hlength, htld⟩, rfl⟩, rfl⟩, rfl⟩, rfl⟩

/-- The last anchor holds at the end, and before a line feed that ends the text. -/
theorem holds_lastLineEnd {text : Array Char} {pos : Nat} (h : pos ≤ text.size) :
    Anchor.lastLineEnd.holds text pos = true ↔
      text.toList.drop pos = [] ∨ text.toList.drop pos = ['\n'] := by
  have hend : text.toList.drop pos = [] ↔ pos = text.size := by
    rw [List.drop_eq_nil_iff, Array.length_toList]
    omega
  have hfeed : text.toList.drop pos = ['\n'] ↔ pos + 1 = text.size ∧ text[pos]? = some '\n' := by
    constructor
    · intro heq
      have hlength := congrArg List.length heq
      rw [List.length_drop, Array.length_toList, List.length_singleton] at hlength
      refine ⟨by omega, ?_⟩
      rw [← Array.getElem?_toList, ← List.head?_drop, heq, List.head?_cons]
    · rintro ⟨hlast, hc⟩
      rw [drop_toList_of_getElem? hc, List.drop_eq_nil_of_le]
      rw [Array.length_toList, hlast]
  simp [Anchor.holds, hend, hfeed]

/-- The way of the pattern that takes a text goes on to the end if the last anchor lets it. -/
theorem exists_way_iff {p rest : List Char} {text : Array Char} (h : text.toList = p ++ rest) :
    (∃ t, t ∈ ((Regex.anchor .lastLineEnd).run text
      ((⟨0, []⟩ : State).advance p.length)).toList) ↔ rest = [] ∨ rest = ['\n'] := by
  have hpos : ((⟨0, []⟩ : State).advance p.length).pos = p.length := Nat.zero_add _
  have hle : p.length ≤ text.size := by
    rw [← Array.length_toList, h, List.length_append]
    exact Nat.le_add_right _ _
  have hholds := holds_lastLineEnd hle
  rw [h, List.drop_left] at hholds
  rw [Regex.toList_anchor, hpos, ← hholds]
  cases Anchor.lastLineEnd.holds text p.length <;> simp

/-- What stands behind an address that is accepted. -/
theorem isEmail_iff_exists (s : String) : isEmail s = true ↔
    ∃ p rest, IsAddress p ∧ s.toList = p ++ rest ∧ (rest = [] ∨ rest = ['\n']) := by
  have hpattern : emailPattern =
      .ofList (.anchor .textStart :: (addressRegex ++ [.anchor .lastLineEnd])) := rfl
  have hstart : Anchor.textStart.holds s.toList.toArray 0 = true := rfl
  rw [isEmail, Regex.isSome_matchAt?, hpattern, toList_ofList_cons, Regex.toList_anchor,
    if_pos hstart, List.flatMap_singleton, Regex.toList_ofList_append]
  simp only [List.mem_flatMap, takes_address s.toList.toArray, List.drop_zero]
  constructor
  · rintro ⟨t, _, ⟨p, hp, ⟨rest, hrest⟩, rfl⟩, ht⟩
    exact ⟨p, rest, hp, hrest.symm, (exists_way_iff hrest.symm).mp ⟨t, ht⟩⟩
  · rintro ⟨p, rest, hp, hs, hend⟩
    have htext : s.toList.toArray.toList = p ++ rest := hs
    obtain ⟨t, ht⟩ := (exists_way_iff htext).mpr hend
    exact ⟨t, _, ⟨p, hp, ⟨rest, hs.symm⟩, rfl⟩, ht⟩

/-- **The texts that the rule accepts**: an address, and an address with a line feed behind it. -/
theorem isEmail_iff (s : String) : isEmail s = true ↔
    IsAddress s.toList ∨ ∃ p, IsAddress p ∧ s.toList = p ++ ['\n'] := by
  rw [isEmail_iff_exists]
  constructor
  · rintro ⟨p, rest, hp, hs, rfl | rfl⟩
    · rw [List.append_nil] at hs
      exact .inl (hs ▸ hp)
    · exact .inr ⟨p, hp, hs⟩
  · rintro (hs | ⟨p, hp, hs⟩)
    · exact ⟨s.toList, [], hs, (List.append_nil _).symm, .inl rfl⟩
    · exact ⟨p, ['\n'], hp, hs, .inr rfl⟩

/-! ## Issues with the email -/

section

variable {h : Heap} {r : Ref} {s : String}

/-- No issue names the email. -/
def Spares (ds : List Descriptor) : Prop := ∀ d ∈ ds, d.name ≠ .str "email"

theorem spares_append {ds es : List Descriptor} : Spares (ds ++ es) ↔ Spares ds ∧ Spares es :=
  List.forall_mem_append

theorem keeps_issue (name type : String) (extra : List (String × Value)) :
    Keeps h.Extends (issue name type extra) fun d => d.name = .str name := by
  intro k hk
  refine ⟨hk.push _, fun d hd => ?_⟩
  cases hd
  rfl

/-- A text that is not filled in is empty. -/
theorem keeps_isFilled (v : Value) :
    Keeps h.Extends (isFilled v) fun filled => filled = false → ∀ s, v = .str s → s = "" := by
  intro k hk
  refine ⟨hk, ?_⟩
  rintro filled hfilled rfl s rfl
  rw [outcome_isFilled, Except.ok.injEq] at hfilled
  simpa [Heap.truthy] using hfilled

/-- An issue with another field, and those behind it. -/
theorem keeps_issue_cons {name type : String} {extra : List (String × Value)}
    {m : Eval (List Descriptor)} (hname : name ≠ "email") (hm : Keeps h.Extends m Spares) :
    Keeps h.Extends (do return [← issue name type extra] ++ (← m)) Spares := by
  refine (keeps_issue name type extra).bind fun d hd => hm.bind fun ds hds => keeps_pure ?_
  rintro d' (_ | ⟨_, hd'⟩)
  · rw [hd, Ne, Value.str.injEq]
    exact hname
  · exact hds d' hd'

theorem keeps_no_issue {m : Eval (List Descriptor)} (hm : Keeps h.Extends m Spares) :
    Keeps h.Extends (do return [] ++ (← m)) Spares :=
  hm.bind fun _ hds => keeps_pure hds

theorem keeps_issue_only {name type : String} {extra : List (String × Value)}
    (hname : name ≠ "email") :
    Keeps h.Extends (do return [← issue name type extra]) Spares :=
  keeps_issue_cons (m := pure []) hname (keeps_pure nofun)

theorem keeps_emptyTags (vs : List Value) (i : Nat) :
    Keeps h.Extends (emptyTags i vs) Spares := by
  induction vs generalizing i with
  | nil => exact keeps_pure nofun
  | cons v vs ih =>
    refine (keeps_isFilled v).bind fun filled _ => ?_
    cases filled with
    | true => exact keeps_no_issue (ih (i + 1))
    | false =>
      refine keeps_issue_cons (fun hname => ?_) (ih (i + 1))
      have hhead := congrArg (·.toList.head?) hname
      simp at hhead

theorem keeps_listed (v : Value) : Keeps h.Extends (listed v) fun _ => True := by
  intro k hk
  refine ⟨?_, fun _ _ => trivial⟩
  rw [listed, Eval.elements, bind_assoc, outcome_get_bind]
  cases k.elements v with
  | error e => exact hk
  | ok vs =>
    show h.Extends (outcome (if Value.maxSize < vs.length then Eval.fail .memory else pure vs) k).2
    split <;> exact hk

variable (hr : r < h.cells.size)
include hr

theorem keeps_field (name : String) :
    Keeps h.Extends (field (.dict r) name) fun v => v = answerTo h r name := by
  intro k hk
  refine ⟨hk, fun v hv => ?_⟩
  rw [outcome_field] at hv
  cases hv
  exact answerTo_extends hk hr name

theorem keeps_shortName : Keeps h.Extends (shortName (.dict r)) Spares := by
  refine (keeps_field hr "username").bind fun v _ => (keeps_isFilled v).bind
    fun filled _ => ?_
  cases filled with
  | false => exact keeps_pure nofun
  | true =>
    refine keeps_get.bind fun k _ => ?_
    cases helperLen k v with
    | error e => exact keeps_throw _
    | ok n =>
      cases n with
      | int n =>
        show Keeps h.Extends (if n < 3 then do
          return [← issue "username" "minString"
            [("label", .str "Username"), ("min", .int 3), ("value", v)]]
          else return []) Spares
        split
        · exact keeps_issue_only (by decide)
        · exact keeps_pure nofun
      | _ =>
        show Keeps h.Extends (pure []) Spares
        exact keeps_pure nofun

theorem keeps_badTags : Keeps h.Extends (badTags (.dict r)) Spares := by
  have hrest (vs : List Value) : Keeps h.Extends (do
      let none ← if vs.isEmpty then
          pure [← issue "tags" "minCount" [("label", .str "Tags"), ("minCount", .int 1)]]
        else pure []
      return none ++ (← emptyTags 0 vs)) Spares := by
    cases vs with
    | nil =>
      show Keeps h.Extends (do return [← issue "tags" "minCount"
        [("label", .str "Tags"), ("minCount", .int 1)]] ++ (← emptyTags 0 [])) Spares
      exact keeps_issue_cons (by decide) (keeps_emptyTags [] 0)
    | cons v vs => exact keeps_no_issue (keeps_emptyTags (v :: vs) 0)
  refine (keeps_field hr "tags").bind fun v _ => (keeps_isFilled v).bind
    fun filled _ => ?_
  cases filled with
  | false => exact hrest []
  | true => exact (keeps_listed v).bind fun vs _ => hrest vs

variable (hemail : answerTo h r "email" = .str s) (hs : s ≠ "")
include hemail hs

/-- The email is filled in. -/
theorem keeps_missing (fields : List (String × String)) :
    Keeps h.Extends (missing (.dict r) fields) Spares := by
  induction fields with
  | nil => exact keeps_pure nofun
  | cons e fields ih =>
    obtain ⟨name, label⟩ := e
    refine (keeps_field hr name).bind fun v hv => (keeps_isFilled v).bind
      fun filled hfilled => ?_
    cases filled with
    | true => exact keeps_no_issue ih
    | false =>
      refine keeps_issue_cons ?_ ih
      rintro rfl
      exact hs (hfilled rfl s (hv.trans hemail))

/-- The rule for the email reports it unless it accepts it. -/
theorem keeps_badEmail :
    Keeps h.Extends (badEmail (.dict r)) fun ds => Spares ds ↔ isEmail s = true := by
  refine (keeps_field hr "email").bind fun v hv => (keeps_isFilled v).bind
    fun filled hfilled => ?_
  rw [hemail] at hv
  have hfull : filled = true := by
    cases filled with
    | true => rfl
    | false => exact absurd (hfilled rfl s hv) hs
  subst hfull hv
  show Keeps h.Extends (if isEmail s then pure []
    else do return [← issue "email" "regEx" [("label", .str "Email"), ("value", .str s)]]) _
  cases hs' : isEmail s with
  | true => exact keeps_pure ⟨fun _ => rfl, fun _ => nofun⟩
  | false =>
    refine (keeps_issue "email" "regEx" _).bind fun d hd => keeps_pure ⟨fun h => ?_, nofun⟩
    exact absurd hd (h d (List.mem_singleton_self d))

/-- **The rules report the email unless it is accepted.** -/
theorem keeps_validate :
    Keeps h.Extends (validate (.dict r)) fun ds => Spares ds ↔ isEmail s = true := by
  refine (keeps_missing hr hemail hs requiredFields).bind fun missing hmissing =>
    (keeps_shortName hr).bind fun short hshort => (keeps_badEmail hr hemail hs).bind
    fun email hfound => (keeps_badTags hr).bind fun tags htags => keeps_pure ?_
  rw [spares_append, spares_append, spares_append, hfound]
  exact ⟨fun h => h.1.2, fun h => ⟨⟨⟨hmissing, hshort⟩, h⟩, htags⟩⟩

end

/-- **An email is accepted exactly if it is an address or an address with one line feed behind
it.** -/
theorem email_accepted_iff {h k : Heap} {r : Ref} {s : String} {ds : List Descriptor}
    (hemail : h.lookup r (.str "email") = some (.str s)) (hs : s ≠ "")
    (hds : outcome (validate (.dict r)) h = (.ok ds, k)) :
    (∀ d ∈ ds, d.name ≠ .str "email") ↔
      IsAddress s.toList ∨ ∃ p, IsAddress p ∧ s.toList = p ++ ['\n'] := by
  have hanswer : answerTo h r "email" = .str s := by rw [answerTo, hemail, Option.getD_some]
  have hr : r < h.cells.size := by
    rw [Heap.lookup, Heap.entries] at hemail
    split at hemail
    · next hcell => exact (Array.getElem?_eq_some_iff.mp hcell).1
    · cases hemail
  have hkeeps := (keeps_validate hr hanswer hs h (.refl h)).2 ds (by rw [hds])
  exact hkeeps.trans (isEmail_iff s)

/-- The answers to a form, the email apart without a fault. -/
def answersWith (email : String) : Heap :=
  ⟨#[.dict [(.str "username", .str "alice"), (.str "email", .str email),
    (.str "password", .str "secret"), (.str "tags", .list 1)], .list #[.str "x"]]⟩

/-- The host may have points too. -/
theorem email_accepted_points :
    outcome (validate (.dict 0)) (answersWith "a.b@c.d.ef") = (.ok [], answersWith "a.b@c.d.ef") ∧
      (IsAddress "a.b@c.d.ef".toList ∨ ∃ p, IsAddress p ∧ "a.b@c.d.ef".toList = p ++ ['\n']) := by
  have hds : outcome (validate (.dict 0)) (answersWith "a.b@c.d.ef") =
      (.ok [], answersWith "a.b@c.d.ef") := rfl
  have hemail : (answersWith "a.b@c.d.ef").lookup 0 (.str "email") = some (.str "a.b@c.d.ef") := rfl
  exact ⟨hds, (email_accepted_iff hemail (by decide) hds).mp (List.forall_mem_nil _)⟩

/-- A text with a line feed at its end is no address, and may be accepted all the same. -/
theorem email_accepted_lineFeed :
    ∃ ds k, outcome (validate (.dict 0)) (answersWith "a@b.cd\n") = (.ok ds, k) ∧
      ¬((∀ d ∈ ds, d.name ≠ .str "email") ↔ IsAddress "a@b.cd\n".toList) := by
  refine ⟨[], answersWith "a@b.cd\n", rfl, fun hiff => ?_⟩
  have haddress : IsAddress "a@b.cd\n".toList := hiff.mp nofun
  exact absurd (haddress.no_blank '\n' (by decide)) (by decide)

end Wording.Signup
