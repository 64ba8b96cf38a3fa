import Mathlib.Data.List.Induction
import Mathlib.Data.List.Nodup
import Wording.Proofs.Outcome
import Wording.Template.Cache

/-!
# What a cache answers

A cache is asked, told and cleared in any order. Whatever has been done, what it gives for a text and
markers is what was kept last under them since it was cleared; it may have given an entry up, but
never the one that came last, and none at all without a limit.

* `CacheKey`: what decides whether two entries are for the same text and markers
* `Call`, `after`: what is done to a cache, and the cache behind it
* `Latest`: what was kept last under a key
* `never_stale`: what a cache gives after any calls, and how many entries it has
-/

namespace Wording

/-! ## Keys -/

/-- A text with the marker of each role: what an entry is found under. -/
structure CacheKey where
  text : String
  escape : Option Pattern.Compiled
  interpolate : Option Pattern.Compiled
  evaluate : Option Pattern.Compiled
  deriving DecidableEq

def CacheKey.of (text : String) (m : Markers) : CacheKey :=
  ⟨text, m.escape, m.interpolate, m.evaluate⟩

def CacheEntry.key (e : CacheEntry) : CacheKey := .of e.text e.markers

/-- An entry is for the texts and markers that have its key. -/
theorem CacheEntry.isFor_eq (e : CacheEntry) (text : String) (m : Markers) :
    e.isFor text m = decide (e.key = .of text m) := by
  rw [Bool.eq_iff_iff, decide_eq_true_iff]
  simp [isFor, Markers.same, Role.all, Markers.get?, key, CacheKey.of]

namespace Cache

/-! ## Entries by key -/

/-- What some entries have under a key. -/
def found (es : List CacheEntry) (k : CacheKey) : Option Template :=
  (es.find? fun e => e.key = k).map (·.template)

def keys (es : List CacheEntry) : List CacheKey := es.map (·.key)

theorem get?_eq_found (c : Cache) (text : String) (m : Markers) :
    c.get? text m = found c.entries (.of text m) := by
  simp only [get?, found, CacheEntry.isFor_eq]

theorem found_nil (k : CacheKey) : found [] k = none := rfl

theorem found_cons (e : CacheEntry) (es : List CacheEntry) (k : CacheKey) :
    found (e :: es) k = if e.key = k then some e.template else found es k := by
  rw [found, List.find?_cons]
  by_cases h : e.key = k <;> simp [h, found]

theorem found_eq_none_iff {es : List CacheEntry} {k : CacheKey} :
    found es k = none ↔ k ∉ keys es := by
  simp [found, keys]

theorem put_cons (new e : CacheEntry) (es : List CacheEntry) :
    put new (e :: es) =
      if e.key = new.key then { e with template := new.template } :: es else e :: put new es := by
  rw [put, CacheEntry.isFor_eq]
  by_cases h : e.key = new.key <;> simp [h, show CacheKey.of new.text new.markers = new.key from rfl]

/-- A new entry is found under its key, and all others are found as before. -/
theorem found_put (new : CacheEntry) (es : List CacheEntry) (k : CacheKey) :
    found (put new es) k = if new.key = k then some new.template else found es k := by
  induction es with
  | nil => rw [put, found_cons]
  | cons e es ih =>
    rw [put_cons]
    by_cases h : e.key = new.key
    · have hkey : CacheEntry.key { e with template := new.template } = new.key := h
      rw [if_pos h, found_cons, hkey, found_cons, h]
      by_cases hk : new.key = k <;> simp [hk]
    · rw [if_neg h, found_cons, ih, found_cons]
      by_cases hk : e.key = k
      · subst hk
        rw [if_pos rfl, if_pos rfl, if_neg (Ne.symm h)]
      · rw [if_neg hk, if_neg hk]

/-- A new entry takes the place of the one with its key, or stands behind all others. -/
theorem keys_put (new : CacheEntry) (es : List CacheEntry) :
    keys (put new es) = if new.key ∈ keys es then keys es else keys es ++ [new.key] := by
  induction es with
  | nil => rfl
  | cons e es ih =>
    rw [put_cons]
    by_cases h : e.key = new.key
    · have hmem : new.key ∈ keys (e :: es) := by simp [keys, h]
      rw [if_pos h, if_pos hmem]
      rfl
    · have hcons : ∀ ds, keys (e :: ds) = e.key :: keys ds := fun _ => rfl
      rw [if_neg h, hcons, ih, hcons]
      simp only [List.mem_cons, Ne.symm h, false_or]
      split <;> rfl

/-- Without the oldest entry nothing is found under its key, and all else as before. -/
theorem found_tail {e : CacheEntry} {es : List CacheEntry} (h : (keys (e :: es)).Nodup)
    (k : CacheKey) : found es k = if e.key = k then none else found (e :: es) k := by
  obtain ⟨hnot, -⟩ := List.nodup_cons.mp h
  rw [found_cons]
  by_cases hk : e.key = k
  · subst hk
    rw [if_pos rfl]
    exact found_eq_none_iff.mpr hnot
  · rw [if_neg hk, if_neg hk]

/-! ## Calls -/

/-- What is done to a cache. -/
inductive Call where
  | get (text : String) (m : Markers)
  | set (text : String) (m : Markers) (t : Template)
  | clear

/-- The key that a call keeps something under. -/
def Call.key? : Call → Option CacheKey
  | .set text m _ => some (.of text m)
  | _ => none

/-- The cache behind a call; asking changes nothing. -/
def act (c : Cache) : Call → Cache
  | .get _ _ => c
  | .set text m t => c.set text m t
  | .clear => c.clear

/-- The cache behind some calls. -/
def after (c : Cache) (calls : List Call) : Cache := calls.foldl act c

theorem after_snoc (c : Cache) (calls : List Call) (call : Call) :
    c.after (calls ++ [call]) = (c.after calls).act call := by
  rw [after, List.foldl_append]
  rfl

/-- The entries that a cache has room beside when it takes another one. -/
def roomy (c : Cache) : List CacheEntry := if c.isFull then c.entries.tail else c.entries

theorem found_set (c : Cache) (text : String) (m : Markers) (t : Template) (k : CacheKey) :
    found (c.set text m t).entries k =
      if CacheKey.of text m = k then some t else found c.roomy k := found_put _ _ _

theorem keys_set (c : Cache) (text : String) (m : Markers) (t : Template) :
    keys (c.set text m t).entries =
      if CacheKey.of text m ∈ keys c.roomy then keys c.roomy
      else keys c.roomy ++ [CacheKey.of text m] := keys_put _ _

theorem limit_act (c : Cache) (call : Call) : (c.act call).limit = c.limit := by
  cases call <;> rfl

theorem limit_after (c : Cache) (calls : List Call) : (c.after calls).limit = c.limit := by
  induction calls using List.reverseRecOn with
  | nil => rfl
  | append_singleton calls call ih => rw [after_snoc, limit_act, ih]

/-! ## No key twice -/

theorem nodup_roomy {c : Cache} (h : (keys c.entries).Nodup) : (keys c.roomy).Nodup := by
  unfold roomy
  split
  · exact h.sublist ((List.tail_sublist _).map _)
  · exact h

theorem nodup_set {c : Cache} (h : (keys c.entries).Nodup) (text : String) (m : Markers)
    (t : Template) : (keys (c.set text m t).entries).Nodup := by
  have hroomy := nodup_roomy h
  rw [keys_set]
  split
  · exact hroomy
  · rename_i hnot
    exact List.concat_eq_append ▸ hroomy.concat hnot

/-- **No two entries of a cache are for the same text and markers.** -/
theorem nodup_after (limit : Option Nat) (calls : List Call) :
    (keys (after ⟨limit, []⟩ calls).entries).Nodup := by
  induction calls using List.reverseRecOn with
  | nil => exact List.nodup_nil
  | append_singleton calls call ih =>
    rw [after_snoc]
    cases call with
    | get => exact ih
    | set text m t => exact nodup_set ih text m t
    | clear => exact List.nodup_nil

/-- Giving up the oldest entry loses what was found under its key only. -/
theorem found_of_roomy {c : Cache} (h : (keys c.entries).Nodup) {k : CacheKey} {t : Template}
    (hk : found c.roomy k = some t) : found c.entries k = some t := by
  unfold roomy at hk
  split at hk
  · cases hes : c.entries with
    | nil => simp [hes, found_nil] at hk
    | cons e es =>
      rw [hes] at h hk
      rw [List.tail_cons, found_tail h] at hk
      split at hk
      · cases hk
      · exact hk
  · exact hk

/-! ## The number of entries -/

theorem length_set_le (c : Cache) (text : String) (m : Markers) (t : Template) :
    (c.set text m t).size ≤ c.roomy.length + 1 := by
  have hlen : (keys (c.set text m t).entries).length ≤ (keys c.roomy).length + 1 := by
    rw [keys_set]
    split
    · exact Nat.le_succ _
    · simp
  simpa [keys, size] using hlen

/-- **A cache with a limit never has more entries.** -/
theorem size_after_le {limit : Nat} (hl : 1 ≤ limit) (calls : List Call) :
    (after ⟨some limit, []⟩ calls).size ≤ limit := by
  induction calls using List.reverseRecOn with
  | nil => exact Nat.zero_le _
  | append_singleton calls call ih =>
    rw [after_snoc]
    have hlimit : (after ⟨some limit, []⟩ calls).limit = some limit := limit_after _ _
    generalize after ⟨some limit, []⟩ calls = c at ih hlimit
    cases call with
    | get => exact ih
    | clear => exact Nat.zero_le _
    | set text m t =>
      have hlen := length_set_le c text m t
      have hfull : c.isFull = decide (limit ≤ c.size) := by rw [isFull, hlimit]; rfl
      rw [roomy, hfull] at hlen
      show (c.set text m t).size ≤ limit
      by_cases h : limit ≤ c.size
      · have htail : c.entries.tail.length = c.size - 1 := List.length_tail
        rw [decide_eq_true h, if_pos rfl, htail] at hlen
        omega
      · have hsize : c.entries.length = c.size := rfl
        rw [decide_eq_false h, if_neg Bool.false_ne_true, hsize] at hlen
        omega

/-! ## What was kept last -/

/-- The last of some calls that kept something under a key kept `t`, and the cache was not cleared
behind it. -/
def Latest (calls : List Call) (k : CacheKey) (t : Template) : Prop :=
  ∃ before text m behind, calls = before ++ .set text m t :: behind ∧ .of text m = k ∧
    ∀ call ∈ behind, call ≠ .clear ∧ call.key? ≠ some k

/-- The last of some calls that did more than ask kept `t` under a key. -/
def Last (calls : List Call) (k : CacheKey) (t : Template) : Prop :=
  ∃ before text m behind, calls = before ++ .set text m t :: behind ∧ .of text m = k ∧
    ∀ call ∈ behind, ∃ text m, call = .get text m

theorem Latest.snoc {calls : List Call} {k : CacheKey} {t : Template} (h : Latest calls k t)
    {call : Call} (hclear : call ≠ .clear) (hkey : call.key? ≠ some k) :
    Latest (calls ++ [call]) k t := by
  obtain ⟨before, text, m, behind, rfl, hk, hbehind⟩ := h
  refine ⟨before, text, m, behind ++ [call], by simp, hk, ?_⟩
  intro call' hmem
  obtain hmem | hmem := List.mem_append.mp hmem
  · exact hbehind call' hmem
  · rw [List.mem_singleton.mp hmem]
    exact ⟨hclear, hkey⟩

theorem latest_set (calls : List Call) (text : String) (m : Markers) (t : Template) :
    Latest (calls ++ [.set text m t]) (.of text m) t :=
  ⟨calls, text, m, [], rfl, rfl, List.forall_mem_nil _⟩

/-- What the last call has to do with what was kept last: it kept it, or has nothing to do with it. -/
theorem of_append_cons {before behind calls : List Call} {call last : Call}
    (h : calls ++ [last] = before ++ call :: behind) :
    (behind = [] ∧ call = last ∧ before = calls) ∨
      ∃ rest, behind = rest ++ [last] ∧ calls = before ++ call :: rest := by
  induction behind using List.reverseRecOn with
  | nil =>
    obtain ⟨rfl, hlast⟩ := List.append_inj' h rfl
    exact .inl ⟨rfl, (List.singleton_inj.mp hlast).symm, rfl⟩
  | append_singleton rest last' _ =>
    rw [← List.cons_append, ← List.append_assoc] at h
    obtain ⟨rfl, hlast⟩ := List.append_inj' h rfl
    exact .inr ⟨rest, by rw [List.singleton_inj.mp hlast], rfl⟩

/-- **What is found is what was kept last.** -/
theorem latest_of_found {limit : Option Nat} {calls : List Call} {k : CacheKey} {t : Template}
    (h : found (after ⟨limit, []⟩ calls).entries k = some t) : Latest calls k t := by
  induction calls using List.reverseRecOn generalizing t with
  | nil => cases h
  | append_singleton calls call ih =>
    rw [after_snoc] at h
    cases call with
    | get text m => exact (ih h).snoc nofun nofun
    | clear => cases h
    | set text m t' =>
      rw [act, found_set] at h
      split at h
      · rename_i hk
        cases h
        subst hk
        exact latest_set calls text m t
      · rename_i hk
        refine (ih (found_of_roomy (nodup_after limit calls) h)).snoc nofun ?_
        exact fun hkey => hk (Option.some.inj hkey)

/-- **What was kept last, with nothing but asking behind it, is found.** -/
theorem found_of_last {limit : Option Nat} {calls : List Call} {k : CacheKey} {t : Template}
    (h : Last calls k t) : found (after ⟨limit, []⟩ calls).entries k = some t := by
  obtain ⟨before, text, m, behind, rfl, rfl, hbehind⟩ := h
  induction behind using List.reverseRecOn with
  | nil => rw [after_snoc, act, found_set, if_pos rfl]
  | append_singleton behind call ih =>
    obtain ⟨text', m', rfl⟩ := hbehind call (by simp)
    rw [← List.cons_append, ← List.append_assoc, after_snoc, act]
    exact ih fun call hmem => hbehind call (by simp [hmem])

/-- **Without a limit all that was kept is found.** -/
theorem found_of_latest {calls : List Call} {k : CacheKey} {t : Template}
    (h : Latest calls k t) : found (after ⟨none, []⟩ calls).entries k = some t := by
  induction calls using List.reverseRecOn with
  | nil =>
    obtain ⟨before, text, m, behind, hnil, -, -⟩ := h
    cases before <;> cases hnil
  | append_singleton calls call ih =>
    obtain ⟨before, text, m, behind, hsplit, hk, hbehind⟩ := h
    rw [after_snoc]
    obtain ⟨rfl, rfl, rfl⟩ | ⟨rest, rfl, rfl⟩ := of_append_cons hsplit
    · rw [act, found_set, if_pos hk]
    · obtain ⟨hclear, hkey⟩ := hbehind call (by simp)
      have hbefore := ih ⟨before, text, m, rest, rfl, hk, fun call hmem =>
        hbehind call (by simp [hmem])⟩
      cases call with
      | get => exact hbefore
      | clear => exact absurd rfl hclear
      | set text' m' t' =>
        have hnone : (after ⟨none, []⟩ (before ++ .set text m t :: rest)).limit = none :=
          limit_after _ _
        have hne : ¬ CacheKey.of text' m' = k := fun h => hkey (congrArg some h)
        rw [act, found_set, if_neg hne, roomy, isFull, hnone]
        exact hbefore

/-- A cache is made without a limit, or with one of at least one entry. -/
theorem ofLimit?_of_le {limit : Option Int} (hl : ∀ n ∈ limit, 1 ≤ n) :
    ofLimit? limit = some ⟨limit.map Int.toNat, []⟩ := by
  cases limit with
  | none => rfl
  | some n =>
    have hn : ¬ n < 1 := Int.not_lt.mpr (hl n rfl)
    rw [ofLimit?, if_neg hn]
    rfl

/--
**A cache never gives anything stale, and keeps to its limit.** A cache can be made without a limit
or with one of at least one entry. Whatever is then done to it, it gives nothing for a text and
markers or what was kept last under them since it was cleared; it gives what was kept last of all;
without a limit it gives all that was kept since it was cleared; and with a limit it never has more
entries than that.
-/
theorem never_stale {limit : Option Int} (hl : ∀ n ∈ limit, 1 ≤ n) :
    ∃ c, ofLimit? limit = some c ∧ ∀ calls : List Call,
      (∀ text m, (c.after calls).get? text m = none ∨
        ∃ t, (c.after calls).get? text m = some t ∧ Latest calls (.of text m) t) ∧
      (∀ text m t, Last calls (.of text m) t → (c.after calls).get? text m = some t) ∧
      (limit = none → ∀ text m t, Latest calls (.of text m) t →
        (c.after calls).get? text m = some t) ∧
      ∀ n ∈ limit, ((c.after calls).size : Int) ≤ n := by
  refine ⟨_, ofLimit?_of_le hl, fun calls =>
    ⟨fun text m => ?_, fun text m t h => ?_, fun hnone text m t h => ?_, fun n hn => ?_⟩⟩
  · rw [get?_eq_found]
    cases hfound : found (after ⟨limit.map Int.toNat, []⟩ calls).entries (.of text m) with
    | none => exact .inl rfl
    | some t => exact .inr ⟨t, rfl, latest_of_found hfound⟩
  · rw [get?_eq_found]
    exact found_of_last h
  · subst hnone
    rw [get?_eq_found]
    exact found_of_latest h
  · obtain rfl := Option.mem_def.mp hn
    have hpos : 1 ≤ n := hl n hn
    have hsize := size_after_le (show 1 ≤ n.toNat by omega) calls
    rw [Option.map_some]
    omega

/-- Markers of no role, which go together. -/
theorem exists_noMarkers : ∃ m, Markers.ofOffers .absent .absent .absent = .ok m :=
  exists_eq_ok (by decide +kernel)

/-- Three texts in a cache for two: the first is overwritten, and given up before the third comes. -/
theorem never_stale_threeTexts :
    ∃ m c, Markers.ofOffers .absent .absent .absent = .ok m ∧ ofLimit? (some 2) = some c ∧
      (∀ n ∈ (some 2 : Option Int), 1 ≤ n) ∧
      ((c.after [.set "a" m ⟨"a", m, []⟩, .set "a" m ⟨"A", m, []⟩, .set "b" m ⟨"b", m, []⟩,
        .set "c" m ⟨"c", m, []⟩, .get "a" m]).get? "c" m = some ⟨"c", m, []⟩) := by
  obtain ⟨m, hm⟩ := exists_noMarkers
  have hl : ∀ n ∈ (some 2 : Option Int), 1 ≤ n := by simp
  obtain ⟨c, hc, hcalls⟩ := never_stale hl
  refine ⟨m, c, hm, hc, hl, (hcalls _).2.1 "c" m _ ?_⟩
  refine ⟨[.set "a" m ⟨"a", m, []⟩, .set "a" m ⟨"A", m, []⟩, .set "b" m ⟨"b", m, []⟩], "c", m,
    [.get "a" m], rfl, rfl, fun call hmem => ⟨"a", m, List.mem_singleton.mp hmem⟩⟩

end Cache

end Wording
