import Mathlib.Logic.Function.Basic
import Wording.Proofs.Cache.Latest

/-!
# First in, first out

What a cache with a limit is meant to be: a map with room for so many keys, which gives up the key
that came first when a new key finds it full, and nothing when a key is there already.

A cache is that map as long as nothing is kept under a key that a full cache has already
(`first_in_first_out`). Such a call needs no room, but the cache gives up its oldest entry before it
looks whether the key is there (`found_set_of_full`, `overwrite_gives_up_oldest`).
-/

namespace Wording

/-! ## The map -/

/-- A map with room for a number of keys. -/
structure Shelf where
  room : Nat
  /-- The keys in the order in which they came. -/
  keys : List CacheKey
  found : CacheKey → Option Template

namespace Shelf

def empty (room : Nat) : Shelf := ⟨room, [], fun _ => none⟩

/-- Keeps another template under a key that is there. -/
def replace (s : Shelf) (k : CacheKey) (t : Template) : Shelf :=
  { s with found := Function.update s.found k (some t) }

/-- Takes a key that is not there. -/
def insert (s : Shelf) (k : CacheKey) (t : Template) : Shelf :=
  { s with keys := s.keys ++ [k], found := Function.update s.found k (some t) }

/-- Gives up the key that came first. -/
def dropFirst (s : Shelf) : Shelf :=
  match s.keys with
  | [] => s
  | k :: ks => { s with keys := ks, found := Function.update s.found k none }

/-- Keeps a template under a key. Only a new key needs room. -/
def set (s : Shelf) (k : CacheKey) (t : Template) : Shelf :=
  if k ∈ s.keys then s.replace k t
  else if s.room ≤ s.keys.length then s.dropFirst.insert k t
  else s.insert k t

def act (s : Shelf) : Cache.Call → Shelf
  | .get _ _ => s
  | .set text m t => s.set (.of text m) t
  | .clear => empty s.room

def after (s : Shelf) (calls : List Cache.Call) : Shelf := calls.foldl act s

theorem after_snoc (s : Shelf) (calls : List Cache.Call) (call : Cache.Call) :
    s.after (calls ++ [call]) = (s.after calls).act call := by
  rw [after, List.foldl_append]
  rfl

end Shelf

namespace Cache

/-! ## Calls that need no room -/

/-- A call that keeps something under a key which a full cache has already. -/
def Call.Overwrites (c : Cache) : Call → Prop
  | .set text m _ => c.isFull = true ∧ c.get? text m ≠ none
  | _ => False

/-- What a cache that is not full keeps costs no entry. -/
theorem found_set_of_room {c : Cache} (h : c.isFull = false) (text : String) (m : Markers)
    (t : Template) (k : CacheKey) :
    found (c.set text m t).entries k =
      if CacheKey.of text m = k then some t else found c.entries k := by
  rw [found_set, roomy, h, if_neg Bool.false_ne_true]

/-- What a full cache keeps costs it the oldest entry, also if the key is there already. -/
theorem found_set_of_full {c : Cache} {e : CacheEntry} {es : List CacheEntry}
    (hes : c.entries = e :: es) (hnodup : (keys c.entries).Nodup) (h : c.isFull = true)
    (text : String) (m : Markers) (t : Template) (k : CacheKey) :
    found (c.set text m t).entries k =
      if CacheKey.of text m = k then some t
      else if e.key = k then none else found c.entries k := by
  rw [hes] at hnodup
  rw [found_set, roomy, h, if_pos rfl, hes, List.tail_cons, found_tail hnodup]

/-- **Unless a call overwrites in a full cache, an entry is lost only when the cache is cleared or
when a full cache takes a new key.** -/
theorem of_lost {c : Cache} {call : Call} (hspare : ¬ call.Overwrites c) {text : String}
    {m : Markers} (hbefore : c.get? text m ≠ none) (hlost : (c.act call).get? text m = none) :
    call = .clear ∨
      ∃ text' m' t, call = .set text' m' t ∧ c.isFull = true ∧ c.get? text' m' = none := by
  cases call with
  | get => exact absurd hlost hbefore
  | clear => exact .inl rfl
  | set text' m' t =>
    right
    have hfull : c.isFull = true := by
      by_contra hroom
      rw [get?_eq_found, act, found_set_of_room (Bool.not_eq_true _ ▸ hroom)] at hlost
      split at hlost
      · cases hlost
      · exact hbefore (by rw [get?_eq_found, hlost])
    refine ⟨text', m', t, rfl, hfull, ?_⟩
    by_contra hfound
    exact hspare ⟨hfull, hfound⟩

/-! ## A cache as the map -/

/-- A cache and a map have the same room and, in the same order, the same keys with the same
templates. -/
structure Matches (c : Cache) (s : Shelf) : Prop where
  room : c.limit = some s.room
  keys : keys c.entries = s.keys
  found : ∀ k, found c.entries k = s.found k

theorem matches_empty (room : Nat) : Matches ⟨some room, []⟩ (.empty room) := ⟨rfl, rfl, fun _ => rfl⟩

variable {c : Cache} {s : Shelf}

theorem Matches.mem_keys (h : Matches c s) {text : String} {m : Markers} :
    CacheKey.of text m ∈ s.keys ↔ c.get? text m ≠ none := by
  rw [get?_eq_found, Ne, found_eq_none_iff, not_not, h.keys]

theorem Matches.isFull (h : Matches c s) : c.isFull = decide (s.room ≤ s.keys.length) := by
  rw [Cache.isFull, h.room, ← h.keys, Cache.keys, List.length_map]
  rfl

/-- The cache without its oldest entry, and the map without the key that came first. -/
theorem Matches.dropFirst (h : Matches c s) (hnodup : (Cache.keys c.entries).Nodup) :
    Matches { c with entries := c.entries.tail } s.dropFirst := by
  have hkeys := h.keys
  cases hes : c.entries with
  | nil =>
    rw [hes] at hkeys
    have hsame : s.dropFirst = s := by
      rw [Shelf.dropFirst, ← hkeys]
      rfl
    rw [hsame]
    have hfound := h.found
    rw [hes] at hfound
    exact ⟨h.room, hkeys, hfound⟩
  | cons e es =>
    rw [hes] at hkeys hnodup
    rw [Shelf.dropFirst, ← hkeys]
    refine ⟨h.room, rfl, fun k => ?_⟩
    show Cache.found es k = Function.update s.found e.key none k
    rw [found_tail hnodup, ← hes, h.found, Function.update_apply]
    simp only [eq_comm]

theorem Matches.insert (h : Matches c s) {text : String} {m : Markers} (t : Template)
    (hnew : CacheKey.of text m ∉ s.keys) :
    Matches { c with entries := put ⟨text, m, t⟩ c.entries } (s.insert (.of text m) t) := by
  refine ⟨h.room, ?_, fun k => ?_⟩
  · show Cache.keys (put ⟨text, m, t⟩ c.entries) = s.keys ++ [.of text m]
    rw [keys_put, h.keys]
    exact if_neg hnew
  · show Cache.found (put ⟨text, m, t⟩ c.entries) k = Function.update s.found _ _ k
    rw [found_put, h.found, Function.update_apply]
    simp only [eq_comm]
    rfl

theorem Matches.replace (h : Matches c s) {text : String} {m : Markers} (t : Template)
    (hold : CacheKey.of text m ∈ s.keys) :
    Matches { c with entries := put ⟨text, m, t⟩ c.entries } (s.replace (.of text m) t) := by
  refine ⟨h.room, ?_, fun k => ?_⟩
  · show Cache.keys (put ⟨text, m, t⟩ c.entries) = s.keys
    rw [keys_put, h.keys]
    exact if_pos hold
  · show Cache.found (put ⟨text, m, t⟩ c.entries) k = Function.update s.found _ _ k
    rw [found_put, h.found, Function.update_apply]
    simp only [eq_comm]
    rfl

/-- **A call that does not overwrite in a full cache does to the cache what it does to the map.** -/
theorem Matches.act (h : Matches c s) (hnodup : (Cache.keys c.entries).Nodup) {call : Call}
    (hspare : ¬ call.Overwrites c) : Matches (c.act call) (s.act call) := by
  cases call with
  | get => exact h
  | clear => exact ⟨h.room, rfl, fun _ => rfl⟩
  | set text m t =>
    have hfull := h.isFull
    rw [Cache.act, Cache.set, Shelf.act, Shelf.set]
    by_cases hmem : CacheKey.of text m ∈ s.keys
    · -- The key is there, so the cache is not full.
      have hroom : c.isFull = false := by
        rw [← Bool.not_eq_true]
        exact fun hf => hspare ⟨hf, h.mem_keys.mp hmem⟩
      rw [hroom, if_neg Bool.false_ne_true, if_pos hmem]
      exact h.replace t hmem
    · rw [if_neg hmem]
      by_cases hle : s.room ≤ s.keys.length
      · rw [hfull, decide_eq_true hle, if_pos rfl, if_pos hle]
        refine (h.dropFirst hnodup).insert t fun hdrop => hmem ?_
        unfold Shelf.dropFirst at hdrop
        split at hdrop
        · exact hdrop
        · rename_i k ks hks
          rw [hks]
          exact List.mem_cons_of_mem k hdrop
      · rw [hfull, decide_eq_false hle, if_neg Bool.false_ne_true, if_neg hle]
        exact h.insert t hmem

/-- Calls of which none overwrites in a full cache. -/
def Spares (c : Cache) (calls : List Call) : Prop :=
  ∀ before call behind, calls = before ++ call :: behind → ¬ call.Overwrites (c.after before)

theorem spares_nil (c : Cache) : c.Spares [] := by
  intro before call behind hsplit
  cases before <;> cases hsplit

theorem Spares.cons {call : Call} {calls : List Call} (hcall : ¬ call.Overwrites c)
    (h : (c.act call).Spares calls) : c.Spares (call :: calls) := by
  intro before call' behind hsplit
  cases before with
  | nil =>
    cases hsplit
    exact hcall
  | cons first before =>
    obtain ⟨rfl, rfl⟩ := List.cons.inj hsplit
    exact h before call' behind rfl

theorem Spares.of_snoc {calls : List Call} {call : Call} (h : c.Spares (calls ++ [call])) :
    c.Spares calls ∧ ¬ call.Overwrites (c.after calls) := by
  refine ⟨fun before call' behind hsplit => ?_, h calls call [] rfl⟩
  exact h before call' (behind ++ [call]) (by rw [hsplit, List.append_assoc, List.cons_append])

theorem matches_after {room : Nat} {calls : List Call} (h : Spares ⟨some room, []⟩ calls) :
    Matches (after ⟨some room, []⟩ calls) ((Shelf.empty room).after calls) := by
  induction calls using List.reverseRecOn with
  | nil => exact matches_empty room
  | append_singleton calls call ih =>
    obtain ⟨hbefore, hcall⟩ := h.of_snoc
    rw [after_snoc, Shelf.after_snoc]
    exact (ih hbefore).act (nodup_after _ _) hcall

/--
**A cache with a limit is first in, first out.** A cache with a limit of at least one entry has after
any calls, of which none overwrites an entry of a full cache, the keys and the templates of the map
with so much room, in the order in which they came. None of these calls loses an entry but one that
clears the cache or brings a new key to a full one.
-/
theorem first_in_first_out {limit : Int} (hl : 1 ≤ limit) :
    ∃ c, ofLimit? (some limit) = some c ∧ ∀ calls, c.Spares calls →
      (∀ text m, (c.after calls).get? text m =
        ((Shelf.empty limit.toNat).after calls).found (.of text m)) ∧
      keys (c.after calls).entries = ((Shelf.empty limit.toNat).after calls).keys ∧
      ∀ before call behind, calls = before ++ call :: behind → ∀ text m,
        (c.after before).get? text m ≠ none → (c.after (before ++ [call])).get? text m = none →
        call = .clear ∨ ∃ text' m' t, call = .set text' m' t ∧
          (c.after before).isFull = true ∧ (c.after before).get? text' m' = none := by
  have hlimit : ∀ n ∈ some limit, 1 ≤ n := fun n hn => Option.mem_some_iff.mp hn ▸ hl
  refine ⟨_, ofLimit?_of_le hlimit, fun calls hspares => ?_⟩
  have hmatches : Matches (after ⟨some limit.toNat, []⟩ calls) _ := matches_after hspares
  refine ⟨fun text m => ?_, hmatches.keys, ?_⟩
  · rw [get?_eq_found]
    exact hmatches.found _
  · intro before call behind hsplit text m hbefore hlost
    rw [after_snoc] at hlost
    exact of_lost (hspares before call behind hsplit) hbefore hlost

/-- A text that is overwritten before the cache is full, and two more. -/
def threeTexts (m : Markers) : List Call :=
  [.set "a" m ⟨"a", m, []⟩, .set "a" m ⟨"A", m, []⟩, .set "b" m ⟨"b", m, []⟩,
    .set "c" m ⟨"c", m, []⟩]

theorem first_in_first_out_threeTexts :
    ∃ m c, Markers.ofOffers .absent .absent .absent = .ok m ∧ ofLimit? (some 2) = some c ∧
      (1 : Int) ≤ 2 ∧ c.Spares (threeTexts m) ∧
      keys (c.after (threeTexts m)).entries = [.of "b" m, .of "c" m] := by
  obtain ⟨m, hm⟩ := exists_noMarkers
  obtain ⟨c, hc, hcalls⟩ := first_in_first_out (show (1 : Int) ≤ 2 by decide)
  have hspares : c.Spares (threeTexts m) := by
    cases hc
    refine .cons ?_ (.cons ?_ (.cons ?_ (.cons ?_ (spares_nil _)))) <;>
      simp [Call.Overwrites, get?_eq_found, act, Cache.set, put_cons, put, isFull, size, found_cons,
        found_nil, CacheEntry.key, CacheKey.of]
  refine ⟨m, c, hm, hc, by decide, hspares, ?_⟩
  rw [(hcalls _ hspares).2.1]
  simp [threeTexts, Shelf.after, Shelf.act, Shelf.set, Shelf.empty, Shelf.insert, Shelf.replace,
    Shelf.dropFirst, CacheKey.of]

/-- **A full cache gives up its oldest entry for a text that it has already.** -/
theorem overwrite_gives_up_oldest :
    ∃ m c, Markers.ofOffers .absent .absent .absent = .ok m ∧ ofLimit? (some 2) = some c ∧
      (c.after [.set "a" m ⟨"a", m, []⟩, .set "b" m ⟨"b", m, []⟩,
        .set "b" m ⟨"b", m, []⟩]).get? "a" m = none ∧
      ((Shelf.empty 2).after [.set "a" m ⟨"a", m, []⟩, .set "b" m ⟨"b", m, []⟩,
        .set "b" m ⟨"b", m, []⟩]).found (.of "a" m) = some ⟨"a", m, []⟩ := by
  obtain ⟨m, hm⟩ := exists_noMarkers
  refine ⟨m, _, hm, rfl, ?_, ?_⟩
  · simp [after, act, Cache.set, put_cons, put, isFull, size, get?_eq_found, found_cons, found_nil,
      CacheEntry.key, CacheKey.of]
  · simp [Shelf.after, Shelf.act, Shelf.set, Shelf.empty, Shelf.insert, Shelf.replace,
      CacheKey.of]

end Cache

end Wording
