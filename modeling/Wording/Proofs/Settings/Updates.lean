import Wording.Proofs.Catalog.Paths
import Wording.Proofs.Settings.Runs

/-!
# Updates of the shared messages

Calls that give messages to the defaults merge them in, one after the other. Where the messages of
different calls nowhere contradict each other, the order of the calls does not matter, and no call
loses what another one has brought.

* `Room.brings_update`: one update
* `Room.plays_updates`: updates in turn
* `updates_in_any_order`: updates that are compatible
-/

namespace Wording

/-- A call that gives the defaults messages, and the catalog that is read from them. -/
structure Update where
  heap : Heap
  messages : Value
  catalog : Catalog
  read : Catalog.ofSource heap messages = .ok catalog
  distinct : catalog.Distinct

namespace Update

def change (u : Update) : DefaultsChange := { DefaultsChange.none with messages := u.messages }

/-- The step of a session that makes the call. -/
def step (u : Update) : Heap × Step := (u.heap, .applyDefaults u.change none)

/-- An update merges its catalog into the messages of the defaults, and does nothing else. -/
theorem exists_apply (u : Update) {d : Defaults} (hd : d.messages.Clean) :
    ∃ changed, d.apply u.heap u.change =
      .ok ({ d with messages := Catalog.merge d.messages u.catalog }, changed) := by
  by_cases ht : u.heap.truthy u.messages = true
  · have hmessages : u.change.messages? u.heap = .ok (some u.catalog) := by
      have hread := u.read
      rw [DefaultsChange.messages?, change, if_pos ht, hread]
    refine ⟨["messages"], ?_⟩
    have happly : d.apply u.heap u.change = .ok
        ({ d with messages := Catalog.mergeAll [] [d.messages, u.catalog] }, ["messages"]) := by
      rw [Defaults.apply, hmessages]
      rfl
    rw [happly, Catalog.mergeAll, List.foldl_cons, Catalog.merge_nil hd]
    rfl
  · have hmessages : u.change.messages? u.heap = .ok none := by
      rw [DefaultsChange.messages?, change, if_neg ht]
    have hcatalog : u.catalog = [] := by
      have hread := u.read
      rw [Catalog.ofSource, if_neg ht] at hread
      exact (Except.ok.inj hread).symm
    refine ⟨[], ?_⟩
    rw [Defaults.apply, hmessages, hcatalog, Catalog.merge]
    rfl

end Update

/-! ## Sessions of updates -/

namespace Room

/-- **An update does not fail, and merges its catalog into the messages of the defaults.** -/
theorem brings_update {room : Room} (hroom : room.world.defaults.messages.Clean) (u : Update) :
    (room.setHeap u.heap).Brings u.step.2
      { room.world.defaults with
        messages := Catalog.merge room.world.defaults.messages u.catalog } := by
  obtain ⟨changed, happly⟩ := u.exists_apply hroom
  have hchanged : (room.setHeap u.heap).world.defaults.apply (room.setHeap u.heap).world.heap _ =
    .ok _ := happly
  exact brings_of_apply hchanged none

/-- **Updates in turn merge their catalogs in turn.** -/
theorem plays_updates {room : Room} (hroom : Played room) (updates : List Update) :
    Played (room.plays (updates.map Update.step)) ∧
      (room.plays (updates.map Update.step)).world.defaults =
        { room.world.defaults with
          messages := (updates.map (·.catalog)).foldl Catalog.merge room.world.defaults.messages } := by
  induction updates generalizing room with
  | nil => exact ⟨hroom, rfl⟩
  | cons u updates ih =>
    have hbrings := brings_update (sound_of_played hroom).shared u
    obtain ⟨hplayed, hdefaults⟩ := ih (hroom.after u.heap u.step.2)
    refine ⟨hplayed, hdefaults.trans ?_⟩
    rw [hbrings.defaults]
    rfl

end Room

/-- **Updates that are compatible may come in any order, and none is lost.** All of them are made; in
any order they leave the same messages up to the order of keys. If they are compatible with the
messages that were there before, too, then each value of each update, and each value that was there,
lies at its path in the end. -/
theorem updates_in_any_order {room : Room} (hroom : Played room) {updates other : List Update}
    (hperm : updates.Perm other)
    (h : ∀ u ∈ updates, ∀ v ∈ updates, u.catalog.Compatible v.catalog) :
    (∀ before u behind, other = before ++ u :: behind →
      ((((room.plays (before.map Update.step)).setHeap u.heap).report u.step.2).result.isOk)) ∧
    (room.plays (updates.map Update.step)).world.defaults.messages.SameUpToOrder
      (room.plays (other.map Update.step)).world.defaults.messages ∧
    ((∀ u ∈ updates, room.world.defaults.messages.Compatible u.catalog) →
      ∀ path v,
        (∃ u ∈ updates, u.catalog.at? path = some (.scalar v)) ∨
          room.world.defaults.messages.at? path = some (.scalar v) →
        (room.plays (other.map Update.step)).world.defaults.messages.at? path =
          some (.scalar v)) := by
  have hdistinct (us : List Update) : ∀ c ∈ us.map (·.catalog), c.Distinct := by
    intro c hc
    obtain ⟨u, -, rfl⟩ := List.mem_map.mp hc
    exact u.distinct
  have hcompatible (us : List Update) (hus : ∀ u ∈ us, u ∈ updates) :
      ∀ c ∈ us.map (·.catalog), ∀ d ∈ us.map (·.catalog), c.Compatible d := by
    intro c hc d hd
    obtain ⟨u, hu, rfl⟩ := List.mem_map.mp hc
    obtain ⟨v, hv, rfl⟩ := List.mem_map.mp hd
    exact h u (hus u hu) v (hus v hv)
  have hother : ∀ u ∈ other, u ∈ updates := fun u hu => hperm.mem_iff.mpr hu
  refine ⟨fun before u behind _ => ?_, ?_, ?_⟩
  · obtain ⟨hplayed, -⟩ := Room.plays_updates hroom before
    obtain ⟨heap, v, hshown⟩ := (Room.brings_update (sound_of_played hplayed).shared u).shown
    rw [hshown]
    rfl
  · rw [(Room.plays_updates hroom updates).2, (Room.plays_updates hroom other).2]
    exact Catalog.sameUpToOrder_of_perm (hperm.map _) (hdistinct updates)
      (hcompatible updates fun _ => id) _
  · intro htarget path v hv
    rw [(Room.plays_updates hroom other).2]
    obtain ⟨u, hu, hx⟩ | hx := hv
    · exact Catalog.at?_of_mem (hdistinct other) (hcompatible other hother) _
        (List.mem_map_of_mem (hperm.mem_iff.mp hu)) hx
    · refine Catalog.at?_of_target (hdistinct other) (hcompatible other hother) ?_ hx
      intro c hc
      obtain ⟨u, hu, rfl⟩ := List.mem_map.mp hc
      exact htarget u (hother u hu)

/-! ### Two updates -/

/-- What is said of one kind of error in English. -/
def inEnglish (kind text : String) : Catalog := [(.str "en", .node [(.str kind, .leaf (.str text))])]

theorem distinct_inEnglish (kind text : String) : (inEnglish kind text).Distinct :=
  ⟨⟨trivial, nofun, trivial⟩, nofun, trivial⟩

/-- Texts for different kinds of errors do not contradict each other. -/
theorem compatible_inEnglish {kind kind' : String}
    (h : (Value.str kind).keyEq (.str kind') = false) (text text' : String) :
    (inEnglish kind text).Compatible (inEnglish kind' text') :=
  (Catalog.compatible_of_keyEq_eq_false h _ _).nested (.str "en")

/-- The update that says it. -/
def updateInEnglish (kind text : String) : Update where
  heap := ⟨#[.dict [(.str "en", .dict 1)], .dict [(.str kind, .str text)]]⟩
  messages := .dict 0
  catalog := inEnglish kind text
  read := rfl
  distinct := distinct_inEnglish kind text

/-- Two updates say something of two kinds of errors, and both are there in the end. -/
theorem updates_requiredAndEmail :
    let messages := ((Room.start ⟨9, 99⟩).plays
      [(updateInEnglish "email" "Give an address").step,
        (updateInEnglish "required" "Give a value").step]).world.defaults.messages
    messages.at? [.str "en", .str "required"] = some (.scalar (.str "Give a value")) ∧
      messages.at? [.str "en", .str "email"] = some (.scalar (.str "Give an address")) := by
  have hcompatible := compatible_inEnglish
    (show (Value.str "required").keyEq (.str "email") = false by decide)
    "Give a value" "Give an address"
  have hall : ∀ u ∈ [updateInEnglish "required" "Give a value",
      updateInEnglish "email" "Give an address"],
      ∀ v ∈ [updateInEnglish "required" "Give a value",
        updateInEnglish "email" "Give an address"], u.catalog.Compatible v.catalog := by
    simp only [List.forall_mem_cons, List.not_mem_nil, false_implies, implies_true, and_true]
    exact ⟨⟨.refl _, hcompatible⟩, hcompatible.symm, .refl _⟩
  obtain ⟨-, -, hkept⟩ := updates_in_any_order (.start ⟨9, 99⟩) (.swap _ _ []) hall
  have hlies := hkept fun _ _ => Catalog.compatible_empty _
  constructor
  · exact hlies _ _ (.inl ⟨_, List.mem_cons_self .., rfl⟩)
  · exact hlies _ _ (.inl ⟨_, List.mem_cons_of_mem _ (List.mem_cons_self ..), rfl⟩)

end Wording
