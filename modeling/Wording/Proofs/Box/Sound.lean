import Wording.Proofs.Box.Invariant

/-!
# Worlds that steps lead to

Only boxes write to caches, the markers of a box are put together when it is made, and catalogs come
out of merging. So the worlds that steps lead to are all sound (`World.Sound`), whatever the steps
are and whether they fail or not, and what boxes answer may be said of sound worlds alone.

* `World.invariant_sound`: soundness is an invariant
* `World.invariant_sound_and`: so is what goes with it while nobody changes the defaults
* `sound_of_played`: all worlds that steps lead to are sound
-/

namespace Wording

/-- A world of sound boxes, over merged defaults, with caches that hold compiled templates. -/
structure World.Sound (w : World) : Prop where
  compiled : w.CachesCompiled
  boxes : ∀ b ∈ w.boxes, b.Sound
  shared : w.defaults.messages.Clean

theorem World.sound_start (b : Bounds) : (start b).Sound where
  compiled := by simp [start, CachesCompiled]
  boxes := by simp [start]
  shared := trivial

theorem World.invariant_sound : Invariant Sound fun _ b => b.Sound where
  compiled := fun h => h.compiled
  shared := fun h => h.shared
  box := fun h hb => h.boxes _ (Array.mem_of_getElem? hb)
  sound := id
  tracker := fun h _ _ => ⟨h.combined, h.clean⟩
  heap := fun h _ => ⟨h.compiled, h.boxes, h.shared⟩
  caches := fun h _ hcs => ⟨hcs, h.boxes, h.shared⟩
  graph := fun h _ => ⟨h.compiled, h.boxes, h.shared⟩
  log := fun h _ => ⟨h.compiled, h.boxes, h.shared⟩
  events := fun h _ => ⟨h.compiled, h.boxes, h.shared⟩
  setBox := fun h id _ hb => ⟨h.compiled, forall_mem_setIfInBounds h.boxes hb id, h.shared⟩
  pushBox := fun h _ hb => ⟨h.compiled, Array.forall_mem_push.mpr ⟨hb, h.boxes⟩, h.shared⟩
  free := fun _ _ hb => hb

/-- What is true while the defaults stay and boxes only get more stays true beside soundness. -/
theorem World.invariant_sound_and {Q : World → Prop}
    (hQ : ∀ {w w' : World}, Q w → w'.defaults = w.defaults → w.boxes.size ≤ w'.boxes.size → Q w') :
    Invariant (fun w => w.Sound ∧ Q w) fun _ b => b.Sound where
  compiled := fun h => h.1.compiled
  shared := fun h => h.1.shared
  box := fun h hb => invariant_sound.box h.1 hb
  sound := id
  tracker := fun h _ _ => ⟨h.combined, h.clean⟩
  heap := fun h k => ⟨invariant_sound.heap h.1 k, hQ h.2 rfl (Nat.le_refl _)⟩
  caches := fun h _ hcs => ⟨invariant_sound.caches h.1 hcs, hQ h.2 rfl (Nat.le_refl _)⟩
  graph := fun h g => ⟨invariant_sound.graph h.1 g, hQ h.2 rfl (Nat.le_refl _)⟩
  log := fun h l => ⟨invariant_sound.log h.1 l, hQ h.2 rfl (Nat.le_refl _)⟩
  events := fun h e => ⟨invariant_sound.events h.1 e, hQ h.2 rfl (Nat.le_refl _)⟩
  setBox := fun h id _ hb =>
    ⟨invariant_sound.setBox h.1 id hb, hQ h.2 rfl (Nat.le_of_eq Array.size_setIfInBounds.symm)⟩
  pushBox := fun h b hb => ⟨invariant_sound.pushBox h.1 hb, hQ h.2 rfl <| by
    rw [Array.size_push]
    exact Nat.le_succ _⟩
  free := fun _ _ hb => hb

/-! ## Changes of the defaults -/

/-- A change of the defaults merges its messages over those that were there. -/
theorem Defaults.clean_apply {h : Heap} {d : Defaults} {c : DefaultsChange}
    {r : Defaults × List String} (hd : d.messages.Clean) (hr : d.apply h c = .ok r) :
    r.1.messages.Clean := by
  obtain ⟨_, _, hr⟩ := exists_of_bind_eq_ok hr
  obtain ⟨_, _, hr⟩ := exists_of_bind_eq_ok hr
  obtain ⟨_, _, hr⟩ := exists_of_bind_eq_ok hr
  obtain ⟨_, _, hr⟩ := exists_of_bind_eq_ok hr
  obtain ⟨messages, _, hr⟩ := exists_of_bind_eq_ok hr
  cases hr
  cases messages with
  | none => exact hd
  | some source => exact Catalog.clean_mergeAll [d.messages, source]

theorem DefaultsChange.respects_sound (c : DefaultsChange) : c.Respects World.Sound :=
  fun _ _ _ hw hw' hr => ⟨hw'.compiled, hw'.boxes, Defaults.clean_apply hw.shared hr⟩

/-- No step does harm to soundness. -/
theorem Step.respects_sound (s : Step) (room : Room) :
    s.Respects World.Sound (fun _ b => b.Sound) (fun room => room.world.Sound) room := by
  cases s with
  | applyDefaults c snapshot => exact ⟨c.respects_sound, fun _ _ _ _ h => h⟩
  | applyEnvironment start environ => exact fun _ c _ _ => c.respects_sound
  | resetDefaults => exact fun _ hw => ⟨hw.compiled, hw.boxes, trivial⟩
  | addMessages name messages => exact fun _ _ _ _ hb hm => ⟨hb.combined, hm⟩
  | setLanguage name language => exact fun _ _ _ hb => hb
  | newBox name options cache => exact fun _ _ h _ => h
  | cloneBox name copy => exact fun _ _ h _ => h
  | _ => trivial

/-- Rooms that steps lead to, whether they fail or not. Between two steps values may change in any
way. -/
inductive Played : Room → Prop
  | start (b : Bounds) : Played (.start b)
  | attempt {room : Room} (s : Step) (h : Played room) :
    Played ((Play.attempt (pure s)).run room).2
  | change {room : Room} (heap : Heap) (h : Played room) :
    Played { room with world := { room.world with heap := heap } }

/-- **All worlds that steps lead to are sound.** -/
theorem sound_of_played {room : Room} (h : Played room) : room.world.Sound := by
  induction h with
  | start b => exact World.sound_start b
  | @attempt room s _ ih =>
    have hidle : World.Sound { room.world with log := [], events := [] } :=
      World.invariant_sound.noted ih [] []
    exact Play.invariant_perform World.invariant_sound (Room.invariant_world _)
      { room with world := { room.world with log := [], events := [] } } hidle
      (s.respects_sound _)
  | change heap _ ih => exact World.invariant_sound.heap ih heap

end Wording
