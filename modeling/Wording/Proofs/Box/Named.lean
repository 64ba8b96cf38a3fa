import Mathlib.Data.List.Pairwise
import Wording.Proofs.Box.Clone

/-!
# Names of boxes

A box gets its name when it is made, behind all others, and no box is given away. So different names
stand for different boxes, in all rooms that steps lead to.

* `Room.exists_boxes_after`: what a step does to the names of boxes
* `Room.distinct_of_played`: different names, different boxes
-/

namespace Wording

/-- Names stand for boxes that are there, different ones for different boxes. -/
structure Room.Distinct (room : Room) : Prop where
  inRange : ∀ e ∈ room.boxes, e.2 < room.world.boxes.size
  distinct : room.boxes.Pairwise fun d e => d.2 ≠ e.2

/-- No box of another name is the box of a name. -/
theorem Room.Distinct.ne_of_find? {room : Room} (h : room.Distinct) {name : String} {d : String × Nat}
    (hd : room.boxes.find? (·.1 == name) = some d) {e : String × Nat} (he : e ∈ room.boxes)
    (hne : e.1 ≠ name) : e.2 ≠ d.2 := by
  have hname : d.1 = name := by simpa using List.find?_some hd
  have hde : d ≠ e := by
    rintro rfl
    exact hne hname
  have hsymm : Std.Symm fun d e : String × Nat => d.2 ≠ e.2 := ⟨fun _ _ => Ne.symm⟩
  exact (h.distinct.forall (List.mem_of_find?_eq_some hd) he hde).symm

namespace Session

/-- A box is made and put behind all others, or nothing is changed among the boxes. -/
theorem exists_boxes_addBox {m : Session Box}
    (hm : ∀ bs, Keeps (fun w => w.boxes = bs) m fun _ => True) (w : World) :
    (∃ e w', outcome (m >>= addBox) w = (.error e, w') ∧ w'.boxes = w.boxes) ∨
      ∃ b w', outcome (m >>= addBox) w = (.ok w.boxes.size, w') ∧ w'.boxes = w.boxes.push b := by
  have hkept := (hm w.boxes w rfl).1
  rw [outcome_bind]
  cases hout : outcome m w with
  | mk r w' =>
    rw [hout] at hkept
    cases r with
    | error e => exact .inl ⟨e, w', rfl, hkept⟩
    | ok b =>
      refine .inr ⟨b, { w' with boxes := w'.boxes.push b }, ?_, congrArg (·.push b) hkept⟩
      dsimp only at hkept ⊢
      rw [addBox, outcome_get_bind, ← hkept]
      rfl

/-- What is made like a box and changed before it is put among the others. -/
theorem keepsBoxes_makeBox (bs : Array Box) (o : BoxOptions) :
    Keeps (fun w => w.boxes = bs) (makeBox o) fun _ => True := fun w hw =>
  ⟨(keeps_makeBox (P := fun w => w.boxes = bs) (fun _ h => h) o w hw).1, fun _ _ => trivial⟩

theorem exists_boxes_newBox (o : BoxOptions) (w : World) :
    (∃ e w', outcome (newBox o) w = (.error e, w') ∧ w'.boxes = w.boxes) ∨
      ∃ b w', outcome (newBox o) w = (.ok w.boxes.size, w') ∧ w'.boxes = w.boxes.push b :=
  exists_boxes_addBox (fun bs => keepsBoxes_makeBox bs o) w

theorem exists_boxes_cloneBox (id : Nat) (w : World) :
    (∃ e w', outcome (cloneBox id) w = (.error e, w') ∧ w'.boxes = w.boxes) ∨
      ∃ b w', outcome (cloneBox id) w = (.ok w.boxes.size, w') ∧ w'.boxes = w.boxes.push b := by
  have hclone : cloneBox id = (do
      let b ← box id
      let fresh ← makeBox ⟨.absent, .absent, .absent, b.language, .null, b.tracker.kind, b.cache⟩
      return { fresh with markers := b.markers, messages := Catalog.merge [] b.messages }) >>=
        addBox := by
    simp only [cloneBox, bind_assoc, pure_bind]
  have hbox (bs : Array Box) : Keeps (fun w => w.boxes = bs) (box id) fun _ => True := by
    refine keeps_get.bind fun w _ => ?_
    split
    · exact keeps_return _
    · exact keeps_throw _
  rw [hclone]
  exact exists_boxes_addBox (fun bs => (hbox bs).bind fun _ _ =>
    (keepsBoxes_makeBox bs _).bind fun _ _ => keeps_return _) w

end Session

namespace Room

/-- A step leaves the names of boxes as they are, or it gives one to a box that it puts behind all
others. -/
def NamesBoxes (before after : Room) : Prop :=
  after.boxes = before.boxes ∧ before.world.boxes.size ≤ after.world.boxes.size ∨
    ∃ called, after.boxes = (called, before.world.boxes.size) :: before.boxes ∧
      after.world.boxes.size = before.world.boxes.size + 1

theorem NamesBoxes.refl (room : Room) : room.NamesBoxes room := .inl ⟨rfl, Nat.le_refl _⟩

/-- A box that is made gets a name. -/
theorem namesBoxes_placed {made : Session Nat} {room : Room}
    (h : (∃ e w', outcome made room.world = (.error e, w') ∧ w'.boxes = room.world.boxes) ∨
      ∃ b w', outcome made room.world = (.ok room.world.boxes.size, w') ∧
        w'.boxes = room.world.boxes.push b) (name : String) :
    room.NamesBoxes (outcome (Play.placed name made) room).2 := by
  obtain ⟨e, w, hmade, hboxes⟩ | ⟨b, w, hmade, hboxes⟩ := h
  · have hout : outcome (Play.placed name made) room =
        (.error (.error e), { room with world := w }) := by
      refine outcome_bind_of_error ?_
      rw [Play.outcome_session, hmade]
      rfl
    rw [hout]
    exact .inl ⟨rfl, Nat.le_of_eq (congrArg Array.size hboxes).symm⟩
  · have hsession : outcome (Play.session made) room =
        (.ok room.world.boxes.size, { room with world := w }) := by
      rw [Play.outcome_session, hmade]
      rfl
    have hb : Room.world { room with
        world := w, boxes := (name, room.world.boxes.size) :: room.boxes } |>.boxes[
          room.world.boxes.size]? = some b := by
      show w.boxes[room.world.boxes.size]? = some b
      rw [hboxes]
      exact Array.getElem?_push_size
    obtain ⟨heap, view, hshown⟩ := Play.exists_outcome_shownBox hb
    have hout : outcome (Play.placed name made) room = (.ok ⟨heap, .box view⟩, Room.setHeap { room with
        world := w, boxes := (name, room.world.boxes.size) :: room.boxes } heap) := by
      rw [Play.placed, outcome_bind_of_ok hsession]
      exact hshown
    rw [hout]
    refine .inr ⟨name, rfl, ?_⟩
    show w.boxes.size = _
    rw [hboxes, Array.size_push]

/-- What is found by its name, and a box that is made of it. -/
theorem namesBoxes_find_bind {α : Type} {names : Room → List (String × α)} {name : String}
    {room : Room} {m : α → Play Shown} (h : ∀ a, room.NamesBoxes (outcome (m a) room).2) :
    room.NamesBoxes (outcome (Play.find names name >>= m) room).2 := by
  rw [outcome_bind, Play.outcome_find]
  cases (names room).find? (·.1 == name) with
  | none => exact .refl room
  | some e => exact h e.2

end Room

/-- In a sound world boxes are never fewer than they were. -/
theorem World.invariant_size (n : Nat) :
    World.Invariant (fun w => w.Sound ∧ n ≤ w.boxes.size) fun _ b => b.Sound :=
  World.invariant_sound_and fun h _ hsize => h.trans hsize

namespace Room

/-- **A step gives at most one name, to a box that stands behind all others.** -/
theorem namesBoxes_after {room : Room} (hroom : room.world.Sound) (s : Step) :
    room.NamesBoxes (room.after s) := by
  suffices room.cleared.NamesBoxes (outcome (Play.perform s) room.cleared).2 from this
  -- All but two kinds of steps leave the names of boxes alone.
  have hothers (hs : s.Respects (fun w => w.Sound ∧ room.world.boxes.size ≤ w.boxes.size)
      (fun _ b => b.Sound) (fun r => (r.world.Sound ∧ room.world.boxes.size ≤ r.world.boxes.size) ∧
        r.boxes = room.boxes) room.cleared) :
      room.cleared.NamesBoxes (outcome (Play.perform s) room.cleared).2 := by
    have hinvariant : Room.Invariant
        (fun w => w.Sound ∧ room.world.boxes.size ≤ w.boxes.size)
        fun r => (r.world.Sound ∧ room.world.boxes.size ≤ r.world.boxes.size) ∧
          r.boxes = room.boxes :=
      ⟨fun h => h.1, fun h _ hw => ⟨hw, h.2⟩, fun h _ _ _ _ => h⟩
    have hafter := Play.invariant_perform (World.invariant_size room.world.boxes.size) hinvariant
      room.cleared
      ⟨⟨World.invariant_sound.noted hroom [] [], Nat.le_refl _⟩, rfl⟩ hs
    exact .inl ⟨hafter.2, hafter.1.2⟩
  cases s with
  | newBox name o cache =>
    cases cache with
    | none =>
      rw [Play.perform_newBox]
      exact namesBoxes_placed (Session.exists_boxes_newBox _ _) name
    | some c =>
      have hperform : Play.perform (.newBox name o (some c)) = Play.find (·.caches) c >>=
          fun cache => Play.placed name (Session.newBox { o with cache := cache }) := by
        rw [Play.perform]
        rfl
      rw [hperform]
      exact namesBoxes_find_bind fun _ => namesBoxes_placed (Session.exists_boxes_newBox _ _) name
  | cloneBox name copy =>
    rw [Play.perform_cloneBox]
    exact namesBoxes_find_bind fun id => namesBoxes_placed (Session.exists_boxes_cloneBox id _) copy
  | applyDefaults c snapshot =>
    exact hothers ⟨fun _ _ _ hw hw' hr =>
      ⟨c.respects_sound _ _ _ hw.1 hw'.1 hr, hw'.2⟩, fun _ _ _ _ h => h⟩
  | applyEnvironment start environ =>
    exact hothers fun _ c _ _ _ _ _ hw hw' hr => ⟨c.respects_sound _ _ _ hw.1 hw'.1 hr, hw'.2⟩
  | resetDefaults =>
    exact hothers fun _ hw => ⟨⟨hw.1.compiled, hw.1.boxes, trivial⟩, hw.2⟩
  | addMessages name messages => exact hothers fun _ _ _ _ hb hm => ⟨hb.combined, hm⟩
  | setLanguage name language => exact hothers fun _ _ _ hb => hb
  | _ => exact hothers trivial

theorem Distinct.after {room after : Room} (h : room.Distinct) (hafter : room.NamesBoxes after) :
    after.Distinct := by
  obtain ⟨hboxes, hsize⟩ | ⟨called, hboxes, hsize⟩ := hafter
  · refine ⟨fun e he => ?_, hboxes ▸ h.distinct⟩
    exact Nat.lt_of_lt_of_le (h.inRange e (hboxes ▸ he)) hsize
  · refine ⟨fun e he => ?_, ?_⟩
    · rw [hboxes] at he
      rw [hsize]
      rcases List.mem_cons.mp he with rfl | he
      · exact Nat.lt_succ_self _
      · exact Nat.lt_succ_of_lt (h.inRange e he)
    · rw [hboxes]
      exact .cons (fun e he => Nat.ne_of_gt (h.inRange e he)) h.distinct

/-- **Different names stand for different boxes.** -/
theorem distinct_of_played {room : Room} (h : Played room) : room.Distinct := by
  induction h with
  | start b => exact ⟨nofun, .nil⟩
  | attempt s h ih => exact ih.after (namesBoxes_after (sound_of_played h) s)
  | change heap _ ih => exact ⟨ih.inRange, ih.distinct⟩

end Room

end Wording
