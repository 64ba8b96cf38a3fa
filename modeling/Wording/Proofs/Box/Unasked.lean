import Wording.Proofs.Box.Reads
import Wording.Proofs.Paired.Listing

/-!
# Sessions without some of their questions

Take a session, and the same session without some of the steps that ask a box for a message or for its
messages, whatever comes of these steps. All other steps answer alike in both: what a question
leaves behind is seen in the log, in how many templates a cache holds and in how often a box has been
asked, and nowhere else.

The values that a question makes are there in one session only, so the same values lie at different
places in the two. A pairing says which places go together.

* `Room.Unasked`: two rooms, the left one after the session without those steps
* `Room.Unasked.spared`: what such rooms have in common
* `answers_unasked`: the same answers, and what lies in the caches
-/

namespace Wording

variable {p q : Pairing} {h h' k : Heap} {a b : Room}

/-! ## A heap that goes on alone -/

namespace Pairing

/-- The places in use that go together, when the right heap has got `n` more. -/
def widened (p : Pairing) (n : Nat) : Pairing where
  ref (r s : Nat) := p.ref r s ∧ r < p.size
  size := p.size
  gap := p.gap + n
  aside := p.aside
  raised := p.raised
  fault := p.fault
  unique := fun hr hs => p.unique hr.1 hs.1
  beyond := by
    rintro r s ⟨hr, hlt⟩ hbeyond
    rcases hbeyond with hge | hge
    · exact absurd hlt (Nat.not_lt.mpr hge)
    · have hsum := p.beyond hr (.inr (by omega))
      omega
  fault_of_raised := p.fault_of_raised
  ordinary := p.ordinary
  render := p.render
  exhausted := p.exhausted

/-- Only places in use go together. -/
def Used (p : Pairing) : Prop := ∀ r s : Nat, p.ref r s → r < p.size

theorem Used.mono (hp : p.Used) (hpq : p ≤ q) : q.Used := by
  intro r s hr
  obtain hr | ⟨-, -, hlt⟩ := ((grows hpq).ref_iff r s).mp hr
  · exact Nat.lt_of_lt_of_le (hp r s hr) (grows hpq).size
  · exact hlt

theorem used_widened (p : Pairing) (n : Nat) : (p.widened n).Used := fun _ _ hr => hr.2

theorem Used.into_widened (hp : p.Used) (n : Nat) : p.Into (p.widened n) :=
  ⟨fun r s hr => ⟨hr, hp r s hr⟩, fun _ he => he⟩

/-- Two pairings that have grown from one to the same size pair the same places. -/
theorem ref_iff_of_size {q' : Pairing} (hpq : p ≤ q) (hpq' : p ≤ q') (hsize : q.size = q'.size)
    (r s : Nat) : q.ref r s ↔ q'.ref r s := by
  rw [(grows hpq).ref_iff, (grows hpq').ref_iff, hsize]

end Pairing

/-- What is put behind the right heap leaves all together that was. -/
theorem Heap.Paired.widened (hp : h.Paired p h') (hused : p.Used) (hk : h'.Extends k) :
    h.Paired (p.widened (k.cells.size - h'.cells.size)) k := by
  refine ⟨hp.left, ?_, ?_, fun r hr hnone => hp.aside r hr fun s hs => hnone s ⟨hs, hr⟩⟩
  · show k.cells.size = p.size + (p.gap + (k.cells.size - h'.cells.size))
    have hright := hp.right
    have hle := hk.1
    omega
  · rintro r s ⟨hr, hlt⟩
    have hs : s < h'.cells.size := hp.right ▸ (Heap.Paired.lt_iff hr).mp hlt
    rw [hk.2 s hs]
    have hcell := hp.cell hr
    generalize h.cells[r]? = x, h'.cells[s]? = y at hcell
    cases hcell with
    | none => exact .none
    | some hc => exact .some (hc.imp (hused.into_widened _))

/-- Rooms go together in each pairing that has grown as much. -/
theorem Room.Paired.of_size {q' : Pairing} (hab : a.Paired q b) (hpq : p ≤ q) (hpq' : p ≤ q')
    (hsize : q.size = q'.size) : a.Paired q' b := by
  have href := Pairing.ref_iff_of_size hpq hpq' hsize
  have hgap : q.gap = q'.gap := (Pairing.grows hpq).gap.trans (Pairing.grows hpq').gap.symm
  have haside : q.aside = q'.aside := (Pairing.grows hpq).aside.trans (Pairing.grows hpq').aside.symm
  have hraised : q.raised = q'.raised :=
    (Pairing.grows hpq).raised.trans (Pairing.grows hpq').raised.symm
  have hfault : q.fault = q'.fault := (Pairing.grows hpq).fault.trans (Pairing.grows hpq').fault.symm
  have hinto : q.Into q' := ⟨fun r s hr => (href r s).mp hr, fun _ he => hraised ▸ he⟩
  have hheap := hab.world.heap
  refine hab.setHeap hinto ⟨hheap.left.trans hsize, ?_, fun {r s} hr => ?_, fun r hr hnone => ?_⟩
    (hfault ▸ hab.world.lacking)
  · rw [hheap.right, hsize, hgap]
  · have hcell := hheap.cell ((href r s).mpr hr)
    generalize a.world.heap.cells[r]? = x, b.world.heap.cells[s]? = y at hcell
    cases hcell with
    | none => exact .none
    | some hc => exact .some (hc.imp hinto)
  · exact haside ▸ hheap.aside r (hsize ▸ hr) fun s hs => hnone s ((href r s).mp hs)

/-! ## Rooms without their counts -/

theorem Tracker.uncounted_uncounted (t : Tracker) : t.uncounted.uncounted = t.uncounted := by
  cases t <;> rfl

theorem Room.recounted_uncounted (room : Room) : room.uncounted.Recounted room := by
  have hboxes : (room.world.boxes.map Box.uncounted).map Box.uncounted =
      room.world.boxes.map Box.uncounted := by
    rw [Array.map_map]
    refine Array.map_congr_left fun b _ => ?_
    exact congrArg (fun t => Box.mk b.language b.markers b.messages t b.cache)
      b.tracker.uncounted_uncounted
  exact congrArg (fun bs => ({ room with world := { room.world with boxes := bs } } : Room)) hboxes

theorem Box.Paired.uncounted {x y : Box} (hxy : x.Paired p y) : x.uncounted.Paired p y.uncounted :=
  ⟨hxy.language, hxy.markers, hxy.combined, hxy.messages, congrArg Tracker.uncounted hxy.tracker⟩

theorem Room.Paired.uncounted (hab : a.Paired p b) : a.uncounted.Paired p b.uncounted := by
  have hboxes : List.Forall₂ (Box.Paired p) (a.world.boxes.map Box.uncounted).toList
      (b.world.boxes.map Box.uncounted).toList := by
    rw [Array.toList_map, Array.toList_map]
    refine List.forall₂_map_left_iff.mpr (List.forall₂_map_right_iff.mpr ?_)
    exact hab.world.boxes.imp fun _ _ hxy => hxy.uncounted
  exact { hab with world := { hab.world with boxes := hboxes } }

theorem Shown.Paired.uncounted {x y : Shown} (hxy : x.Paired p y) :
    x.uncounted.Paired p y.uncounted := by
  obtain ⟨q, hq, hheap, hanswer⟩ := hxy
  obtain ⟨heap, answer⟩ := x
  obtain ⟨heap', answer'⟩ := y
  refine ⟨q, hq, hheap, ?_⟩
  cases hanswer with
  | box h =>
    exact .box ⟨h.language, h.markers, congrArg Tracker.uncounted h.tracker, h.hasDependents,
      h.store⟩
  | done => exact .done
  | value h => exact .value h
  | defaults hd h => exact .defaults hd h
  | messages h hl => exact .messages h hl
  | count n => exact .count n
  | flag b => exact .flag b

/-! ## Sessions -/

/-- What a step is given goes together with what `f` makes of it, and its lists of messages hold
nothing but texts, callables and dictionaries of the same kind. -/
def Step.Renames (p : Pairing) (h : Heap) (f : Value → Value) (s : Step) : Prop :=
  s.All (fun v => v.Paired p (f v)) fun v => v.Paired p (f v) ∧
    ∃ depth, Listing (fun _ => True) h h depth v

/-- Rooms after the same session, on the left without some of the steps that ask a box. The pairing
says which places of their heaps go together. -/
inductive Room.Unasked : Pairing → Room → Room → Prop
  | start (b : Bounds) : Unasked (.self (fun _ => False) 0) (.start b) (.start b)
  /-- A step of both, with values that go together. -/
  | step {p q : Pairing} {a b : Room} {s : Step} {f : Value → Value} (h : Unasked p a b)
    (hs : s.Renames p a.world.heap f) (hpq : p ≤ q)
    (hsize : q.size = (a.after s).world.heap.cells.size) :
    Unasked q (a.after s) (b.after (s.map f))
  /-- A step that is dropped on the left. -/
  | drop {p : Pairing} {a b : Room} {s : Step} (h : Unasked p a b) (hs : b.Consults s) :
    Unasked (p.widened ((b.after s).world.heap.cells.size - b.world.heap.cells.size)) a (b.after s)
  /-- Between two steps values may change, in any way that leaves both sides together: alike on both
  sides, or on the right in dictionaries that have been given out there only. -/
  | change {p q : Pairing} {a b : Room} {k k' : Heap} (h : Unasked p a b) (hpq : p.Into q)
    (hused : q.Used) (hk : k.Paired q k') (hlacking : q.fault (.failure .attribute)) :
    Unasked q (a.setHeap k) (b.setHeap k')

/-- Reports on steps that answer alike. Nothing is said of the log, of how many templates a cache
holds, and of how often a box has been asked. -/
structure StepReport.Alike (p : Pairing) (r r' : StepReport) : Prop where
  result : Results (StepError.Paired p) (Shown.Paired p) (r.result.map Shown.uncounted)
    (r'.result.map Shown.uncounted)
  events : p.Named r.events r'.events

/-- **A step with values that go together answers alike.** -/
theorem Room.Paired.step_uncounted (hab : a.cleared.uncounted.Paired p b.cleared.uncounted)
    {s : Step} {f : Value → Value} (hs : s.Renames p a.world.heap f)
    (hcache : ∀ name, s ≠ .cacheSize name) :
    ∃ q, p ≤ q ∧ q.size = (a.after s).world.heap.cells.size ∧
      (a.report s).Alike q (b.report (s.map f)) ∧
      (a.after s).cleared.uncounted.Paired q (b.after (s.map f)).cleared.uncounted := by
  have hsteps : s.Paired p a.world.heap b.world.heap (s.map f) :=
    hs.paired_map (fun _ hv => hv)
      (fun _ ⟨hv, depth, hlist⟩ => hlist.sameSource_of_paired hab.world.heap hab.world.lacking hv)
      hcache
  obtain ⟨q, hpq, hreport, hroom⟩ := Room.Paired.step (a := a.uncounted) (b := b.uncounted) hab hsteps
  obtain ⟨hafter, hresult, hevents⟩ := Room.recounted_step a.recounted_uncounted s
  obtain ⟨hafter', hresult', hevents'⟩ := Room.recounted_step b.recounted_uncounted (s.map f)
  refine ⟨q, hpq, ?_, ⟨?_, ?_⟩, ?_⟩
  · rw [← hafter.world.heap]
    exact hroom.world.heap.left.symm
  · rw [← hresult, ← hresult']
    exact hreport.result.map fun x y hxy => hxy.uncounted
  · rw [← hevents, ← hevents']
    exact hreport.events
  · have hcleared := hroom.uncounted.cleared
    rw [hafter, hafter'] at hcleared
    exact hcleared

/-! ## Sessions without questions -/

/-- What holds of rooms after a session without some of its questions and with them. -/
structure Room.Spared (p : Pairing) (a b : Room) : Prop where
  played : Played b
  used : p.Used
  paired : a.cleared.uncounted.Paired p b.cleared.uncounted

/-- A question leaves the rooms together. -/
theorem Room.Spared.drop (hab : Room.Spared p a b) {s : Step} (hs : b.Consults s) :
    Room.Spared (p.widened ((b.after s).world.heap.cells.size - b.world.heap.cells.size)) a
      (b.after s) := by
  obtain ⟨z, hafter, hz⟩ := exists_after_read hab.played hs
  refine ⟨.attempt s hab.played, p.used_widened _, ?_⟩
  rw [hafter]
  have hheap : a.world.heap.Paired
      (p.widened (z.heap.cells.size - b.world.heap.cells.size)) z.heap :=
    hab.paired.world.heap.widened hab.used hz.heap
  have hworld := (hab.paired.world.imp (hab.used.into_widened _) hheap
    hab.paired.world.lacking).setCaches hab.paired.world.left hz.compiled
  have hroom := hab.paired.imp (hab.used.into_widened _) hworld
  have hsame : { b.cleared.uncounted with world :=
      { b.cleared.uncounted.world with heap := z.heap, caches := z.caches } } =
      ({ b with world := z } : Room).cleared.uncounted :=
    congrArg (fun w : World => ({ b with world := { w with log := [], events := [] } } : Room))
      hz.uncounted_eq
  rwa [hsame] at hroom

/-- Rooms that have gone on with a step of both. -/
theorem Room.Spared.step (hab : Room.Spared p a b) {s : Step} {f : Value → Value}
    (hs : s.Renames p a.world.heap f) (hpq : p ≤ q)
    (hsize : q.size = (a.after s).world.heap.cells.size) :
    Room.Spared q (a.after s) (b.after (s.map f)) := by
  refine ⟨.attempt _ hab.played, hab.used.mono hpq, ?_⟩
  by_cases hcache : ∃ name, s = .cacheSize name
  · obtain ⟨name, rfl⟩ := hcache
    have hsame : (Step.cacheSize name).map f = .cacheSize name := rfl
    rw [a.after_cacheSize] at hsize ⊢
    rw [hsame, b.after_cacheSize]
    exact hab.paired.cleared.of_size le_rfl hpq (hab.paired.world.heap.left.symm.trans hsize.symm)
  · obtain ⟨q', hpq', hsize', -, hroom⟩ :=
      hab.paired.step_uncounted hs fun name h => hcache ⟨name, h⟩
    exact hroom.of_size hpq' hpq (hsize'.trans hsize.symm)

/-- **A session without some of its questions leaves rooms that go together with those behind the
whole session**, but for how often boxes have been asked. -/
theorem Room.Unasked.spared (h : Room.Unasked p a b) : Room.Spared p a b := by
  induction h with
  | start c =>
    refine ⟨.start c, fun _ _ hr => hr.2.elim, ?_⟩
    exact (Room.paired_start _ c).cleared.uncounted
  | step _ hs hpq hsize ih => exact ih.step hs hpq hsize
  | drop _ hs ih => exact ih.drop hs
  | change _ hpq hused hk hlacking ih =>
    exact ⟨.change _ ih.played, hused, ih.paired.setHeap hpq hk hlacking⟩

/-- **Whatever is dropped of what boxes are asked, all other steps answer alike**, and go on alike. A
text that compiles is in a cache as its template, one that does not is in none, and whoever asks for
it gets the same error each time. -/
theorem answers_unasked (h : Room.Unasked p a b) :
    (∀ (s : Step) (f : Value → Value), s.Renames p a.world.heap f →
      (∀ name, s ≠ .cacheSize name) →
        ∃ q, p ≤ q ∧ (a.report s).Alike q (b.report (s.map f)) ∧
          Room.Unasked q (a.after s) (b.after (s.map f))) ∧
      (∀ c ∈ b.world.caches, ∀ e ∈ c.entries,
        Template.compile e.markers e.text = .ok e.template) ∧
      ∀ x ∈ b.world.boxes, ∀ text, (outcome (Session.template x text) b.world).1 =
        (Template.compile x.markers text).mapError .template := by
  have hab := h.spared
  have hsound := sound_of_played hab.played
  refine ⟨fun s f hs hcache => ?_, fun c hc e he => (hsound.compiled c hc e he).compile_eq,
    fun x hx text => ?_⟩
  · obtain ⟨q, hpq, hsize, hreport, -⟩ := hab.paired.step_uncounted hs hcache
    exact ⟨q, hpq, hreport, h.step hs hpq hsize⟩
  · obtain ⟨caches, log, hout, -⟩ :=
      Session.outcome_template_eq (hsound.boxes x hx).combined hsound.compiled text
    rw [hout]

/-- A box without messages, which counts how often it is asked for its language. -/
def recordedBox : Step :=
  .newBox "box" ⟨.absent, .absent, .absent, .str "en", .null, .recording, none⟩ none

/-- An issue with a message that stands ready. -/
def readyIssue : Request :=
  ⟨.descriptor ⟨.str "city", .str "required", .str "Give a city", .tuple []⟩, .null, .null⟩

/-- Whoever is asked for it, and however values are called, the message is the one that stands ready. -/
theorem outcome_readyIssue (m : Machine) (id : Nat) (w : World) :
    outcome (Session.messageBy m id readyIssue) w = (.ok (.str "Give a city"), w) :=
  Session.outcome_messageBy_of_ready rfl rfl m id

/-- A message and all messages are asked for; the box is shown alike without these steps. -/
theorem answers_unasked_recordedBox : ∃ (p q : Pairing) (a b c : Room),
    a = (Room.start ⟨9, 99⟩).after recordedBox ∧ b = a.after (.messages "box" .null none) ∧
      c = b.after (.message "box" readyIssue) ∧ Room.Unasked p a c ∧ p ≤ q ∧
      (a.report (.state "box")).Alike q (c.report (.state "box")) := by
  obtain ⟨p, -, -, hmade⟩ := (answers_unasked (.start ⟨9, 99⟩)).1 recordedBox id
    ⟨.atom rfl, .atom rfl, 0, .null 0⟩ (by simp [recordedBox])
  rw [Step.map_id] at hmade
  obtain ⟨a, ha⟩ : ∃ a, a = (Room.start ⟨9, 99⟩).after recordedBox := ⟨_, rfl⟩
  rw [← ha] at hmade ⊢
  obtain ⟨b, hb⟩ : ∃ b, b = a.after (.messages "box" .null none) := ⟨_, rfl⟩
  have hasked := hmade.drop (.messages "box" .null)
  rw [← hb] at hasked
  have hread := hasked.drop (.message "box" readyIssue fun e _ =>
    (outcome_readyIssue _ _ _).trans (outcome_readyIssue _ _ _).symm)
  obtain ⟨q, hpq, halike, -⟩ :=
    (answers_unasked hread).1 (.state "box") id trivial (by simp)
  rw [Step.map_id] at halike
  exact ⟨_, q, a, b, _, rfl, hb, rfl, hread, hpq, halike⟩

end Wording
