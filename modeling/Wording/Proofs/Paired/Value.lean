import Wording.Proofs.Agreement
import Wording.Value.Call

/-!
# Values that go together

Two heaps can hold the same data at different places, and beside them data that nobody asks for. A
`Pairing` says which places of two heaps go together; what lies at the others stays as it is. Values go together if they are built alike and
refer to places that do (`Value.Paired`). What two runs allocate goes together too, so a pairing
grows while they go on, and what goes together stays together.

A pairing also bounds the faults that callables in such values raise. With it, that values go
together with themselves tells that no callable among them fails in another way. Computations may end
in further faults, which the pairing bounds too.

* `Value.Paired.key`: keys of values that go together
* `Keyed.find?_paired`, `Keyed.put_paired`: entries
* `Arguments.Paired.bind`: arguments
-/

namespace Wording

/-! ## Pairings -/

/-- The failures of operations on values, but for the attribute that a separator may lack. -/
def Failure.isOrdinary : Failure → Bool
  | .attribute | .other _ => false
  | _ => true

/-- The places of two heaps that go together, how many each has in use, what else lies in the left
one, the faults that callables in values may raise and those that computations may end in. -/
structure Pairing where
  ref : Ref → Ref → Prop
  /-- How many places the left heap has in use. -/
  size : Nat
  /-- How many more the right heap has in use. -/
  gap : Nat
  /-- What may lie at the places of the left heap that go together with none. -/
  aside : Ref → Option Cell → Prop
  raised : Fault → Prop
  fault : Fault → Prop
  /-- No place goes together with two others. -/
  unique : ∀ {a b c d : Ref}, ref a b → ref c d → (a = c ↔ b = d)
  /-- Places that are not in use yet go together in the order in which they come into use only. -/
  beyond : ∀ {r s : Nat}, ref r s → size ≤ r ∨ size + gap ≤ s → r + gap = s
  fault_of_raised : ∀ e : Fault, raised e → fault e
  ordinary : ∀ f : Failure, f.isOrdinary = true → fault (.failure f)
  render : ∀ e : RenderError, fault (.render e)
  exhausted : fault .exhausted

/-- A pairing has grown from another one: by places that are new in both heaps, and by no others. -/
structure Pairing.Grows (p q : Pairing) : Prop where
  size : p.size ≤ q.size
  gap : q.gap = p.gap
  aside : q.aside = p.aside
  ref_iff : ∀ r s : Nat, q.ref r s ↔ p.ref r s ∨ r + p.gap = s ∧ p.size ≤ r ∧ r < q.size
  raised : q.raised = p.raised
  fault : q.fault = p.fault

theorem Pairing.Grows.trans {p q t : Pairing} (h : p.Grows q) (h' : q.Grows t) : p.Grows t := by
  refine ⟨Nat.le_trans h.size h'.size, h'.gap.trans h.gap, h'.aside.trans h.aside, fun r s => ?_,
    h'.raised.trans h.raised, h'.fault.trans h.fault⟩
  have hsize := h.size
  have hsize' := h'.size
  rw [h'.ref_iff, h.ref_iff, h.gap, or_assoc]
  refine or_congr_right ⟨?_, ?_⟩
  · rintro (⟨rfl, hr⟩ | ⟨rfl, hr⟩) <;> exact ⟨rfl, by omega⟩
  · rintro ⟨rfl, hr⟩
    rcases Nat.lt_or_ge r q.size with hlt | hge
    · exact .inl ⟨rfl, hr.1, hlt⟩
    · exact .inr ⟨rfl, hge, hr.2⟩

/-- One pairing is below another that has grown from it. -/
instance : Preorder Pairing where
  le := Pairing.Grows
  le_refl p := by
    refine ⟨Nat.le_refl _, rfl, rfl, fun r s => ⟨.inl, ?_⟩, rfl, rfl⟩
    rintro (h | ⟨-, h⟩)
    · exact h
    · exact absurd h.2 (Nat.not_lt.mpr h.1)
  le_trans _ _ _ h h' := h.trans h'

namespace Pairing

variable {p q : Pairing}

theorem grows (h : p ≤ q) : p.Grows q := h

theorem ref_of_le (h : p ≤ q) {r s : Ref} (hr : p.ref r s) : q.ref r s :=
  ((grows h).ref_iff r s).mpr (.inl hr)

/-- What goes together in a pairing does so in another one. -/
structure Into (p q : Pairing) : Prop where
  ref : ∀ r s, p.ref r s → q.ref r s
  raised : ∀ e, p.raised e → q.raised e

theorem into (h : p ≤ q) : p.Into q :=
  ⟨fun _ _ => ref_of_le h, fun _ he => (grows h).raised ▸ he⟩

end Pairing

/-- Values without places and faults in them. -/
def Value.isAtom : Value → Bool
  | .tuple _ | .slice _ _ _ | .list _ | .dict _ | .record _ | .method _ _ | .constant _
  | .entryAt _ | .failing _ => false
  | _ => true

/-- Values that are built alike, from places that go together. -/
inductive Value.Paired (p : Pairing) : Value → Value → Prop
  | atom {v : Value} (h : v.isAtom = true) : Paired p v v
  | tuple {vs ws : List Value} (h : List.Forall₂ (Value.Paired p) vs ws) :
      Paired p (.tuple vs) (.tuple ws)
  | slice {a b c a' b' c' : Value} (ha : Paired p a a') (hb : Paired p b b')
      (hc : Paired p c c') : Paired p (.slice a b c) (.slice a' b' c')
  | list {r s : Ref} (h : p.ref r s) : Paired p (.list r) (.list s)
  | dict {r s : Ref} (h : p.ref r s) : Paired p (.dict r) (.dict s)
  | record {r s : Ref} (h : p.ref r s) : Paired p (.record r) (.record s)
  | method {v w : Value} (h : Paired p v w) (m : Method) : Paired p (.method v m) (.method w m)
  | constant {v w : Value} (h : Paired p v w) : Paired p (.constant v) (.constant w)
  | entryAt {v w : Value} (h : Paired p v w) : Paired p (.entryAt v) (.entryAt w)
  | failing {f : Fault} (h : p.raised f) : Paired p (.failing f) (.failing f)

namespace Pairing

/-- Values that go together one by one. -/
abbrev Values (p : Pairing) : List Value → List Value → Prop := List.Forall₂ (Value.Paired p)

/-- Values that may be left out. -/
abbrev Optional (p : Pairing) : Option Value → Option Value → Prop := Option.Rel (Value.Paired p)

/-- Values under the same names. -/
abbrev Named (p : Pairing) : List (String × Value) → List (String × Value) → Prop :=
  List.Forall₂ fun m n => m.1 = n.1 ∧ m.2.Paired p n.2

/-- Entries with what goes together, under keys that do. -/
abbrev Keyed {β β' : Type} (p : Pairing) (R : β → β' → Prop) :
    List (Value × β) → List (Value × β') → Prop :=
  List.Forall₂ fun d e => d.1.Paired p e.1 ∧ R d.2 e.2

abbrev Entries (p : Pairing) : Wording.Entries → Wording.Entries → Prop :=
  p.Keyed (Value.Paired p)

/-- Results of reading: values that go together, or a failure that may be. -/
abbrev Alike {α α' : Type} (p : Pairing) (R : α → α' → Prop) :
    Except Failure α → Except Failure α' → Prop :=
  Results (fun f g => f = g ∧ p.fault (.failure f)) R

variable {p : Pairing} {α α' β : Type} {R : α → α' → Prop}

theorem alike_error {f : Failure} (h : f.isOrdinary = true) :
    p.Alike R (.error f) (.error f) := .error ⟨rfl, p.ordinary f h⟩

end Pairing

/-! ## Growth -/

namespace Value.Paired

mutual

theorem imp {p q : Pairing} (hpq : p.Into q) {v w : Value} (h : v.Paired p w) : v.Paired q w := by
  cases h with
  | atom h => exact .atom h
  | tuple h => exact .tuple (impAll hpq h)
  | slice ha hb hc => exact .slice (ha.imp hpq) (hb.imp hpq) (hc.imp hpq)
  | list h => exact .list (hpq.ref _ _ h)
  | dict h => exact .dict (hpq.ref _ _ h)
  | record h => exact .record (hpq.ref _ _ h)
  | method h m => exact .method (h.imp hpq) m
  | constant h => exact .constant (h.imp hpq)
  | entryAt h => exact .entryAt (h.imp hpq)
  | failing h => exact .failing (hpq.raised _ h)

theorem impAll {p q : Pairing} (hpq : p.Into q) {vs ws : List Value} (h : p.Values vs ws) :
    q.Values vs ws := by
  cases h with
  | nil => exact .nil
  | cons h hs => exact .cons (imp hpq h) (impAll hpq hs)

end

/-- What goes together stays together. -/
theorem mono {p q : Pairing} (hpq : p ≤ q) {v w : Value} (h : v.Paired p w) : v.Paired q w :=
  h.imp (Pairing.into hpq)

end Value.Paired

namespace Pairing

variable {p q : Pairing}

theorem Values.mono (hpq : p ≤ q) {vs ws : List Value} (h : p.Values vs ws) : q.Values vs ws :=
  h.imp fun _ _ h => h.mono hpq

theorem Optional.mono (hpq : p ≤ q) {v w : Option Value} (h : p.Optional v w) : q.Optional v w := by
  cases h with
  | none => exact .none
  | some h => exact .some (h.mono hpq)

theorem Named.mono (hpq : p ≤ q) {ms ns : List (String × Value)} (h : p.Named ms ns) :
    q.Named ms ns := h.imp fun _ _ h => ⟨h.1, h.2.mono hpq⟩

theorem Entries.mono (hpq : p ≤ q) {es es' : Wording.Entries} (h : p.Entries es es') :
    q.Entries es es' := h.imp fun _ _ h => ⟨h.1.mono hpq, h.2.mono hpq⟩

end Pairing

/-! ## Parts and kinds -/

variable {p : Pairing}

namespace Value.Paired

variable {v w : Value}

theorem isCallable (h : v.Paired p w) : v.isCallable = w.isCallable := by cases h <;> rfl

theorem kindName (h : v.Paired p w) : v.kindName = w.kindName := by cases h <;> rfl

theorem receiver? (h : v.Paired p w) : v.receiver? = w.receiver? := by cases h <;> rfl

theorem kind? (h : v.Paired p w) : v.kind? = w.kind? := by cases h <;> rfl

theorem ofValue? (h : v.Paired p w) : Number.ofValue? v = Number.ofValue? w := by cases h <;> rfl

theorem isShared (h : v.Paired p w) : v.isShared = w.isShared := by
  cases h with
  | tuple h => cases h <;> rfl
  | _ => rfl

theorem asIndex (h : v.Paired p w) : p.Alike Eq v.asIndex w.asIndex := by
  cases h with
  | atom h => cases v <;> first | exact .ok rfl | exact Pairing.alike_error rfl
  | _ => exact Pairing.alike_error rfl

theorem asText (h : v.Paired p w) : p.Alike Eq v.asText w.asText := by
  cases h with
  | atom h => cases v <;> first | exact .ok rfl | exact Pairing.alike_error rfl
  | _ => exact Pairing.alike_error rfl

theorem asSize (h : v.Paired p w) : p.Alike Eq v.asSize w.asSize := by
  refine h.asIndex.bind ?_
  rintro n _ rfl
  dsimp only
  split
  · exact Pairing.alike_error rfl
  · exact .ok rfl

theorem asInt (h : v.Paired p w) : p.Alike Eq v.asInt w.asInt := by
  refine h.asIndex.bind ?_
  rintro n _ rfl
  dsimp only
  split
  · exact Pairing.alike_error rfl
  · exact .ok rfl

theorem asPosition? {v w : Option Value} (h : p.Optional v w) :
    p.Alike Eq (Value.asPosition? v) (Value.asPosition? w) := by
  cases h with
  | none => exact .ok rfl
  | some h =>
    cases h with
    | atom h => cases ‹Value› <;> first | exact .ok rfl | exact Pairing.alike_error rfl
    | _ => exact Pairing.alike_error rfl

theorem asLimit? {v w : Option Value} (h : p.Optional v w) :
    p.Alike Eq (Value.asLimit? v) (Value.asLimit? w) := by
  cases h with
  | none => exact .ok rfl
  | some h =>
    refine h.asSize.bind ?_
    rintro n _ rfl
    exact .ok rfl

theorem asFlag {v w : Option Value} (h : p.Optional v w) :
    p.Alike Eq (Value.asFlag v) (Value.asFlag w) := by
  cases h with
  | none => exact .ok rfl
  | some h =>
    refine h.asInt.bind ?_
    rintro n _ rfl
    exact .ok rfl

end Value.Paired

/-! ## Arguments -/

structure Arguments.Paired (p : Pairing) (a b : Arguments) : Prop where
  positional : p.Values a.positional b.positional
  named : p.Named a.named b.named

theorem Arguments.Paired.mono {q : Pairing} (hpq : p ≤ q) {a b : Arguments} (h : a.Paired p b) :
    a.Paired q b := ⟨h.positional.mono hpq, h.named.mono hpq⟩

/-- What is sought by name is found in both or in neither. -/
theorem Pairing.Named.entry? {ms ns : List (String × Value)} (h : p.Named ms ns)
    (k : String → Bool) :
    Option.Rel (fun m n => m.1 = n.1 ∧ m.2.Paired p n.2) (ms.find? fun m => k m.1)
      (ns.find? fun n => k n.1) := by
  induction h with
  | nil => exact .none
  | @cons m n ms ns hmn _ ih =>
    rw [List.find?_cons, List.find?_cons, hmn.1]
    cases k n.1 with
    | true => exact .some hmn
    | false => exact ih

theorem Pairing.Named.find? {ms ns : List (String × Value)} (h : p.Named ms ns)
    (k : String → Bool) :
    p.Optional ((ms.find? fun m => k m.1).map (·.2)) ((ns.find? fun n => k n.1).map (·.2)) := by
  have hentry := h.entry? k
  generalize (ms.find? fun m => k m.1) = x, (ns.find? fun n => k n.1) = y at hentry
  cases hentry with
  | none => exact .none
  | some hmn => exact .some hmn.2

theorem Pairing.Named.all {ms ns : List (String × Value)} (h : p.Named ms ns) (k : String → Bool) :
    (ms.all fun m => k m.1) = (ns.all fun n => k n.1) := by
  induction h with
  | nil => rfl
  | cons hmn _ ih => rw [List.all_cons, List.all_cons, hmn.1, ih]

theorem Pairing.isSome_eq {v w : Option Value} (h : p.Optional v w) : v.isSome = w.isSome := by
  cases h <;> rfl

/-- **Arguments that go together are taken apart alike.** -/
theorem Arguments.Paired.bind {a b : Arguments} (h : a.Paired p b) (q : Parameters) :
    p.Alike (List.Forall₂ p.Optional) (q.bind a) (q.bind b) := by
  have hlength := h.positional.length_eq
  have hknown := h.named.all fun k => k != "" && (q.names.drop a.positional.length).contains k
  have hvalues : List.Forall₂ p.Optional
      (a.positional.map some ++ (q.names.drop a.positional.length).map fun k =>
        (a.named.find? fun n => k != "" && n.1 == k).map (·.2))
      (b.positional.map some ++ (q.names.drop a.positional.length).map fun k =>
        (b.named.find? fun n => k != "" && n.1 == k).map (·.2)) := by
    refine List.rel_append (List.rel_map (fun _ _ h => .some h) h.positional) ?_
    rw [List.forall₂_map_left_iff, List.forall₂_map_right_iff, List.forall₂_same]
    exact fun k _ => h.named.find? fun n => k != "" && n == k
  unfold Parameters.bind
  dsimp only
  rw [← hlength, ← hknown]
  split
  · exact Pairing.alike_error rfl
  · split
    · exact Pairing.alike_error rfl
    · have hall : ∀ {vs ws : List (Option Value)}, List.Forall₂ p.Optional vs ws →
          vs.all Option.isSome = ws.all Option.isSome := by
        intro vs ws h
        induction h with
        | nil => rfl
        | cons h _ ih => rw [List.all_cons, List.all_cons, Pairing.isSome_eq h, ih]
      rw [hall (List.forall₂_take _ hvalues)]
      split
      · exact .ok hvalues
      · exact Pairing.alike_error rfl

/-! ## Keys -/

/-- Parts of keys: the same, but for places that go together. -/
inductive KeyPart.Paired (p : Pairing) : KeyPart → KeyPart → Prop
  | same {x : KeyPart} (h : ∀ r, x ≠ .ref r) : Paired p x x
  | ref {r s : Ref} (h : p.ref r s) : Paired p (.ref r) (.ref s)

theorem KeyPart.Paired.eq_iff {x x' y y' : KeyPart} (hx : x.Paired p x') (hy : y.Paired p y') :
    x = y ↔ x' = y' := by
  cases hx with
  | same hx =>
    cases hy with
    | same hy => exact Iff.rfl
    | ref _ => exact iff_of_false (hx _) (hx _)
  | ref hx =>
    cases hy with
    | same hy => exact iff_of_false (hy _).symm (hy _).symm
    | ref hy => rw [KeyPart.ref.injEq, KeyPart.ref.injEq, p.unique hx hy]

abbrev Pairing.Keys (p : Pairing) : Key → Key → Prop := List.Forall₂ (KeyPart.Paired p)

theorem Pairing.Keys.eq_iff {k k' l l' : Key} (hk : p.Keys k k') (hl : p.Keys l l') :
    k = l ↔ k' = l' := by
  induction hk generalizing l l' with
  | nil => cases hl <;> simp
  | cons hx _ ih =>
    cases hl with
    | nil => simp
    | cons hy hl => rw [List.cons.injEq, List.cons.injEq, hx.eq_iff hy, ih hl]

namespace Value.Paired

/-- The key of an atom holds no place. -/
theorem keys_atom {v : Value} (h : v.isAtom = true) : p.Keys v.key v.key := by
  refine List.forall₂_same.mpr fun x hx => .same ?_
  rintro r rfl
  have hfloat : ∀ x, KeyPart.ofFloat x ≠ .ref r := by
    intro x
    rw [KeyPart.ofFloat]
    split <;> nofun
  cases v with
  | complex re im =>
    rw [Value.key] at hx
    split at hx
    · exact hfloat _ (List.mem_singleton.mp hx).symm
    · simp only [List.mem_cons, List.not_mem_nil, or_false, reduceCtorEq, false_or] at hx
      exact hx.elim (fun hx => hfloat _ hx.symm) fun hx => hfloat _ hx.symm
  | float x => exact hfloat _ (List.mem_singleton.mp hx).symm
  | _ => first | (simp [Value.key, KeyPart.ofInt] at hx; done) | cases h

mutual

theorem key {v w : Value} (h : v.Paired p w) : p.Keys v.key w.key := by
  have hgroup : ∀ s n, (KeyPart.group s n).Paired p (.group s n) := fun _ _ => .same nofun
  have hword : ∀ s, (KeyPart.word s).Paired p (.word s) := fun _ => .same nofun
  cases h with
  | atom h => exact keys_atom h
  | tuple h =>
    rw [Value.key, Value.key, h.length_eq]
    exact .cons (hgroup _ _) (keyAll h)
  | slice ha hb hc =>
    rw [Value.key, Value.key]
    exact .cons (hgroup _ _) (List.rel_append (List.rel_append ha.key hb.key) hc.key)
  | list h => exact .cons (hgroup _ _) (.cons (.ref h) .nil)
  | dict h => exact .cons (hgroup _ _) (.cons (.ref h) .nil)
  | record h => exact .cons (hgroup _ _) (.cons (.ref h) .nil)
  | method h m => exact .cons (hgroup _ _) (.cons (hword _) h.key)
  | constant h => exact .cons (hgroup _ _) h.key
  | entryAt h => exact .cons (hgroup _ _) h.key
  | failing h => exact .cons (.same nofun) .nil

theorem keyAll {vs ws : List Value} (h : p.Values vs ws) :
    p.Keys (Value.keyAll vs) (Value.keyAll ws) := by
  cases h with
  | nil => exact .nil
  | cons h hs => exact List.rel_append h.key (keyAll hs)

end

theorem keyEq {v w v' w' : Value} (hv : v.Paired p v') (hw : w.Paired p w') :
    v.keyEq w = v'.keyEq w' := by
  rw [Bool.eq_iff_iff, Value.keyEq, Value.keyEq, beq_iff_eq, beq_iff_eq]
  exact Pairing.Keys.eq_iff hv.key hw.key

mutual

theorem isKey {v w : Value} (h : v.Paired p w) : v.isKey = w.isKey := by
  cases h with
  | tuple h => rw [Value.isKey, Value.isKey, areKeys h]
  | _ => rfl

theorem areKeys {vs ws : List Value} (h : p.Values vs ws) : Value.areKeys vs = Value.areKeys ws := by
  cases h with
  | nil => rfl
  | cons h hs => rw [Value.areKeys, Value.areKeys, h.isKey, areKeys hs]

end

end Value.Paired

/-! ## Entries -/

namespace Keyed

variable {β β' : Type} {R : β → β' → Prop} {es : List (Value × β)} {es' : List (Value × β')}
  {k k' : Value}

theorem find?_paired (h : p.Keyed R es es') (hk : k.Paired p k') :
    Option.Rel R (find? es k) (find? es' k') := by
  induction h with
  | nil => exact .none
  | @cons d e ds es hde _ ih =>
    rw [find?, find?, List.find?_cons, List.find?_cons, Value.Paired.keyEq hde.1 hk]
    cases e.1.keyEq k' with
    | true => exact .some hde.2
    | false => exact ih

theorem put_paired {b : β} {b' : β'} (h : p.Keyed R es es') (hk : k.Paired p k') (hb : R b b') :
    p.Keyed R (put k b es) (put k' b' es') := by
  induction h with
  | nil => exact .cons ⟨hk, hb⟩ .nil
  | @cons d e ds es hde hes ih =>
    rw [put, put, Value.Paired.keyEq hde.1 hk]
    split
    · exact .cons ⟨hde.1, hb⟩ hes
    · exact .cons hde ih

end Keyed

namespace Entries

variable {es es' : Entries}

theorem foldl_insert_paired {acc acc' : Entries} (h : p.Entries es es')
    (hacc : p.Entries acc acc') :
    p.Entries (es.foldl (fun acc e => acc.insert e.1 e.2) acc)
      (es'.foldl (fun acc e => acc.insert e.1 e.2) acc') := by
  induction h generalizing acc acc' with
  | nil => exact hacc
  | cons h _ ih => exact ih (Keyed.put_paired hacc h.1 h.2)

end Entries

end Wording
