import Wording.Proofs.Paired.Compare

/-!
# Methods of texts on arguments that go together

A method of a text or of bytes gives, on arguments and heaps that go together, answers that do, or
fails alike and in an ordinary way. Most methods only read texts, numbers and flags off their
arguments, which are the same on both sides; the answers that hold parts of the arguments are those of
tables.
-/

namespace Wording

variable {p : Pairing}

/-! ## Taking arguments apart -/

namespace Pairing

variable {α α' : Type} {R : α → α' → Prop} {vs ws : List (Option Value)}

theorem alike_one {f : Value → Except Failure α} {g : Value → Except Failure α'} :
    List.Forall₂ p.Optional vs ws → (∀ v w, v.Paired p w → p.Alike R (f v) (g w)) →
    p.Alike R (match vs with | [some v] => f v | _ => throw .type)
      (match ws with | [some v] => g v | _ => throw .type) := by
  intro h hf
  obtain _ | ⟨hv | _, _ | ⟨_, _⟩⟩ := h
  · exact alike_error rfl
  · exact hf _ _ hv
  · exact alike_error rfl
  · exact alike_error rfl
  · exact alike_error rfl

theorem alike_two {f : Value → Option Value → Except Failure α}
    {g : Value → Option Value → Except Failure α'} :
    List.Forall₂ p.Optional vs ws →
    (∀ v w, v.Paired p w → ∀ x y, p.Optional x y → p.Alike R (f v x) (g w y)) →
    p.Alike R (match vs with | some v :: x :: _ => f v x | _ => throw .type)
      (match ws with | some v :: x :: _ => g v x | _ => throw .type) := by
  intro h hf
  obtain _ | ⟨hv | _, _ | ⟨hx, _⟩⟩ := h
  · exact alike_error rfl
  · exact alike_error rfl
  · exact hf _ _ hv _ _ hx
  · exact alike_error rfl
  · exact alike_error rfl

theorem alike_three {f : Value → Option Value → Option Value → Except Failure α}
    {g : Value → Option Value → Option Value → Except Failure α'} :
    List.Forall₂ p.Optional vs ws →
    (∀ v w, v.Paired p w → ∀ x y, p.Optional x y → ∀ x' y', p.Optional x' y' →
      p.Alike R (f v x x') (g w y y')) →
    p.Alike R (match vs with | some v :: x :: x' :: _ => f v x x' | _ => throw .type)
      (match ws with | some v :: x :: x' :: _ => g v x x' | _ => throw .type) := by
  intro h hf
  obtain _ | ⟨hv | _, _ | ⟨hx, _ | ⟨hx', _⟩⟩⟩ := h
  · exact alike_error rfl
  · exact alike_error rfl
  · exact alike_error rfl
  · exact hf _ _ hv _ _ hx _ _ hx'
  · exact alike_error rfl
  · exact alike_error rfl
  · exact alike_error rfl

theorem alike_ite {c : Prop} [Decidable c] {x y : Except Failure α} {x' y' : Except Failure α'}
    (h : p.Alike R x x') (h' : p.Alike R y y') :
    p.Alike R (if c then x else y) (if c then x' else y') := by
  split
  · exact h
  · exact h'

/-- What goes on unless a condition stops it. -/
theorem alike_guard {c : Prop} [Decidable c] {f : Failure} {x : Except Failure α}
    {y : Except Failure α'} (hf : f.isOrdinary = true) (h : p.Alike R x y) :
    p.Alike R (if c then .error f else x) (if c then .error f else y) :=
  alike_ite (alike_error hf) h

/-- An argument that is read if it is given. -/
theorem alike_optional {γ : Type} {x y : Option Value} {d : γ} {read : Value → Except Failure γ}
    {f : γ → Except Failure α} {g : γ → Except Failure α'} :
    p.Optional x y → (∀ v w, v.Paired p w → p.Alike Eq (read v) (read w)) →
    (∀ c, p.Alike R (f c) (g c)) →
    p.Alike R (match x with | none => pure d >>= f | some v => read v >>= f)
      (match y with | none => pure d >>= g | some v => read v >>= g) := by
  intro hx hread hf
  cases hx with
  | none => exact hf d
  | some hv => exact (hread _ _ hv).bind_eq hf

/-- The argument at a position, if it is given. -/
theorem optional_at (h : List.Forall₂ p.Optional vs ws) (i : Nat) :
    p.Optional vs[i]?.join ws[i]?.join := by
  have hi := getElem?_of_forall₂ h i
  generalize vs[i]? = x, ws[i]? = y at hi
  cases hi with
  | none => exact .none
  | some h => exact h

theorem values_map_atom {γ : Type} {f : γ → Value} (xs : List γ)
    (h : ∀ x, (f x).isAtom = true) : p.Values (xs.map f) (xs.map f) := by
  refine List.forall₂_same.mpr fun v hv => ?_
  obtain ⟨x, -, rfl⟩ := List.mem_map.mp hv
  exact .atom (h x)

end Pairing

/-! ## Texts of both kinds -/

namespace TextKind

variable (k : TextKind) {h h' : Heap} {v w : Value} {a b : Arguments}

theorem isAtom_wrap (cs : List Char) : (k.wrap cs).isAtom = true := by
  cases k <;> rfl

theorem wrap_paired (cs : List Char) : (k.wrap cs).Paired p (k.wrap cs) := .atom (k.isAtom_wrap cs)

theorem unwrap_paired (hv : v.Paired p w) : p.Alike Eq (k.unwrap v) (k.unwrap w) := by
  cases hv with
  | atom h => cases k <;> cases v <;> first | exact .ok rfl | exact Pairing.alike_error rfl
  | _ => cases k <;> exact Pairing.alike_error rfl

theorem pattern_paired (hv : v.Paired p w) : p.Alike Eq (k.pattern v) (k.pattern w) := by
  have hunwrap := k.unwrap_paired hv
  cases hv with
  | atom h =>
    cases k with
    | text => exact hunwrap
    | bytes =>
      cases v with
      | int n =>
        rw [pattern]
        split
        · exact .ok rfl
        · exact Pairing.alike_error rfl
      | bool b => exact .ok rfl
      | _ => exact hunwrap
  | _ => cases k <;> exact hunwrap

/-! ## Methods with arguments -/

theorem searched_paired (cs : List Char) (ha : a.Paired p b) :
    p.Alike Eq (k.searched cs a) (k.searched cs b) := by
  refine (ha.bind _).bind fun vs ws hvs => Pairing.alike_three hvs ?_
  intro v w hv start start' hstart stop stop' hstop
  refine (Value.Paired.asPosition? hstart).bind_eq fun low => ?_
  refine (Value.Paired.asPosition? hstop).bind_eq fun high => ?_
  exact (k.pattern_paired hv).bind_eq fun pat => .ok rfl

theorem occurrences_paired (cs : List Char) (ha : a.Paired p b) :
    p.Alike (Value.Paired p) (k.occurrences cs a) (k.occurrences cs b) :=
  (k.searched_paired cs ha).bind_eq fun _ => .ok (.atom rfl)

theorem position?_paired (last : Bool) (cs : List Char) (ha : a.Paired p b) :
    p.Alike Eq (k.position? last cs a) (k.position? last cs b) :=
  (k.searched_paired cs ha).bind_eq fun _ => .ok rfl

theorem candidates_paired (hv : v.Paired p w) :
    p.Alike Eq (k.candidates v) (k.candidates w) := by
  have hone := (k.unwrap_paired hv).bind_eq fun cs => .ok (a := [cs]) rfl
  cases hv with
  | tuple h => exact Results.mapM_eq h fun _ _ h => k.unwrap_paired h
  | atom h => cases v <;> first | exact hone | cases h
  | _ => exact hone

theorem touches_paired (atEnd : Bool) (cs : List Char) (ha : a.Paired p b) :
    p.Alike (Value.Paired p) (k.touches atEnd cs a) (k.touches atEnd cs b) := by
  refine (ha.bind _).bind fun vs ws hvs => Pairing.alike_three hvs ?_
  intro v w hv start start' hstart stop stop' hstop
  refine (k.candidates_paired hv).bind_eq fun pats => ?_
  refine (Value.Paired.asPosition? hstart).bind_eq fun low => ?_
  refine (Value.Paired.asPosition? hstop).bind_eq fun high => ?_
  split <;> exact .ok (.atom rfl)

theorem filler_paired {v w : Option Value} (hv : p.Optional v w) :
    p.Alike Eq (k.filler v) (k.filler w) := by
  cases hv with
  | none => exact .ok rfl
  | some hv =>
    refine (k.unwrap_paired hv).bind_eq fun cs => ?_
    split
    · exact .ok rfl
    · exact Pairing.alike_error rfl

theorem padded_paired (m : Method) (cs : List Char) (ha : a.Paired p b) :
    p.Alike (Value.Paired p) (k.padded m cs a) (k.padded m cs b) := by
  refine (ha.bind _).bind fun vs ws hvs => Pairing.alike_two hvs ?_
  intro v w hv fill fill' hfill
  refine hv.asSize.bind_eq fun width => ?_
  exact (k.filler_paired hfill).bind_eq fun c => .ok (k.wrap_paired _)

theorem zeroFilled_paired (cs : List Char) (ha : a.Paired p b) :
    p.Alike (Value.Paired p) (k.zeroFilled cs a) (k.zeroFilled cs b) := by
  refine (ha.bind _).bind fun vs ws hvs => Pairing.alike_one hvs fun v w hv => ?_
  exact hv.asSize.bind_eq fun width => .ok (k.wrap_paired _)

theorem stripped_paired (left right : Bool) (cs : List Char) (ha : a.Paired p b) :
    p.Alike (Value.Paired p) (k.stripped left right cs a) (k.stripped left right cs b) := by
  refine (ha.bind _).bind fun vs ws hvs => ?_
  obtain _ | ⟨hv | _, _ | ⟨_, _⟩⟩ := hvs
  · exact .ok (k.wrap_paired _)
  · have hset := (k.unwrap_paired hv).bind_eq fun set =>
      .ok (k.wrap_paired (p := p) (Sequence.strip set.contains left right cs))
    cases hv with
    | atom h => cases ‹Value› <;> first | exact .ok (k.wrap_paired _) | exact hset
    | _ => exact hset
  · exact .ok (k.wrap_paired _)
  · exact .ok (k.wrap_paired _)
  · exact .ok (k.wrap_paired _)

theorem partitioned_paired (last : Bool) (cs : List Char) (ha : a.Paired p b) :
    p.Alike (Value.Paired p) (k.partitioned last cs a) (k.partitioned last cs b) := by
  refine (ha.bind _).bind fun vs ws hvs => Pairing.alike_one hvs fun v w hv => ?_
  refine (k.unwrap_paired hv).bind_eq fun sep => ?_
  dsimp only
  split
  · exact Pairing.alike_error rfl
  · exact .ok (.tuple (.cons (k.wrap_paired _) (.cons (k.wrap_paired _)
      (.cons (k.wrap_paired _) .nil))))

theorem cut_paired (atEnd : Bool) (cs : List Char) (ha : a.Paired p b) :
    p.Alike (Value.Paired p) (k.cut atEnd cs a) (k.cut atEnd cs b) := by
  refine (ha.bind _).bind fun vs ws hvs => Pairing.alike_one hvs fun v w hv => ?_
  exact (k.unwrap_paired hv).bind_eq fun _ => .ok (k.wrap_paired _)

theorem replaced_paired (cs : List Char) (ha : a.Paired p b) :
    p.Alike (Value.Paired p) (k.replaced cs a) (k.replaced cs b) := by
  refine (ha.bind _).bind fun vs ws hvs => ?_
  obtain _ | ⟨hx | _, _ | ⟨hy | _, _ | ⟨hz, _⟩⟩⟩ := hvs
  all_goals try exact Pairing.alike_error rfl
  refine (k.unwrap_paired hx).bind_eq fun old => ?_
  refine (k.unwrap_paired hy).bind_eq fun new => ?_
  exact (Value.Paired.asLimit? hz).bind_eq fun count => .ok (k.wrap_paired _)

theorem pieces_paired (right : Bool) (cs : List Char) (ha : a.Paired p b) :
    p.Alike p.Values (k.pieces right cs a) (k.pieces right cs b) := by
  refine (ha.bind _).bind fun vs ws hvs => ?_
  refine (Value.Paired.asLimit? (Pairing.optional_at hvs 1)).bind_eq fun max => ?_
  have hsep := Pairing.optional_at hvs 0
  have hwords : ∀ xs : List (List Char), p.Values (xs.map k.wrap) (xs.map k.wrap) :=
    fun xs => Pairing.values_map_atom xs k.isAtom_wrap
  dsimp only
  generalize vs[0]?.join = x, ws[0]?.join = y at hsep ⊢
  cases hsep with
  | none => exact .ok (hwords _)
  | some hv =>
    have hpieces : p.Alike p.Values _ _ := (k.unwrap_paired hv).bind_eq (f := fun sep => do
        if sep.isEmpty then throw .value
        let ps := if right then Sequence.splitOnRight sep max cs else Sequence.splitOn sep max cs
        return ps.map k.wrap)
      (g := fun sep => do
        if sep.isEmpty then throw .value
        let ps := if right then Sequence.splitOnRight sep max cs else Sequence.splitOn sep max cs
        return ps.map k.wrap) fun sep => by
      dsimp only
      split
      · exact Pairing.alike_error rfl
      · exact .ok (hwords _)
    cases hv with
    | atom h => cases ‹Value› <;> first | exact .ok (hwords _) | exact hpieces
    | _ => exact hpieces

theorem lines_paired (cs : List Char) (ha : a.Paired p b) :
    p.Alike p.Values (k.lines cs a) (k.lines cs b) := by
  refine (ha.bind _).bind fun vs ws hvs => ?_
  exact (Value.Paired.asFlag (Pairing.optional_at hvs 0)).bind_eq fun keep =>
    .ok (Pairing.values_map_atom _ k.isAtom_wrap)

theorem tabsExpanded_paired (cs : List Char) (ha : a.Paired p b) :
    p.Alike (Value.Paired p) (k.tabsExpanded cs a) (k.tabsExpanded cs b) := by
  refine (ha.bind _).bind fun vs ws hvs => ?_
  exact Pairing.alike_optional (Pairing.optional_at hvs 0) (fun _ _ hv => hv.asInt) fun size =>
    .ok (k.wrap_paired _)

theorem joined_paired (hp : h.Paired p h') (cs : List Char) (ha : a.Paired p b) :
    p.Alike (Value.Paired p) (k.joined h cs a) (k.joined h' cs b) := by
  refine (ha.bind _).bind fun vs ws hvs => Pairing.alike_one hvs fun v w hv => ?_
  refine (hp.elements hv).bind fun _ _ hvs => ?_
  exact (Results.mapM_eq hvs fun _ _ h => k.unwrap_paired h).bind_eq fun parts =>
    .ok (k.wrap_paired _)

/-! ## Tables of characters -/

theorem optional_map_atom {γ : Type} (x : Option γ) {f : γ → Value}
    (h : ∀ x, (f x).isAtom = true) : p.Optional (x.map f) (x.map f) := by
  cases x with
  | none => exact .none
  | some x => exact .some (.atom (h x))

/-- What the entry of a table stands for. -/
theorem alike_entryText {x y : Option Value} : p.Optional x y →
    p.Alike Eq (match x with
      | none => return none
      | some .null => return some []
      | some (.str s) => return some s.toList
      | some v => do
        let n ← v.asIndex
        if 0 ≤ n ∧ n < 0x110000 then return some [Char.ofNat n.toNat] else throw .value)
      (match y with
      | none => return none
      | some .null => return some []
      | some (.str s) => return some s.toList
      | some v => do
        let n ← v.asIndex
        if 0 ≤ n ∧ n < 0x110000 then return some [Char.ofNat n.toNat] else throw .value) := by
  intro hxy
  cases hxy with
  | none => exact .ok rfl
  | @some v w hv =>
    have hcode : p.Alike Eq (do
        let n ← v.asIndex
        if 0 ≤ n ∧ n < 0x110000 then return some [Char.ofNat n.toNat] else throw .value)
        (do
        let n ← w.asIndex
        if 0 ≤ n ∧ n < 0x110000 then return some [Char.ofNat n.toNat] else throw .value) := by
      refine hv.asIndex.bind_eq fun n => ?_
      split
      · exact .ok rfl
      · exact Pairing.alike_error rfl
    cases hv with
    | atom h => cases v <;> first | exact .ok rfl | exact hcode
    | _ => exact hcode

theorem replacement_paired (hp : h.Paired p h') (hv : v.Paired p w) (c : Char) :
    p.Alike Eq (replacement h v c) (replacement h' w c) := by
  have hitems : ∀ {vs ws : Array Value} (i : Nat), p.Values vs.toList ws.toList →
      p.Optional vs[i]? ws[i]? := by
    intro vs ws i h
    rw [← Array.getElem?_toList, ← Array.getElem?_toList]
    exact getElem?_of_forall₂ h i
  cases hv with
  | atom h =>
    cases v with
    | str s => exact alike_entryText (optional_map_atom _ fun _ => rfl)
    | bytes bs => exact alike_entryText (optional_map_atom _ fun _ => rfl)
    | _ => first | exact Pairing.alike_error rfl | cases h
  | dict h => exact alike_entryText (hp.lookup h (.atom rfl))
  | list h => exact alike_entryText (hitems _ (hp.items h))
  | tuple h => exact alike_entryText (getElem?_of_forall₂ h _)
  | _ => exact Pairing.alike_error rfl

theorem textByTable_paired (hp : h.Paired p h') (cs : List Char) (ha : a.Paired p b) :
    p.Alike (Value.Paired p) (textByTable h cs a) (textByTable h' cs b) := by
  refine (ha.bind _).bind fun vs ws hvs => Pairing.alike_one hvs fun v w hv => ?_
  refine (Results.mapM_eq (R := Eq) (List.forall₂_same.mpr fun _ _ => rfl) ?_).bind_eq
    fun parts => .ok (.atom rfl)
  rintro c _ rfl
  exact (replacement_paired hp hv c).bind_eq fun cs => .ok rfl

theorem bytesByTable_paired (cs : List Char) (ha : a.Paired p b) :
    p.Alike (Value.Paired p) (bytesByTable cs a) (bytesByTable cs b) := by
  refine (ha.bind _).bind fun vs ws hvs => Pairing.alike_two hvs ?_
  intro v w hv x y hx
  refine Pairing.alike_optional hx (fun _ _ hv => bytes.unwrap_paired hv) fun deleted => ?_
  have htable : p.Alike (Value.Paired p) _ _ := (bytes.unwrap_paired hv).bind_eq
    (f := fun table => do
      if table.length ≠ 256 then throw .value
      return bytes.wrap ((cs.filter fun c => !deleted.contains c).map fun c =>
        (table[c.toNat]?).getD c))
    (g := fun table => do
      if table.length ≠ 256 then throw .value
      return bytes.wrap ((cs.filter fun c => !deleted.contains c).map fun c =>
        (table[c.toNat]?).getD c)) fun table => by
    dsimp only
    split
    · exact Pairing.alike_error rfl
    · exact .ok (bytes.wrap_paired _)
  cases hv with
  | atom h => cases v <;> first | exact .ok (bytes.wrap_paired _) | exact htable
  | _ => exact htable

theorem tableOfEntries_paired {es es' : Entries} (he : p.Entries es es') :
    p.Alike p.Entries (tableOfEntries es) (tableOfEntries es') := by
  refine (Results.mapM (S := fun d e => d.1.Paired p e.1 ∧ d.2.Paired p e.2) he ?_).bind
    fun _ _ he => .ok (Entries.foldl_insert_paired he .nil)
  rintro ⟨k, v⟩ ⟨k', w⟩ ⟨hk, hv⟩
  dsimp only at hk hv
  cases hk with
  | atom h =>
    cases k with
    | int n => exact .ok ⟨.atom rfl, hv⟩
    | bool b => exact .ok ⟨.atom rfl, hv⟩
    | str s =>
      dsimp only
      split
      · exact .ok ⟨.atom rfl, hv⟩
      · exact Pairing.alike_error rfl
    | _ => exact Pairing.alike_error rfl
  | _ => exact Pairing.alike_error rfl

theorem tableOfTexts_paired (source target deleted : List Char) :
    p.Alike p.Entries (tableOfTexts source target deleted)
      (tableOfTexts source target deleted) := by
  rw [tableOfTexts]
  split
  · exact Pairing.alike_error rfl
  · refine .ok (Entries.foldl_insert_paired ?_ .nil)
    refine List.forall₂_same.mpr fun e he => ?_
    obtain he | he := List.mem_append.mp he
    all_goals
      obtain ⟨x, -, rfl⟩ := List.mem_map.mp he
      exact ⟨.atom rfl, .atom rfl⟩

theorem textTable_paired (hp : h.Paired p h') (ha : a.Paired p b) :
    p.Alike p.Entries (textTable h a) (textTable h' b) := by
  refine (ha.bind _).bind fun vs ws hvs => ?_
  have htexts : ∀ {x x' y y' : Value} {z z' : Option Value}, x.Paired p x' → y.Paired p y' →
      p.Optional z z' → p.Alike p.Entries
        (do
          let deleted ← match z with
            | none => pure []
            | some z => z.asText
          tableOfTexts (← x.asText) (← y.asText) deleted)
        (do
          let deleted ← match z' with
            | none => pure []
            | some z => z.asText
          tableOfTexts (← x'.asText) (← y'.asText) deleted) := by
    intro x x' y y' z z' hx hy hz
    refine Pairing.alike_optional hz (fun _ _ hv => hv.asText) fun deleted => ?_
    refine hx.asText.bind_eq fun source => ?_
    exact hy.asText.bind_eq fun target => tableOfTexts_paired source target deleted
  dsimp only
  split
  · cases hvs with
    | cons hx hvs =>
      cases hx with
      | some hx =>
        cases hx with
        | atom h => cases h
        | dict hr =>
          obtain _ | ⟨_ | _, _ | ⟨_ | _, _ | _⟩⟩ := hvs
          exact tableOfEntries_paired (hp.entries hr)
  · obtain _ | ⟨⟨hx⟩, _ | ⟨⟨hy⟩, _ | ⟨hz, ⟨⟩⟩⟩⟩ := hvs
    have htexts := htexts hx hy hz
    cases hz
    all_goals
      dsimp only
      split
      · next heq => cases heq
      · next heq =>
        cases heq
        exact htexts
      · next hno => exact absurd rfl (hno _ _ _)
  · next hno hno' =>
    split
    · obtain _ | ⟨hx | _, _ | ⟨_ | _, _ | ⟨_ | _, _ | _⟩⟩⟩ := hvs
      cases hx with
      | atom h => cases h
      | dict hr => exact absurd rfl (hno _)
    · obtain _ | ⟨hx | _, _ | ⟨hy | _, _ | ⟨hz, _ | _⟩⟩⟩ := hvs
      exact absurd rfl (hno' _ _ _)
    · exact Pairing.alike_error rfl

theorem bytesTable_paired (ha : a.Paired p b) :
    p.Alike (Value.Paired p) (bytesTable a) (bytesTable b) := by
  refine (ha.bind _).bind fun vs ws hvs => ?_
  obtain _ | ⟨hx | _, _ | ⟨hy | _, _ | ⟨_, _⟩⟩⟩ := hvs
  all_goals try exact Pairing.alike_error rfl
  refine (bytes.unwrap_paired hx).bind_eq fun source => ?_
  refine (bytes.unwrap_paired hy).bind_eq fun target => ?_
  dsimp only
  split
  · exact Pairing.alike_error rfl
  · exact .ok (bytes.wrap_paired _)

/-! ## Encoding -/

theorem nameArgument_paired {x y : Option Value} (default : String) (hx : p.Optional x y) :
    p.Alike Eq (nameArgument default x) (nameArgument default y) := by
  cases hx with
  | none => exact .ok rfl
  | some hv =>
    cases hv with
    | atom h => cases ‹Value› <;> first | exact .ok rfl | exact Pairing.alike_error rfl
    | _ => exact Pairing.alike_error rfl

theorem encoded_paired (s : List Char) (ha : a.Paired p b) :
    p.Alike (Value.Paired p) (encoded s a) (encoded s b) := by
  refine (ha.bind _).bind fun vs ws hvs => ?_
  refine (nameArgument_paired _ (Pairing.optional_at hvs 0)).bind_eq fun name => ?_
  refine (nameArgument_paired _ (Pairing.optional_at hvs 1)).bind_eq fun handler => ?_
  split
  · exact Pairing.alike_error rfl
  · split
    · exact .ok (.atom rfl)
    · split <;> exact Pairing.alike_error rfl

theorem decodedBy_paired (bs : List UInt8) (name handler : String) :
    p.Alike (Value.Paired p) (decodedBy bs name handler) (decodedBy bs name handler) := by
  rw [decodedBy]
  split
  · exact .ok (.atom rfl)
  · split
    · exact Pairing.alike_error rfl
    · split
      · exact .ok (.atom rfl)
      · split <;> exact Pairing.alike_error rfl

theorem decoded_paired (bs : List UInt8) (ha : a.Paired p b) :
    p.Alike (Value.Paired p) (decoded bs a) (decoded bs b) := by
  refine (ha.bind _).bind fun vs ws hvs => ?_
  refine (nameArgument_paired _ (Pairing.optional_at hvs 0)).bind_eq fun name => ?_
  exact (nameArgument_paired _ (Pairing.optional_at hvs 1)).bind_eq fun handler =>
    decodedBy_paired bs name handler

/-- A separator is one character. -/
theorem alike_separator (cs : List Char) :
    p.Alike Eq
      (match cs with
        | [c] => if c.toNat < 128 then return c else throw .value
        | _ => throw .value)
      (match cs with
        | [c] => if c.toNat < 128 then return c else throw .value
        | _ => throw .value) := by
  split
  · split
    · exact .ok rfl
    · exact Pairing.alike_error rfl
  · exact Pairing.alike_error rfl

theorem hexSeparator_paired (hp : h.Paired p h') (hv : v.Paired p w) :
    p.Alike Eq (hexSeparator h v) (hexSeparator h' w) := by
  refine (hp.elements hv).bind fun vs ws hvs => ?_
  rw [hvs.length_eq]
  dsimp only
  split
  · exact Pairing.alike_error rfl
  · have htext := hv.asText.bind_eq alike_separator
    cases hv with
    | atom h => cases v <;> first | exact alike_separator _ | exact htext
    | _ => exact htext

theorem hexText_paired (hp : h.Paired p h') (cs : List Char) (ha : a.Paired p b) :
    p.Alike (Value.Paired p) (hexText h cs a) (hexText h' cs b) := by
  refine (ha.bind _).bind fun vs ws hvs => ?_
  refine Pairing.alike_optional (Pairing.optional_at hvs 1) (fun _ _ hv => hv.asInt) fun group => ?_
  have hsep := Pairing.optional_at hvs 0
  dsimp only
  generalize vs[0]?.join = x, ws[0]?.join = y at hsep ⊢
  cases hsep with
  | none => exact .ok (.atom rfl)
  | some hv =>
    refine (hexSeparator_paired hp hv).bind_eq fun c => ?_
    split <;> exact .ok (.atom rfl)

theorem bytesOfHex_paired (cs : List Char) : p.Alike Eq (bytesOfHex cs) (bytesOfHex cs) := by
  fun_induction bytesOfHex cs with
  | case1 => exact .ok rfl
  | case2 => exact .ok rfl
  | case3 => exact Pairing.alike_error rfl
  | case4 c d cs _ ih => exact ih
  | case5 c d cs _ _ ih => exact ih.bind_eq fun cs => .ok rfl
  | case6 => exact Pairing.alike_error rfl

end TextKind

/-! ## Calling -/

namespace Value

/-- Answers of one kind that hold what goes together. -/
inductive Answer.Paired (p : Pairing) : Answer → Answer → Prop
  | value {v w : Value} (h : v.Paired p w) : Paired p (.value v) (.value w)
  | items {vs ws : List Value} (h : p.Values vs ws) : Paired p (.items vs) (.items ws)
  | entries {es es' : Wording.Entries} (h : p.Entries es es') :
      Paired p (.entries es) (.entries es')

/-- **A method of a text answers alike on arguments that go together.** -/
theorem callTextMethod_paired {h h' : Heap} (hp : h.Paired p h') (k : TextKind) (cs : List Char)
    (m : Method) {a b : Arguments} (ha : a.Paired p b) :
    p.Alike (Answer.Paired p) (callTextMethod h k cs m a) (callTextMethod h' k cs m b) := by
  have plain : ∀ {x y : Except Failure Value}, p.Alike (Value.Paired p) x y →
      p.Alike (Answer.Paired p) (x.map Answer.value) (y.map Answer.value) :=
    fun hxy => hxy.map fun _ _ h => .value h
  have listed : ∀ {x y : Except Failure (List Value)}, p.Alike p.Values x y →
      p.Alike (Answer.Paired p) (x.map Answer.items) (y.map Answer.items) :=
    fun hxy => hxy.map fun _ _ h => .items h
  have alone : ∀ {v : Value}, v.isAtom = true → p.Alike (Answer.Paired p)
      ((((Parameters.byPosition 0 0).bind a).map fun _ => v).map Answer.value)
      ((((Parameters.byPosition 0 0).bind b).map fun _ => v).map Answer.value) :=
    fun hv => plain ((ha.bind _).map fun _ _ _ => .atom hv)
  cases m with
  | capitalize | casefold | lower | swapCase | title | upper => exact alone (k.isAtom_wrap _)
  | isAlnum | isAlpha | isAscii | isDecimal | isDigit | isIdentifier | isLower | isNumeric
  | isPrintable | isSpace | isTitle | isUpper => exact alone rfl
  | center | ljust | rjust => exact plain (k.padded_paired _ cs ha)
  | count => exact plain (k.occurrences_paired cs ha)
  | find | rfind =>
    refine plain ((k.position?_paired _ cs ha).bind_eq fun i => ?_)
    cases i <;> exact .ok (.atom rfl)
  | index | rindex =>
    refine plain ((k.position?_paired _ cs ha).bind_eq fun i => ?_)
    cases i with
    | none => exact Pairing.alike_error rfl
    | some i => exact .ok (.atom rfl)
  | startsWith => exact plain (k.touches_paired false cs ha)
  | endsWith => exact plain (k.touches_paired true cs ha)
  | expandTabs => exact plain (k.tabsExpanded_paired cs ha)
  | join => exact plain (k.joined_paired hp cs ha)
  | strip | lstrip | rstrip => exact plain (k.stripped_paired _ _ cs ha)
  | partition | rpartition => exact plain (k.partitioned_paired _ cs ha)
  | cutStart | cutEnd => exact plain (k.cut_paired _ cs ha)
  | replace => exact plain (k.replaced_paired cs ha)
  | split | rsplit => exact listed (k.pieces_paired _ cs ha)
  | splitLines => exact listed (k.lines_paired cs ha)
  | zfill => exact plain (k.zeroFilled_paired cs ha)
  | replaceChars =>
    cases k with
    | text => exact plain (TextKind.textByTable_paired hp cs ha)
    | bytes => exact plain (TextKind.bytesByTable_paired cs ha)
  | maketrans =>
    cases k with
    | text => exact (TextKind.textTable_paired hp ha).map fun _ _ h => .entries h
    | bytes => exact plain (TextKind.bytesTable_paired ha)
  | encode => exact plain (TextKind.encoded_paired cs ha)
  | decode => exact plain (TextKind.decoded_paired _ ha)
  | hex => exact plain (TextKind.hexText_paired hp cs ha)
  | fromHex =>
    refine plain ((ha.bind _).bind fun vs ws hvs => Pairing.alike_one hvs fun v w hv => ?_)
    refine hv.asText.bind_eq fun cs => ?_
    exact (TextKind.bytesOfHex_paired cs).bind_eq fun bs => .ok (.atom rfl)
  | _ => exact Pairing.alike_error rfl

end Value

end Wording
