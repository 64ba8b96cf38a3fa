import Wording.Proofs.Paired.TextMethods
import Wording.Value.NumberMethods

/-!
# Numbers and formats on values that go together

Arithmetic knows numbers only, which are the same on both sides; all that is to be shown is that it
fails in ordinary ways. Methods of numbers and rounding read numbers, texts and flags off their
arguments. A format takes its arguments one after the other, or entries of a mapping.

* `Number.alike_apply`: operators
* `callNumberMethod_paired`, `round_paired`
* `Percent.text_paired`, `Percent.bytes_paired`
-/

namespace Wording

variable {p : Pairing}

/-! ## Arithmetic -/

theorem alike_floatOfInt (n : Int) : p.Alike Eq (floatOfInt n) (floatOfInt n) := by
  rw [floatOfInt]
  split
  · exact .ok rfl
  · exact Pairing.alike_error rfl

theorem alike_complexDiv (a b c d : Float) :
    p.Alike Eq (complexDiv a b c d) (complexDiv a b c d) := by
  rw [complexDiv]
  split
  · split
    · exact Pairing.alike_error rfl
    · exact .ok rfl
  · split <;> exact .ok rfl

theorem alike_complexAbs (re im : Float) : p.Alike Eq (complexAbs re im) (complexAbs re im) := by
  unfold complexAbs
  split
  · exact .ok rfl
  · exact .ok rfl
  · exact .ok rfl
  · exact .ok rfl
  · exact Pairing.alike_guard rfl (.ok rfl)

namespace Number

theorem isAtom_toValue (n : Number) : n.toValue.isAtom = true := by cases n <;> rfl

theorem alike_toFloat (n : Number) : p.Alike Eq n.toFloat n.toFloat := by
  cases n with
  | int n => exact alike_floatOfInt n
  | float x => exact .ok rfl
  | complex re im => exact Pairing.alike_error rfl

theorem alike_toComplex (n : Number) : p.Alike Eq n.toComplex n.toComplex := by
  cases n with
  | complex re im => exact .ok rfl
  | int n => exact (alike_toFloat _).bind_eq fun x => .ok rfl
  | float x => exact (alike_toFloat _).bind_eq fun x => .ok rfl

theorem alike_widen {ints : Int → Int → Except Failure Number}
    {floats : Float → Float → Except Failure Number}
    {complexes : Float × Float → Float × Float → Except Failure Number}
    (hi : ∀ m n, p.Alike Eq (ints m n) (ints m n))
    (hf : ∀ x y, p.Alike Eq (floats x y) (floats x y))
    (hc : ∀ x y, p.Alike Eq (complexes x y) (complexes x y)) (a b : Number) :
    p.Alike Eq (widen ints floats complexes a b) (widen ints floats complexes a b) := by
  unfold widen
  split
  · exact hi _ _
  · exact (alike_toComplex _).bind_eq fun x => (alike_toComplex _).bind_eq fun y => hc x y
  · exact (alike_toComplex _).bind_eq fun x => (alike_toComplex _).bind_eq fun y => hc x y
  · exact (alike_toFloat _).bind_eq fun x => (alike_toFloat _).bind_eq fun y => hf x y

theorem alike_div (a b : Number) : p.Alike Eq (div a b) (div a b) := by
  refine alike_widen (fun m n => ?_) (fun x y => ?_) (fun x y => ?_) a b
  · split
    · exact Pairing.alike_error rfl
    · split
      · exact .ok rfl
      · exact Pairing.alike_error rfl
  · exact Pairing.alike_guard rfl (.ok rfl)
  · exact (alike_complexDiv _ _ _ _).bind_eq fun z => .ok rfl

theorem alike_floorDiv (a b : Number) : p.Alike Eq (floorDiv a b) (floorDiv a b) :=
  alike_widen (fun _ _ => Pairing.alike_guard rfl (.ok rfl))
    (fun _ _ => Pairing.alike_guard rfl (.ok rfl)) (fun _ _ => Pairing.alike_error rfl) a b

theorem alike_mod (a b : Number) : p.Alike Eq (mod a b) (mod a b) :=
  alike_widen (fun _ _ => Pairing.alike_guard rfl (.ok rfl))
    (fun _ _ => Pairing.alike_guard rfl (.ok rfl)) (fun _ _ => Pairing.alike_error rfl) a b

theorem alike_abs (n : Number) : p.Alike Eq n.abs n.abs := by
  cases n with
  | int n => exact .ok rfl
  | float x => exact .ok rfl
  | complex re im => exact (alike_complexAbs re im).bind_eq fun x => .ok rfl

end Number

/-! ## Methods of numbers -/

theorem bigEnd_paired {x y : Option Value} (hx : p.Optional x y) :
    p.Alike Eq (bigEnd x) (bigEnd y) := by
  cases hx with
  | none => exact .ok rfl
  | some hv =>
    cases hv with
    | atom h =>
      unfold bigEnd
      split
      · exact .ok rfl
      · exact .ok rfl
      · exact .ok rfl
      · exact Pairing.alike_error rfl
      · exact Pairing.alike_error rfl
    | _ => exact Pairing.alike_error rfl

section

variable {h h' : Heap} {a b : Arguments}

theorem isSigned_paired (hp : h.Paired p h') {x y : Option Value} (hx : p.Optional x y) :
    isSigned h x = isSigned h' y := by
  cases hx with
  | none => rfl
  | some hv => exact hp.truthy hv

theorem intBytes_paired (hp : h.Paired p h') (n : Int) (ha : a.Paired p b) :
    p.Alike (Value.Paired p) (intBytes h n a) (intBytes h' n b) := by
  refine (ha.bind _).bind fun vs ws hvs => ?_
  refine Pairing.alike_optional (Pairing.optional_at hvs 0) (fun _ _ hv => hv.asSize)
    fun length => ?_
  refine (bigEnd_paired (Pairing.optional_at hvs 1)).bind_eq fun big => ?_
  dsimp only
  rw [isSigned_paired hp (Pairing.optional_at hvs 2)]
  exact Pairing.alike_guard rfl (Pairing.alike_guard rfl (.ok (.atom rfl)))

/-- An item that is read as a byte. -/
theorem alike_byte {v w : Value} (hv : v.Paired p w) :
    p.Alike Eq (do
        let n ← v.asIndex
        if n < 0 ∨ 256 ≤ n then throw Failure.value
        return n.toNat)
      (do
        let n ← w.asIndex
        if n < 0 ∨ 256 ≤ n then throw Failure.value
        return n.toNat) := by
  exact hv.asIndex.bind_eq fun n => Pairing.alike_guard rfl (.ok rfl)

theorem intOfBytes_paired (hp : h.Paired p h') (ha : a.Paired p b) :
    p.Alike (Value.Paired p) (intOfBytes h a) (intOfBytes h' b) := by
  refine (ha.bind _).bind fun vs ws hvs => Pairing.alike_three hvs ?_
  intro v w hv order order' horder signed signed' hsigned
  refine (bigEnd_paired horder).bind_eq fun big => ?_
  dsimp only
  rw [isSigned_paired hp hsigned]
  have hbytes : ∀ {vs ws : List Value}, p.Values vs ws → p.Alike Eq _ _ :=
    fun hvs => Results.mapM_eq hvs fun _ _ hv => alike_byte hv
  cases hv with
  | atom h =>
    cases v with
    | bytes bs =>
      exact (hbytes (Pairing.values_map_atom bs fun _ => rfl)).bind_eq fun bs => .ok (.atom rfl)
    | _ => first | exact Pairing.alike_error rfl | cases h
  | list hr => exact (hbytes (hp.items hr)).bind_eq fun bs => .ok (.atom rfl)
  | tuple hvs => exact (hbytes hvs).bind_eq fun bs => .ok (.atom rfl)
  | dict hr =>
    exact (hbytes (List.rel_map (fun _ _ h => h.1) (hp.entries hr))).bind_eq fun bs =>
      .ok (.atom rfl)
  | _ => exact Pairing.alike_error rfl

theorem floatRatio_paired (x : Float) :
    p.Alike (Value.Paired p) (floatRatio x) (floatRatio x) := by
  rw [floatRatio]
  split
  · exact Pairing.alike_error rfl
  · exact Pairing.alike_error rfl
  · exact .ok (.tuple (.cons (.atom rfl) (.cons (.atom rfl) .nil)))

theorem floatOfHex_paired (cs : List Char) :
    p.Alike (Value.Paired p) (floatOfHex cs) (floatOfHex cs) := by
  have hfloat (x : Float) : p.Alike (Value.Paired p) (.ok (.float x)) (.ok (.float x)) :=
    .ok (.atom rfl)
  unfold floatOfHex
  obtain ⟨negative, cs⟩ := Decimal.readSign (Text.trimBoth Text.isAsciiBlank cs)
  refine Pairing.alike_ite (hfloat _) (Pairing.alike_ite (hfloat _) ?_)
  -- What the digits are does not matter from here on.
  extract_lets cs whole rest
  clear_value cs whole rest
  split
  refine Pairing.alike_guard rfl ?_
  split
  · exact Pairing.alike_error rfl
  · refine Pairing.alike_ite (hfloat _) (Pairing.alike_guard rfl (Pairing.alike_ite (hfloat _) ?_))
    exact Pairing.alike_guard rfl (hfloat _)

/-! ## Rounding -/

theorem alike_roundFloat (x : Float) (places : Int) :
    p.Alike Eq (roundFloat x places) (roundFloat x places) := by
  unfold roundFloat
  split
  · exact .ok rfl
  · exact .ok rfl
  · split
    · exact .ok rfl
    · split
      · exact .ok rfl
      · exact Pairing.alike_guard rfl (.ok rfl)

theorem alike_roundToInt (x : Float) : p.Alike Eq (roundToInt x) (roundToInt x) := by
  unfold roundToInt
  split
  · exact Pairing.alike_error rfl
  · exact Pairing.alike_error rfl
  · exact .ok rfl

theorem round_paired (ha : a.Paired p b) : p.Alike (Value.Paired p) (round a) (round b) := by
  refine (ha.bind _).bind fun vs ws hvs => Pairing.alike_two hvs ?_
  intro v w hv places places' hplaces
  have hplaces := Value.Paired.asPosition? hplaces
  have hindex := hv.asIndex
  cases hv with
  | atom h =>
    cases v with
    | float x =>
      refine hplaces.bind_eq fun n => ?_
      cases n with
      | none => exact (alike_roundToInt x).bind_eq fun n => .ok (.atom rfl)
      | some n => exact (alike_roundFloat x n).bind_eq fun y => .ok (.atom rfl)
    | int n => exact hplaces.bind_eq fun places => hindex.bind_eq fun n => .ok (.atom rfl)
    | bool n => exact hplaces.bind_eq fun places => hindex.bind_eq fun n => .ok (.atom rfl)
    | _ => exact Pairing.alike_error rfl
  | _ => exact Pairing.alike_error rfl

/-! ## Calling -/

/-- What needs no arguments. -/
theorem Arguments.Paired.alone (ha : a.Paired p b) {r r' : Except Failure Value}
    (hr : p.Alike (Value.Paired p) r r') :
    p.Alike (Value.Paired p) ((Parameters.byPosition 0 0).bind a >>= fun _ => r)
      ((Parameters.byPosition 0 0).bind b >>= fun _ => r') :=
  (ha.bind _).bind fun _ _ _ => hr

/-- The methods of whole numbers. -/
theorem alike_wholeMethod (hp : h.Paired p h') {v w : Value} (hv : v.Paired p w) (m : Method)
    (ha : a.Paired p b) :
    p.Alike (Value.Paired p)
      (do
        let n ← v.asIndex
        match m with
        | .conjugate => (Parameters.byPosition 0 0).bind a >>= fun _ => .ok (.int n)
        | .asIntegerRatio =>
          (Parameters.byPosition 0 0).bind a >>= fun _ => .ok (.tuple [.int n, .int 1])
        | .bitLength =>
          (Parameters.byPosition 0 0).bind a >>= fun _ => .ok (.ofNat (bitLength n.natAbs))
        | .bitCount =>
          (Parameters.byPosition 0 0).bind a >>= fun _ => .ok (.ofNat (bitCount n.natAbs))
        | .toBytes => intBytes h n a
        | _ => throw .type)
      (do
        let n ← w.asIndex
        match m with
        | .conjugate => (Parameters.byPosition 0 0).bind b >>= fun _ => .ok (.int n)
        | .asIntegerRatio =>
          (Parameters.byPosition 0 0).bind b >>= fun _ => .ok (.tuple [.int n, .int 1])
        | .bitLength =>
          (Parameters.byPosition 0 0).bind b >>= fun _ => .ok (.ofNat (bitLength n.natAbs))
        | .bitCount =>
          (Parameters.byPosition 0 0).bind b >>= fun _ => .ok (.ofNat (bitCount n.natAbs))
        | .toBytes => intBytes h' n b
        | _ => throw .type) := by
  refine hv.asIndex.bind_eq fun n => ?_
  cases m with
  | conjugate => exact ha.alone (.ok (.atom rfl))
  | asIntegerRatio => exact ha.alone (.ok (.tuple (.cons (.atom rfl) (.cons (.atom rfl) .nil))))
  | bitLength => exact ha.alone (.ok (.atom rfl))
  | bitCount => exact ha.alone (.ok (.atom rfl))
  | toBytes => exact intBytes_paired hp n ha
  | _ => exact Pairing.alike_error rfl

theorem callNumberMethod_paired (hp : h.Paired p h') {v w : Value} (hv : v.Paired p w)
    (m : Method) (ha : a.Paired p b) :
    p.Alike (Value.Paired p) (callNumberMethod h v m a) (callNumberMethod h' w m b) := by
  have hwhole := alike_wholeMethod hp hv m ha
  cases hv with
  | atom hatom =>
    cases v with
    | float x =>
      cases m with
      | conjugate => exact ha.alone (.ok (.atom rfl))
      | asIntegerRatio => exact ha.alone (floatRatio_paired x)
      | isInteger => exact ha.alone (.ok (.atom rfl))
      | hex => exact ha.alone (.ok (.atom rfl))
      | _ => exact hwhole
    | complex re im =>
      cases m with
      | conjugate => exact ha.alone (.ok (.atom rfl))
      | _ => exact hwhole
    | _ => exact hwhole
  | _ => exact hwhole

end

/-! ## Formats -/

namespace Percent

variable {h h' : Heap} {v w : Value} (bytes : Bool)

theorem wholeOf_paired (hv : v.Paired p w) (base : Nat) :
    p.Alike Eq (wholeOf base v) (wholeOf base w) := by
  cases hv with
  | atom h =>
    cases v with
    | int n => exact .ok rfl
    | bool b => exact .ok rfl
    | float x =>
      refine Pairing.alike_guard rfl ?_
      split
      · exact Pairing.alike_error rfl
      · exact Pairing.alike_error rfl
      · exact .ok rfl
    | _ => exact Pairing.alike_error rfl
  | _ => exact Pairing.alike_error rfl

theorem alike_wholeDigits (base n : Nat) :
    p.Alike Eq (wholeDigits base n) (wholeDigits base n) := by
  rw [wholeDigits]
  split
  · exact (alike_intText n).bind_eq fun text => .ok rfl
  · exact .ok rfl

theorem fillWhole_paired (hv : v.Paired p w) (s : Spec) (base : Nat) (upper : Bool) :
    p.Alike Eq (fillWhole s base upper v) (fillWhole s base upper w) :=
  (wholeOf_paired hv base).bind_eq fun n =>
    (alike_wholeDigits base n.natAbs).bind_eq fun _ => .ok rfl

theorem realOf_paired (hv : v.Paired p w) : p.Alike Eq (realOf bytes v) (realOf bytes w) := by
  rw [realOf, realOf, hv.ofValue?]
  split
  · next n _ =>
    have hfloat : p.Alike Eq n.toFloat n.toFloat := n.alike_toFloat
    generalize n.toFloat = x at hfloat
    cases hfloat with
    | ok h => exact .ok h
    | error h =>
      cases bytes with
      | false => exact .error h
      | true => exact Pairing.alike_error (f := .type) rfl
  · exact Pairing.alike_error rfl

theorem fillReal_paired (hv : v.Paired p w) (s : Spec) (form : Char) (upper : Bool) :
    p.Alike Eq (fillReal bytes s form upper v) (fillReal bytes s form upper w) :=
  (realOf_paired bytes hv).bind_eq fun _ => .ok rfl

theorem charOf_paired (hv : v.Paired p w) : p.Alike Eq (charOf bytes v) (charOf bytes w) := by
  cases hv with
  | atom h =>
    have hindex := (Value.Paired.atom (p := p) h).asIndex
    unfold charOf
    split
    · split
      · exact .ok rfl
      · exact Pairing.alike_error rfl
    · split
      · exact .ok rfl
      · exact Pairing.alike_error rfl
    · generalize Value.asIndex _ = x at hindex
      cases hindex with
      | ok h => exact Pairing.alike_guard rfl (.ok rfl)
      | error h => exact .error h
  | _ => exact Pairing.alike_error rfl

/-- Fills one conversion with arguments that go together. -/
theorem convert_paired (hp : h.Paired p h') (hv : v.Paired p w) (s : Spec) (c : Conversion) :
    p.Alike Eq (convert h bytes s c v) (convert h' bytes s c w) := by
  cases c with
  | display =>
    cases bytes with
    | false => exact (hp.display hv).bind_eq fun text => .ok rfl
    | true =>
      cases hv with
      | atom h => cases v <;> first | exact .ok rfl | exact Pairing.alike_error rfl
      | _ => exact Pairing.alike_error rfl
  | repr => exact (hp.repr hv).bind_eq fun text => .ok rfl
  | ascii => exact (hp.repr hv).bind_eq fun text => .ok rfl
  | char => exact (charOf_paired bytes hv).bind_eq fun c => .ok rfl
  | whole base upper => exact fillWhole_paired hv s base upper
  | real form upper => exact fillReal_paired bytes hv s form upper

/-! ## Reading a format -/

/-- Arguments and a mapping that go together. -/
structure Supply.Paired (p : Pairing) (s t : Supply) : Prop where
  rest : p.Values s.rest t.rest
  mapping : p.Optional s.mapping t.mapping

theorem Supply.ofValue_paired (hv : v.Paired p w) :
    (Supply.ofValue bytes v).Paired p (Supply.ofValue bytes w) := by
  have hone := List.Forall₂.cons hv .nil
  cases hv with
  | atom h =>
    cases v with
    | bytes bs =>
      cases bytes with
      | false => exact ⟨hone, .some (.atom rfl)⟩
      | true => exact ⟨hone, .none⟩
    | _ => first | exact ⟨hone, .none⟩ | cases h
  | tuple h => exact ⟨h, .none⟩
  | dict h => exact ⟨hone, .some (.dict h)⟩
  | list h => exact ⟨hone, .some (.list h)⟩
  | _ => exact ⟨hone, .none⟩

variable {s t : Supply}

theorem Supply.Paired.next (hs : s.Paired p t) :
    p.Alike (fun x y => x.1.Paired p y.1 ∧ x.2.Paired p y.2) s.next t.next := by
  have hrest := hs.rest
  rw [Supply.next, Supply.next]
  generalize s.rest = vs, t.rest = ws at hrest
  cases hrest with
  | nil => exact Pairing.alike_error rfl
  | cons hv hvs => exact .ok ⟨hv, ⟨hvs, hs.mapping⟩⟩

theorem entryOf_paired (hp : h.Paired p h') (hv : v.Paired p w) (name : List Char) :
    p.Alike (Value.Paired p) (entryOf h bytes v name) (entryOf h' bytes w name) := by
  cases hv with
  | dict hr =>
    have hfind := hp.lookup hr (.atom (v := if bytes then
      Value.bytes (name.map fun c => UInt8.ofNat c.toNat) else Value.ofChars name)
      (by cases bytes <;> rfl))
    rw [entryOf, entryOf]
    generalize h.lookup _ _ = x, h'.lookup _ _ = y at hfind
    cases hfind with
    | none => exact Pairing.alike_error rfl
    | some hv => exact .ok hv
  | atom h => cases v <;> first | exact Pairing.alike_error rfl | cases h
  | _ => exact Pairing.alike_error rfl

/-- What reading a format leaves: the same, but for a supply that goes together. -/
def Left (p : Pairing) {α β : Type} (x y : α × Supply × β) : Prop :=
  x.1 = y.1 ∧ x.2.1.Paired p y.2.1 ∧ x.2.2 = y.2.2

theorem readSize_paired (hs : s.Paired p t) (bound : Int) (cs : List Char) :
    p.Alike (Left p) (readSize bound s cs) (readSize bound t cs) := by
  unfold readSize
  split
  · refine hs.next.bind ?_
    rintro ⟨v, s⟩ ⟨w, t⟩ ⟨hv, hs⟩
    exact hv.asIndex.bind_eq fun n => Pairing.alike_guard rfl (.ok ⟨rfl, hs, rfl⟩)
  · exact Pairing.alike_guard rfl (.ok ⟨rfl, hs, rfl⟩)

theorem readWidth_paired (hs : s.Paired p t) (spec : Spec) (cs : List Char) :
    p.Alike (Left p) (readWidth spec s cs) (readWidth spec t cs) := by
  refine (readSize_paired hs _ cs).bind ?_
  rintro ⟨n, s, cs⟩ ⟨_, t, _⟩ ⟨rfl, hs, rfl⟩
  exact .ok ⟨rfl, hs, rfl⟩

theorem readPrecision_paired (hs : s.Paired p t) (spec : Spec) (cs : List Char) :
    p.Alike (Left p) (readPrecision spec s cs) (readPrecision spec t cs) := by
  unfold readPrecision
  split
  · refine (readSize_paired hs _ _).bind ?_
    rintro ⟨n, s, cs⟩ ⟨_, t, _⟩ ⟨rfl, hs, rfl⟩
    exact .ok ⟨rfl, hs, rfl⟩
  · exact .ok ⟨rfl, hs, rfl⟩

theorem readKey_paired (hp : h.Paired p h') (hs : s.Paired p t) (cs : List Char) :
    p.Alike (fun x y => x.1.Paired p y.1 ∧ x.2 = y.2) (readKey h bytes s cs)
      (readKey h' bytes t cs) := by
  have hmapping := hs.mapping
  unfold readKey
  split
  · generalize s.mapping = x, t.mapping = y at hmapping
    cases hmapping with
    | none => exact Pairing.alike_error rfl
    | some hm =>
      dsimp only
      split
      · exact Pairing.alike_error rfl
      · refine (entryOf_paired bytes hp hm _).bind fun v w hv => ?_
        exact .ok ⟨⟨.cons hv .nil, .some hm⟩, rfl⟩
  · exact .ok ⟨hs, rfl⟩

theorem fillConversion_paired (hp : h.Paired p h') (hs : s.Paired p t) (cs : List Char) :
    p.Alike (Left p) (fillConversion h bytes s cs) (fillConversion h' bytes t cs) := by
  refine (readKey_paired bytes hp hs cs).bind ?_
  rintro ⟨s, cs⟩ ⟨t, _⟩ ⟨hs, rfl⟩
  refine (readWidth_paired hs _ _).bind ?_
  rintro ⟨spec, s, cs⟩ ⟨_, t, _⟩ ⟨rfl, hs, rfl⟩
  refine (readPrecision_paired hs _ _).bind ?_
  rintro ⟨spec, s, cs⟩ ⟨_, t, _⟩ ⟨rfl, hs, rfl⟩
  dsimp only
  split
  · exact Pairing.alike_error rfl
  · refine hs.next.bind ?_
    rintro ⟨v, s⟩ ⟨w, t⟩ ⟨hv, hs⟩
    dsimp only
    split
    · split <;> exact Pairing.alike_error rfl
    · exact (convert_paired bytes hp hv _ _).bind_eq fun text => .ok ⟨rfl, hs, rfl⟩

theorem fillOne_paired (hp : h.Paired p h') (hs : s.Paired p t) (cs : List Char) :
    p.Alike (Left p) (fillOne h bytes s cs) (fillOne h' bytes t cs) := by
  unfold fillOne
  split
  · exact .ok ⟨rfl, hs, rfl⟩
  · exact fillConversion_paired bytes hp hs _

theorem fill_paired (hp : h.Paired p h') (fuel : Nat) (hs : s.Paired p t) (cs : List Char) :
    p.Alike Eq (fill h bytes fuel s cs) (fill h' bytes fuel t cs) := by
  induction fuel generalizing s t cs with
  | zero => cases cs <;> exact Pairing.alike_error rfl
  | succ fuel ih =>
    cases cs with
    | nil =>
      have hmapping := hs.mapping
      have hrest := hs.rest
      show p.Alike Eq
        (if s.mapping.isNone && !s.rest.isEmpty then .error .type else .ok [])
        (if t.mapping.isNone && !t.rest.isEmpty then .error .type else .ok [])
      generalize s.mapping = x, t.mapping = y at hmapping
      generalize s.rest = vs, t.rest = ws at hrest
      cases hmapping with
      | some _ => exact .ok rfl
      | none =>
        cases hrest with
        | nil => exact .ok rfl
        | cons _ _ => exact Pairing.alike_error rfl
    | cons c cs =>
      rw [fill, fill]
      split
      · refine (fillOne_paired bytes hp hs cs).bind ?_
        rintro ⟨text, s, cs⟩ ⟨_, t, _⟩ ⟨rfl, hs, rfl⟩
        exact (ih hs cs).bind_eq fun rest => .ok rfl
      · exact (ih hs cs).bind_eq fun rest => .ok rfl

/-- **A format is filled alike with arguments that go together.** -/
theorem text_paired (hp : h.Paired p h') (format : String) (hv : v.Paired p w) :
    p.Alike Eq (text h format v) (text h' format w) :=
  (fill_paired false hp _ (Supply.ofValue_paired false hv) _).bind_eq fun _ => .ok rfl

theorem bytes_paired (hp : h.Paired p h') (format : List UInt8) (hv : v.Paired p w) :
    p.Alike Eq (Percent.bytes h format v) (Percent.bytes h' format w) :=
  (fill_paired true hp _ (Supply.ofValue_paired true hv) _).bind_eq fun _ => .ok rfl

end Percent

end Wording
