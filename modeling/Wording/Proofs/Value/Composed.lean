import Wording.Proofs.Outcome
import Wording.Value.Call

/-!
# Computations that are put together

Operations on values, methods and helpers are put together from few steps: a result, a failure, a
look at the heap, a new cell behind all that is there, and other items for a list. What holds of
these steps, and of two computations one behind the other if it holds of both, holds of all of them.

* `Eval.Composes`: a property of computations that is carried on
* `Eval.Composes.getItem`, `Eval.Composes.binary`, …: operations on values
* `Eval.Composes.invoke`: calls
-/

namespace Wording

/-- Only an entry or a position that is not there is caught. -/
theorem getItemOrNull_eq (v k : Value) : getItemOrNull v k = tryCatch (getItem v k) fun
    | .failure .key | .failure .index => pure .null
    | e => throw e := by
  unfold getItemOrNull
  funext h
  show outcome _ h = outcome _ h
  rw [outcome_tryCatch, outcome_bind, outcome_tryCatch (ε := Fault) (σ := Heap)
    (α := Except Value Value) (getItem v k >>= fun r => ExceptT.run (pure r)), outcome_bind]
  cases outcome (getItem v k) h with
  | mk r s =>
    cases r with
    | ok w => rfl
    | error e =>
      cases e with
      | failure f => cases f <;> rfl
      | _ => rfl

/-- A property that holds of results, failures and looks at the heap, and is carried on from
computations to those that go on behind them. What is caught goes on in the same way or is thrown
again. -/
structure Eval.Composes (C : {α : Type} → Eval α → Prop) : Prop where
  pure : ∀ {α : Type} (a : α), C (pure a : Eval α)
  fail : ∀ {α : Type} (f : Failure), C (Eval.fail f : Eval α)
  get : C (get : Eval Heap)
  bind : ∀ {α β : Type} {m : Eval α} {f : α → Eval β}, C m → (∀ a, C (f a)) → C (m >>= f)
  caught : ∀ {α : Type} {m : Eval α} {f : Fault → Eval α}, C m →
    (∀ e, C (f e) ∨ f e = throw e) → C (tryCatch m f)

/-- Whether a value is a method of a list, or of lists. -/
def Value.isListMethod : Value → Bool
  | .method (.list _) _ => true
  | .unbound .list _ => true
  | _ => false

namespace Eval.Composes

variable {C : {α : Type} → Eval α → Prop} {α : Type} (hC : Composes C)
include hC

theorem get_bind {f : Heap → Eval α} (hf : ∀ h, C (f h)) : C (MonadState.get >>= f) :=
  hC.bind hC.get hf

theorem lift (x : Except Failure α) : C (Eval.lift x) := by
  cases x with
  | ok a => exact hC.pure a
  | error e => exact hC.fail e

/-- What is read off the heap. -/
theorem lift_get (f : Heap → Except Failure α) : C (do Eval.lift (f (← MonadState.get))) :=
  hC.get_bind fun _ => hC.lift _

theorem items (r : Ref) : C (Eval.items r) := hC.get_bind fun _ => hC.pure _

theorem elements (v : Value) : C (Eval.elements v) := hC.lift_get _

/-- Arguments that are taken apart. -/
theorem bind_bind (p : Parameters) (a : Arguments) {f : List (Option Value) → Eval α}
    (hf : ∀ vs, C (f vs)) : C (Eval.bind p a >>= f) := hC.bind (hC.lift _) hf

/-- The only argument. -/
theorem one (a : Arguments) : C (do
    match ← Eval.bind (.byPosition 1 1) a with
    | [some v] => return v
    | _ => Eval.fail .type) := by
  refine hC.bind_bind _ _ fun vs => ?_
  split
  · exact hC.pure _
  · exact hC.fail _

/-! ## Operations -/

section

variable (halloc : ∀ c, C (Eval.alloc c))
include halloc

theorem newList (vs : List Value) : C (Eval.newList vs) :=
  hC.bind (halloc _) fun _ => hC.pure _

theorem newDict (es : Entries) : C (Eval.newDict es) := hC.bind (halloc _) fun _ => hC.pure _

theorem getItem (v key : Value) : C (getItem v key) := by
  unfold Wording.getItem
  split
  · split
    · exact hC.fail _
    · refine hC.get_bind fun h => ?_
      split
      · exact hC.pure _
      · exact hC.fail _
  · exact hC.lift _
  · exact hC.lift _
  · exact hC.lift _
  · refine hC.bind (hC.items _) fun items => hC.bind (hC.lift _) fun found => ?_
    split
    · exact hC.pure _
    · exact hC.newList halloc _
  · exact hC.fail _

theorem getItemOrNull (v key : Value) : C (getItemOrNull v key) := by
  rw [getItemOrNull_eq]
  refine hC.caught (hC.getItem halloc v key) fun e => ?_
  split
  · exact .inl (hC.pure _)
  · exact .inl (hC.pure _)
  · exact .inr rfl

theorem repeatValue (v : Value) (count : Int) : C (repeatValue v count) := by
  unfold Wording.repeatValue
  split
  · exact hC.bind (hC.lift _) fun _ => hC.pure _
  · exact hC.bind (hC.lift _) fun _ => hC.pure _
  · exact hC.bind (hC.lift _) fun _ => hC.pure _
  · exact hC.bind (hC.items _) fun _ => hC.bind (hC.lift _) fun _ => hC.newList halloc _
  · exact hC.fail _

theorem joinValues (v w : Value) : C (joinValues v w) := by
  unfold Wording.joinValues
  split
  · exact hC.pure _
  · exact hC.pure _
  · exact hC.pure _
  · exact hC.bind (hC.items _) fun _ => hC.bind (hC.items _) fun _ => hC.newList halloc _
  · exact hC.fail _

theorem applyToSequences (op : BinaryOp) (v w : Value) : C (applyToSequences op v w) := by
  unfold Wording.applyToSequences
  split
  · exact hC.joinValues halloc _ _
  · exact hC.repeatValue halloc _ _
  · exact hC.repeatValue halloc _ _
  · exact hC.repeatValue halloc _ _
  · exact hC.repeatValue halloc _ _
  · exact hC.get_bind fun _ => hC.bind (hC.lift _) fun _ => hC.pure _
  · exact hC.get_bind fun _ => hC.bind (hC.lift _) fun _ => hC.pure _
  · exact hC.fail _

theorem binary (op : BinaryOp) (v w : Value) : C (op.apply v w) := by
  unfold BinaryOp.apply
  split
  · exact hC.lift _
  · exact hC.applyToSequences halloc op v w

end

theorem unary (op : UnaryOp) (v : Value) : C (op.apply v) := by
  unfold UnaryOp.apply
  split
  · exact hC.get_bind fun _ => hC.pure _
  · split
    · exact hC.pure _
    · exact hC.fail _
  · split
    · exact hC.pure _
    · exact hC.fail _

theorem compare (op : CompareOp) (made : Bool) (v w : Value) : C (op.apply made v w) := by
  refine hC.get_bind fun h => ?_
  split
  · exact hC.pure _
  · exact hC.pure _
  · exact hC.pure _
  · exact hC.pure _
  · exact hC.lift _
  · exact hC.bind (hC.lift _) fun _ => hC.pure _
  · exact hC.lift _

/-! ## Sorting -/

section

-- A key is called with one argument, and nothing else is called by methods and helpers.
variable {call : Caller} (hcall : ∀ k v, C (call k ⟨[v], []⟩))
include hcall

theorem sortKey (key v : Value) : C (Eval.sortKey call key v) := by
  unfold Eval.sortKey
  split
  · exact hC.pure _
  · split
    · exact hcall _ _
    · exact hC.fail _

theorem sortKeys (key : Value) (vs : List Value) : C (Eval.sortKeys call key vs) := by
  induction vs with
  | nil => exact hC.pure _
  | cons v vs ih =>
    exact hC.bind (hC.sortKey hcall key v) fun _ => hC.bind ih fun _ => hC.pure _

theorem sortBy (key : Value) (down : Bool) (vs : List Value) :
    C (Eval.sortBy call key down vs) :=
  hC.bind (hC.sortKeys hcall key vs) fun _ => hC.get_bind fun _ => hC.pure _

theorem extreme (key : Value) (op : CompareOp) (best : Value × Value) (vs : List Value) :
    C (extreme call key op best vs) := by
  induction vs generalizing best with
  | nil => exact hC.pure _
  | cons v vs ih =>
    refine hC.bind (hC.sortKey hcall key v) fun k => hC.get_bind fun _ =>
      hC.bind (hC.lift _) fun less => ?_
    split
    · exact ih _
    · exact ih _

end

/-! ## Methods -/

section

variable (hset : ∀ r xs, C (Eval.setItems r xs))
include hset

theorem listPop (r : Ref) (items : List Value) (a : Arguments) : C (listPop r items a) := by
  have htaken (i : Nat) := hC.bind (hset r (items.eraseIdx i))
    fun _ => hC.pure (items[i]?.getD Value.null)
  refine hC.bind_bind _ _ fun vs => ?_
  split
  · refine hC.bind (hC.lift _) fun i => ?_
    dsimp only
    split
    · exact hC.fail _
    · exact htaken _
  · refine hC.bind (hC.pure _) fun i => ?_
    dsimp only
    split
    · exact hC.fail _
    · exact htaken _

variable {call : Caller} (hcall : ∀ k v, C (call k ⟨[v], []⟩))
include hcall

theorem listSort (r : Ref) (items : List Value) (a : Arguments) :
    C (listSort call r items a) := by
  refine hC.bind_bind _ _ fun vs => hC.bind (hC.lift _) fun down =>
    hC.bind (hC.sortBy hcall _ _ _) fun sorted => hC.bind (hset _ _) fun _ => ?_
  split
  · exact hC.pure _
  · exact hC.fail _

variable (halloc : ∀ c, C (Eval.alloc c))
include halloc

theorem callListMethod (r : Ref) (m : Method) (a : Arguments) :
    C (callListMethod call r m a) := by
  have hgiven (xs : List Value) : C (do
      Eval.setItems r xs
      return Value.null) := hC.bind (hset _ _) fun _ => hC.pure _
  refine hC.bind (hC.items r) fun items => ?_
  split
  · exact hC.bind (hC.one a) fun _ => hgiven _
  · exact hC.bind_bind _ _ fun _ => hgiven _
  · exact hC.bind_bind _ _ fun _ => hC.newList halloc _
  · exact hC.lift_get _
  · exact hC.bind (hC.one a) fun _ => hC.bind (hC.elements _) fun _ => hgiven _
  · exact hC.lift_get _
  · refine hC.bind_bind _ _ fun vs => ?_
    split
    · exact hC.bind (hC.lift _) fun _ => hgiven _
    · exact hC.fail _
  · exact hC.listPop hset r items a
  · refine hC.bind (hC.one a) fun v => hC.get_bind fun h => ?_
    split
    · exact hgiven _
    · exact hC.fail _
  · exact hC.bind_bind _ _ fun _ => hgiven _
  · exact hC.listSort hset hcall r items a
  · exact hC.fail _

end

section

variable (halloc : ∀ c, C (Eval.alloc c))
include halloc

theorem callText (k : TextKind) (cs : List Char) (m : Method) (a : Arguments) :
    C (callText k cs m a) := by
  refine hC.get_bind fun h => hC.bind (hC.lift _) fun answer => ?_
  unfold answerValue
  split
  · exact hC.pure _
  · exact hC.newList halloc _
  · exact hC.newDict halloc _

theorem callStatic (k : Receiver) (m : Method) (a : Arguments) : C (callStatic k m a) := by
  unfold Wording.callStatic
  split
  · exact hC.lift_get _
  · refine hC.bind_bind _ _ fun vs => ?_
    split
    · exact hC.lift _
    · exact hC.fail _
  · exact hC.callText halloc _ _ _ _
  · exact hC.callText halloc _ _ _ _

variable {call : Caller} (hcall : ∀ k v, C (call k ⟨[v], []⟩))
include hcall

/-- Only a method of a list gives a list other items. -/
theorem callMethod {v : Value}
    (hset : v.receiver? = some .list → ∀ r xs, C (Eval.setItems r xs)) (m : Method)
    (a : Arguments) : C (callMethod call v m a) := by
  unfold Wording.callMethod
  split
  · exact hC.callText halloc _ _ _ _
  · exact hC.callText halloc _ _ _ _
  · exact hC.callListMethod (hset rfl) hcall halloc _ _ _
  · split
    · exact hC.lift_get _
    · exact hC.lift_get _
    · exact hC.fail _
  · exact hC.lift_get _

/-! ## Helpers -/

omit halloc in
theorem helperExtreme (op : CompareOp) (a : Arguments) : C (helperExtreme call op a) := by
  have hcontenders (default : Option Value) : C (contenders a default) := by
    unfold contenders
    split
    · exact hC.fail _
    · exact hC.elements _
    · split
      · exact hC.fail _
      · exact hC.pure _
  unfold Wording.helperExtreme
  split
  · exact hC.fail _
  · refine hC.bind (hcontenders _) fun vs => ?_
    split
    · exact hC.bind (hC.sortKey hcall _ _) fun _ => hC.extreme hcall _ _ _ _
    · exact hC.pure _
    · exact hC.fail _

theorem helperSorted (a : Arguments) : C (helperSorted call a) := by
  refine hC.bind_bind _ _ fun vs => ?_
  split
  · refine hC.bind (hC.elements _) fun items => hC.bind (hC.lift _) fun down =>
      hC.bind (hC.sortBy hcall _ _ _) fun sorted => ?_
    split
    · exact hC.newList halloc _
    · exact hC.fail _
  · exact hC.fail _

theorem callHelper (f : Helper) (a : Arguments) : C (callHelper call f a) := by
  unfold Wording.callHelper
  split
  · refine hC.bind (hC.one a) fun v => ?_
    split
    · exact hC.lift _
    · exact hC.fail _
  · exact hC.lift _
  · exact hC.lift _
  · exact hC.lift_get _
  · exact hC.get_bind fun _ => hC.bind (hC.one a) fun _ => hC.lift _
  · exact hC.lift_get _
  · exact hC.lift_get _
  · exact hC.helperExtreme hcall _ _
  · exact hC.helperExtreme hcall _ _
  · exact hC.lift _
  · exact hC.helperSorted halloc hcall a
  · exact hC.lift_get _

/-! ## All callables -/

omit hcall in
theorem callEcho (a : Arguments) : C (callEcho a) :=
  hC.bind (hC.newList halloc _) fun _ => hC.bind (hC.newDict halloc _) fun _ =>
    hC.newList halloc _

omit halloc hcall in
theorem callKeyNames (a : Arguments) : C (callKeyNames a) := by
  refine hC.bind_bind _ _ fun vs => ?_
  split
  · refine hC.bind (hC.elements _) fun keys => hC.get_bind fun h => ?_
    split
    · exact hC.fail _
    · exact hC.bind (hC.lift _) fun _ => hC.pure _
  · exact hC.fail _

omit hcall in
theorem callEntryAt (key : Value) (a : Arguments) : C (callEntryAt key a) := by
  refine hC.bind_bind _ _ fun vs => ?_
  split
  · exact hC.bind (hC.getItem halloc _ _) fun _ => hC.get_bind fun _ =>
      hC.bind (hC.lift _) fun _ => hC.pure _
  · exact hC.fail _

/-- **A call**: only a method of a list gives a list other items, and a callable that fails throws
what it likes. -/
theorem invoke {f : Value} (hset : f.isListMethod = true → ∀ r xs, C (Eval.setItems r xs))
    (hfailing : ∀ e, f = .failing e → C (throw e : Eval Value)) (a : Arguments) :
    C (invoke call f a) := by
  unfold Wording.invoke
  split
  · exact hC.callHelper halloc hcall _ _
  · rename_i v m
    refine hC.callMethod halloc hcall (fun hv => hset ?_) m a
    cases v <;> first | rfl | cases hv
  · rename_i k m
    split
    · split
      · rename_i hk
        refine hC.callMethod halloc hcall (fun hv => hset ?_) m _
        rw [hk, Option.some.injEq] at hv
        rw [hv]
        rfl
      · exact hC.fail _
    · exact hC.fail _
  · exact hC.callStatic halloc _ _ _
  · exact hC.pure _
  · exact hC.callEcho halloc a
  · exact hC.callKeyNames a
  · exact hC.callEntryAt halloc _ a
  · exact hfailing _ rfl
  · exact hC.fail _

end

end Eval.Composes

end Wording
