import Wording.Expr.Reading
import Wording.Proofs.Template.Reported

/-!
# What an evaluation answers

Whoever evaluates an expression is told a value or a reported error, whatever operators, methods and
helpers the expression uses, as long as the callables in the scope fail with failures that are
reported. There is one way around it: a separator that cannot join lacks an attribute, and that is
not reported. A key or a position that is not there is no failure at all.

* `Answered`: the results that a caller is prepared for
* `outcome_subscript_of_lacks`: a subscript without an item
* `Expression.answered`: what an evaluation ends in
-/

namespace Wording

/-! ## Mild values -/

/-- A failure that is reported, or an error that reports one. -/
def Fault.IsMild (e : Fault) : Prop := e.IsReported ∨ ∃ r, e = .render r

/-- No callable in a value raises another fault than a mild one. -/
def Value.Mild (v : Value) : Prop := v.Within (fun _ => True) Fault.IsMild

def Heap.Mild (h : Heap) : Prop := ∀ (r : Ref) (c : Cell), h.cells[r]? = some c → c.All Value.Mild

structure Scope.Mild (s : Scope) : Prop where
  bound : ∀ n ∈ s.bound, n.2.Mild
  context : ∀ v ∈ s.context, v.Mild

theorem Fault.IsMild.failure {e : Fault} (he : e.IsMild) {lacking : Failure → Prop} (f : Failure)
    (hf : e = .failure f) : f.isOrdinary = true ∨ lacking f := by
  obtain ⟨g, hg, rfl⟩ | ⟨r, rfl⟩ := he
  · cases hf
    exact .inl (Failure.isOrdinary_of_isReported hg)
  · cases hf

/-- Computations end as if callables raised reported failures only, and callables raise mild faults
only. -/
def Pairing.mild (lacking : Failure → Prop) (size : Nat) : Pairing := {
  Pairing.calm lacking size with
  raised := Fault.IsMild
  fault_of_raised := fun _ he => he.failure }

section

variable {lacking : Failure → Prop} {n : Nat} {h : Heap} {s : Scope}

theorem Value.Mild.paired {v : Value} (h : v.Mild) : v.Paired (.mild lacking n) v :=
  Value.Within.paired (p := .mild lacking n) (fun _ h => ⟨rfl, h⟩) (fun _ he => he) h

theorem Heap.Mild.paired (hh : h.Mild) : h.Paired (.mild lacking h.cells.size) h := by
  refine ⟨rfl, rfl, ?_, fun _ _ _ => trivial⟩
  rintro r _ ⟨rfl, -⟩
  cases hc : h.cells[r]? with
  | none => exact .none
  | some c => exact .some ((hh r c hc).paired fun _ hv => hv.paired)

theorem Scope.Mild.paired (hs : s.Mild) : s.Paired (.mild lacking n) s := by
  refine ⟨List.forall₂_same.mpr fun m hm => ⟨rfl, (hs.bound m hm).paired⟩, ?_⟩
  cases hc : s.context with
  | none => exact .none
  | some v => exact .some (hs.context v hc).paired

end

/-! ## Answers -/

/-- A result that the caller is prepared for: a value, a reported error, or that a limit is met. -/
inductive Answered : Except Fault Value → Prop
  | value (v : Value) : Answered (.ok v)
  | reported (r : RenderError) : Answered (.error (.render r))
  | limit {e : Fault} (he : e.isLimit = true) : Answered (.error e)

section

variable {s : Scope} {h : Heap}

/-- An evaluation answers, or it ends in a failure that calls may show besides the ordinary ones. -/
theorem Expression.answered_or {lacking : Failure → Prop} {call : Caller}
    (hcall : (Pairing.mild lacking h.cells.size).Calls call call) (hs : s.Mild) (hh : h.Mild)
    (e : Expression) : Answered (outcome (e.eval call s) h).1 ∨
      ∃ f, lacking f ∧ (outcome (e.eval call s) h).1 = .error (.failure f) := by
  obtain ⟨q, hq, -, hr⟩ := e.agrees_eval hcall hs.paired h h hh.paired
  cases hout : (outcome (e.eval call s) h).1 with
  | ok v => exact .inl (.value v)
  | error e' =>
    cases e' with
    | render r => exact .inl (.reported r)
    | exhausted => exact .inl (.limit rfl)
    | failure f =>
      rw [hout] at hr
      obtain _ | ⟨-, hfault⟩ := hr
      rw [(Pairing.grows hq).fault] at hfault
      obtain hordinary | hlacking := hfault f rfl
      · have hreported : f.isReported = false := Expression.isReported_of_eval hout
        exact .inl (.limit (Failure.isLimit_of_ordinary hordinary hreported))
      · exact .inr ⟨f, hlacking, rfl⟩

/-- Where joining is done with care, each evaluation answers. -/
theorem Expression.answered_sparing (b : Bounds) (hs : s.Mild) (hh : h.Mild) (e : Expression) :
    Answered (outcome (e.eval b.sparing.call s) h).1 := by
  have hcall : (Pairing.mild (fun _ => False) h.cells.size).Calls b.sparing.call b.sparing.call :=
    calls_sparingTo _ b.rounds b.depth
  obtain hanswered | ⟨f, hno, -⟩ := e.answered_or hcall hs hh
  · exact hanswered
  · exact hno.elim

/-- Otherwise an attribute may be missing too. -/
theorem Expression.answered_machine (b : Bounds) (hs : s.Mild) (hh : h.Mild) (e : Expression) :
    Answered (outcome (e.eval b.machine.call s) h).1 ∨
      (outcome (e.eval b.machine.call s) h).1 = .error (.failure .attribute) := by
  have hcall : (Pairing.mild (· = .attribute) h.cells.size).Calls b.machine.call
      b.machine.call := by
    refine calls_callTo ?_ b.rounds b.depth
    rintro _ ⟨⟩
    exact .inr rfl
  obtain hanswered | ⟨f, rfl, hf⟩ := e.answered_or hcall hs hh
  · exact .inl hanswered
  · exact .inr hf

end

/-! ## Subscripts -/

/-- How many items a sequence has. -/
def Heap.count? (h : Heap) : Value → Option Nat
  | .str s => some s.toList.length
  | .bytes bs => some bs.length
  | .tuple vs => some vs.length
  | .list r => some (h.items r).size
  | _ => none

/-- A key that is not in a dictionary, or a position that is not in a sequence; negative positions are
counted from the end. -/
inductive Heap.Lacks (h : Heap) : Value → Value → Prop
  | entry {r : Ref} {key : Value} (hkey : key.isKey = true) (hnone : h.lookup r key = none) :
      Lacks h (.dict r) key
  | position {v key : Value} {n : Nat} {i : Int} (hv : h.count? v = some n)
      (hi : key.asIndex = .ok i) (hout : i < -n ∨ n ≤ i) : Lacks h v key

section

variable {h : Heap} {v key : Value}

theorem selectFrom_of_lacks {α β : Type} {xs : List α} {one : α → β} {many : List α → β} {i : Int}
    (hi : key.asIndex = .ok i) (hout : i < -xs.length ∨ xs.length ≤ i) :
    selectFrom xs one many key = .error .index := by
  have hno : Sequence.index? xs.length i = none := by
    rw [Sequence.index?, if_neg]
    split <;> omega
  have hindex : key.asIndex = pure i := hi
  rw [selectFrom, hindex, pure_bind, hno]
  · rfl
  · rintro lower upper step rfl
    cases hi

/-- Taking what is not there fails as a key or as a position. -/
theorem Heap.Lacks.outcome_getItem (hl : h.Lacks v key) :
    outcome (getItem v key) h = (.error (.failure .key), h) ∨
      outcome (getItem v key) h = (.error (.failure .index), h) := by
  cases hl with
  | @entry r key hkey hnone =>
    left
    rw [getItem, hkey, Bool.not_true, if_neg Bool.false_ne_true, outcome_get_bind, hnone]
    rfl
  | @position v key n i hv hi hout =>
    right
    cases v with
    | str s =>
      cases hv
      rw [getItem, selectFrom_of_lacks hi hout]
      rfl
    | bytes bs =>
      cases hv
      rw [getItem, selectFrom_of_lacks hi hout]
      rfl
    | tuple vs =>
      cases hv
      rw [getItem, selectFrom_of_lacks hi hout]
      rfl
    | list r =>
      cases hv
      have hitems : outcome (Eval.items r) h = (.ok (h.items r).toList, h) := rfl
      rw [← Array.length_toList] at hout
      rw [getItem, outcome_bind_of_ok hitems, selectFrom_of_lacks hi hout]
      rfl
    | _ => cases hv

/-- **A subscript without an item is null.** -/
theorem outcome_subscript_of_lacks {call : Caller} {s : Scope} {e k : Expr} {h' l : Heap}
    (hv : outcome (e.eval call s) h = (.ok v, h')) (hk : outcome (k.eval call s) h' = (.ok key, l))
    (hl : l.Lacks v key) : outcome ((Expr.subscript e k).eval call s) h = (.ok .null, l) := by
  have hnull : outcome (getItemOrNull v key) l = (.ok .null, l) := by
    rw [getItemOrNull_eq, outcome_tryCatch]
    obtain hitem | hitem := hl.outcome_getItem <;>
    · rw [hitem]
      rfl
  rw [Expr.eval, outcome_bind_of_ok hv]
  have hv' : v ≠ .null := by
    rintro rfl
    rcases hl with _ | ⟨⟨⟩, -, -⟩
  split
  · exact absurd rfl hv'
  · rw [outcome_bind_of_ok hk, hnull]

end

/-- **An evaluation gives a value, reports an error or meets a limit**, and a subscript without an
item is null, in each scope of plain data and callables that raise mild faults only. The exception is
a failing attribute, which comes from joining without care. -/
theorem Expression.answered (b : Bounds) {s : Scope} {h : Heap} (hs : s.Mild) (hh : h.Mild) :
    (∀ e : Expression, Answered (outcome (e.eval b.machine.call s) h).1 ∨
      (outcome (e.eval b.machine.call s) h).1 = .error (.failure .attribute) ∧
        Answered (outcome (e.eval b.sparing.call s) h).1) ∧
    ∀ (call : Caller) (t : Scope) (e key : Expr) (h₁ h₂ h₃ : Heap) (v w : Value),
      outcome (e.eval call t) h₁ = (.ok v, h₂) → outcome (key.eval call t) h₂ = (.ok w, h₃) →
      h₃.Lacks v w → outcome ((Expr.subscript e key).eval call t) h₁ = (.ok .null, h₃) := by
  refine ⟨fun e => ?_, fun call t e key h₁ h₂ h₃ v w hv hw hl =>
    outcome_subscript_of_lacks hv hw hl⟩
  exact (e.answered_machine b hs hh).imp_right fun hf => ⟨hf, e.answered_sparing b hs hh⟩

/-- A heap with a context in which `items` is a list of numbers and `f` a callable that fails. -/
def itemsHeap : Heap :=
  ⟨#[.dict [(.str "items", .list 1), (.str "f", .failing (.render (.raised "no")))],
    .list #[.int 3, .int 1, .int 2]]⟩

def itemsScope : Scope := ⟨[], some (.dict 0)⟩

theorem itemsScope_mild : itemsScope.Mild := by
  refine ⟨nofun, ?_⟩
  rintro _ ⟨⟩
  exact .dict trivial

theorem itemsHeap_mild : itemsHeap.Mild := by
  have hcells : ∀ c ∈ itemsHeap.cells.toList, c.All Value.Mild := by
    simp only [itemsHeap, List.forall_mem_cons, List.not_mem_nil, false_implies, implies_true,
      and_true]
    refine ⟨.dict ?_, .list ?_⟩
    · simp only [List.forall_mem_cons, List.not_mem_nil, false_implies, implies_true, and_true]
      exact ⟨⟨.atom rfl, .list trivial⟩, .atom rfl, .failing (.inr ⟨_, rfl⟩)⟩
    · simp only [List.forall_mem_cons, List.not_mem_nil, false_implies, implies_true, and_true]
      exact ⟨.atom rfl, .atom rfl, .atom rfl⟩
  intro r c hc
  obtain ⟨hr, rfl⟩ := Array.getElem?_eq_some_iff.mp hc
  exact hcells _ (Array.getElem_mem_toList hr)

/-- The largest item is a value, and so is what lies behind the last one. -/
theorem Expression.answered_items :
    itemsScope.Mild ∧ itemsHeap.Mild ∧
      Answered (outcome (Expression.eval (Bounds.machine ⟨1, 1⟩).call itemsScope
        ⟨"max(items)", .call (.name "max") [.name "items"] []⟩) itemsHeap).1 ∧
      outcome ((Expr.subscript (.name "items") (.literal (.int 3))).eval
        (Bounds.machine ⟨1, 1⟩).call itemsScope) itemsHeap = (.ok .null, itemsHeap) := by
  obtain ⟨hevaluation, hsubscript⟩ := Expression.answered ⟨1, 1⟩ itemsScope_mild itemsHeap_mild
  refine ⟨itemsScope_mild, itemsHeap_mild, ?_, ?_⟩
  · obtain hanswered | ⟨hattribute, -⟩ :=
      hevaluation ⟨"max(items)", .call (.name "max") [.name "items"] []⟩
    · exact hanswered
    · cases hattribute
  · exact hsubscript (Bounds.machine ⟨1, 1⟩).call itemsScope (.name "items") (.literal (.int 3))
      itemsHeap itemsHeap itemsHeap (.list 1) (.int 3) rfl rfl
      (.position rfl rfl (.inr (by decide)))

/-- Joining with a number fails with a bare failure. -/
theorem Expression.answered_joinByNumber :
    ∃ e, Expression.read "join(items, 1)" = .ok e ∧ itemsScope.Mild ∧ itemsHeap.Mild ∧
      ¬Answered (outcome (e.eval (Bounds.machine ⟨1, 1⟩).call itemsScope) itemsHeap).1 := by
  obtain ⟨e, he, h⟩ := exists_of_map_toOption (x := Expression.read "join(items, 1)")
    (f := fun e => match (outcome (e.eval (Bounds.machine ⟨1, 1⟩).call itemsScope) itemsHeap).1 with
      | .error f => some f
      | .ok _ => none)
    (b := some (.failure .attribute)) (by decide +kernel)
  refine ⟨e, he, itemsScope_mild, itemsHeap_mild, fun hanswered => ?_⟩
  split at h
  · next f hf =>
    rw [hf, Option.some.inj h] at hanswered
    obtain _ | _ | hlimit := hanswered
    cases hlimit
  · cases h

end Wording
