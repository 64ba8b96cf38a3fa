import Wording.Proofs.Box.Later
import Wording.Proofs.Template.Seen

/-!
# What a rendering leaves as it is

A rendering binds names in front of its context, and puts what it makes behind all that there is. Of
what is there it changes lists only, and these only by their methods. So no rendering changes a
dictionary or a record, and one without calls changes nothing at all: it can be done again, and ends
in the same.

* `leaves_renderTemplate`, `leaves_callWith`
* `renderTemplate_spares`
-/

namespace Wording

/-! ## Renderings and calls -/

section

variable {P : Heap → Prop} (hP : Heap.Lasting P)
include hP

theorem leaves_renderTemplate {m : Machine} (ns : List Node) (context : Option Value)
    (hcalls : ∀ e ∈ Node.expressionsAll ns, e.expr.Calls → ∀ v a, Eval.Leaves P (m.call v a)) :
    Eval.Leaves P (renderTemplate m ns context) := by
  refine leaves_get_bind fun h => ?_
  have hagrees : ∀ e ∈ Node.expressionsAll ns,
      e.Agrees P m (context.filter h.truthy) (context.filter h.truthy) := fun e he =>
    ⟨fun id _ => (Scope.leaves_lookup? hP _ id).coincide, hcalls e he⟩
  exact (coincide_renderTemplate hP ns hagrees).keeps

/-- A call, of something else than a method of a list. -/
theorem leaves_callWith {limit : Nat} {sub : Caller} (hsub : ∀ v a, Eval.Leaves P (sub v a))
    {f : Value} (hset : f.isListMethod = true → Heap.Listless P) (a : Arguments) :
    Eval.Leaves P (callWith limit sub f a) := by
  unfold callWith
  split
  · refine leaves_bind_bind _ _ fun vs => ?_
    split
    · exact (leaves_renderTemplate hP _ _ fun _ _ _ => hsub).bind fun _ => leaves_pure _
    · exact leaves_fail _
  · exact leaves_invoke hsub hP hset a

theorem leaves_callTo (hset : Heap.Listless P) (limit depth : Nat) (f : Value) (a : Arguments) :
    Eval.Leaves P (callTo limit depth f a) := by
  induction depth generalizing f a with
  | zero => exact leaves_throw _
  | succ depth ih => exact leaves_callWith hP ih (fun _ => hset) a

end

/-! ## Rendering twice -/

/-- The values in a heap refer to places in use only. -/
def Heap.Closed (h : Heap) : Prop :=
  ∀ (r : Nat) (c : Cell), h.cells[r]? = some c → c.All (Value.In fun s : Nat => s < h.cells.size)

/-- **A rendering ends in the same on a heap that holds more.** -/
theorem outcome_renderTemplate_extends {h k : Heap} (hclosed : h.Closed) (hk : h.Extends k)
    {context : Option Value}
    (hcontext : ∀ v ∈ context, v.In fun r : Nat => r < h.cells.size) (b : Bounds)
    (ns : List Node) :
    (outcome (renderTemplate b.machine ns context) k).1 =
      (outcome (renderTemplate b.machine ns context) h).1 := by
  have hsame : h.SameAt (fun r : Nat => r < h.cells.size) k :=
    ⟨fun r hr => (hk.2 r hr).symm, fun r c _ hc => hclosed r c hc⟩
  have huses : h.Uses fun r : Nat => r < h.cells.size := fun _ hr => hr
  have hm : b.machine.Paired (.shifted (fun r : Nat => r < h.cells.size) h
      (k.cells.size - h.cells.size)) b.machine := ⟨calls_callTo trivial b.rounds b.depth, rfl⟩
  have hpaired : Pairing.Optional (.shifted (fun r : Nat => r < h.cells.size) h
      (k.cells.size - h.cells.size)) context context := by
    cases context with
    | none => exact .none
    | some v => exact .some ((hcontext v rfl).into huses.into)
  obtain ⟨q, -, -, hresult⟩ := agrees_renderTemplate hm ns hpaired h k (hsame.shifted huses hk.1)
  generalize (outcome (renderTemplate b.machine ns context) h).1 = x,
    (outcome (renderTemplate b.machine ns context) k).1 = y at hresult
  cases hresult with
  | ok htext => rw [htext]
  | error he => rw [he.1]

/-- **A rendering changes no dictionary and no record, whatever it ends in.** If there is no call in
the template it changes nothing, and the next rendering in the same context ends in the same. -/
theorem renderTemplate_spares (b : Bounds) (ns : List Node) (context : Option Value) (h : Heap) :
    h.Spares (outcome (renderTemplate b.machine ns context) h).2 ∧
      ((∀ e ∈ Node.expressionsAll ns, ¬e.expr.Calls) →
        h.Extends (outcome (renderTemplate b.machine ns context) h).2 ∧
          (h.Closed → (∀ v ∈ context, v.In fun r : Nat => r < h.cells.size) →
            (outcome (renderTemplate b.machine ns context)
                (outcome (renderTemplate b.machine ns context) h).2).1 =
              (outcome (renderTemplate b.machine ns context) h).1)) := by
  have hspares : Eval.Leaves h.Spares (renderTemplate b.machine ns context) :=
    leaves_renderTemplate h.lasting_spares ns context fun _ _ _ =>
      leaves_callTo h.lasting_spares h.listless_spares b.rounds b.depth
  refine ⟨(hspares h (.refl h)).1, fun hcalls => ?_⟩
  have hextends : Eval.Leaves h.Extends (renderTemplate b.machine ns context) :=
    leaves_renderTemplate h.lasting_extends ns context fun e he hcall => absurd hcall (hcalls e he)
  have hk := (hextends h (.refl h)).1
  exact ⟨hk, fun hclosed hcontext => outcome_renderTemplate_extends hclosed hk hcontext b ns⟩

/-- A context with a list and a record. -/
def plainHeap : Heap :=
  ⟨#[.dict [(.str "items", .list 1), (.str "user", .record 2)], .list #[.str "a", .str "b"],
    .record [("name", .str "c")]]⟩

theorem plainHeap_closed : plainHeap.Closed := by
  intro r c hc
  obtain ⟨hr, rfl⟩ := Array.getElem?_eq_some_iff.mp hc
  match r, hr with
  | 0, _ =>
    refine .dict fun e he => ?_
    obtain rfl | rfl : e = (.str "items", .list 1) ∨ e = (.str "user", .record 2) := by
      simpa [plainHeap] using he
    · exact ⟨.atom rfl, .list (by decide)⟩
    · exact ⟨.atom rfl, .record (by decide)⟩
  | 1, _ =>
    refine .list fun v hv => ?_
    obtain rfl | rfl : v = .str "a" ∨ v = .str "b" := by simpa [plainHeap] using hv
    · exact .atom rfl
    · exact .atom rfl
  | 2, _ =>
    refine .record fun n hn => ?_
    obtain rfl : n = ("name", .str "c") := by simpa [plainHeap] using hn
    exact .atom rfl

/-- Writes the items, each of them under the name of the record. -/
def itemNodes : List Node :=
  [.loop "x" ⟨"items", .name "items"⟩
    [.set "user" ⟨"x", .name "x"⟩, .interpolate ⟨"user", .name "user"⟩]]

/-- The list and the record are as they were, although the template has used their names, and the
items can be written again. -/
theorem renderTemplate_spares_items :
    (∀ e ∈ Node.expressionsAll itemNodes, ¬e.expr.Calls) ∧ plainHeap.Closed ∧
      (∀ v ∈ some (Value.dict 0), v.In fun r : Nat => r < plainHeap.cells.size) ∧
      plainHeap.Extends
        (outcome (renderTemplate (Bounds.machine ⟨1, 3⟩) itemNodes (some (.dict 0))) plainHeap).2 ∧
      (outcome (renderTemplate (Bounds.machine ⟨1, 3⟩) itemNodes (some (.dict 0)))
        (outcome (renderTemplate (Bounds.machine ⟨1, 3⟩) itemNodes (some (.dict 0)))
          plainHeap).2).1 = .ok "ab" := by
  have hcalls : ∀ e ∈ Node.expressionsAll itemNodes, ¬e.expr.Calls := by
    have hname : ∀ id, ¬(Expr.name id).Calls := by
      rintro id ⟨f, args, keywords, h⟩
      cases h with
      | child hg => cases hg
    intro e he
    obtain rfl | rfl | rfl : e = ⟨"items", .name "items"⟩ ∨ e = ⟨"x", .name "x"⟩ ∨
        e = ⟨"user", .name "user"⟩ := by
      simpa [itemNodes, Node.expressionsAll, Node.expressions] using he
    all_goals exact hname _
  have hcontext : ∀ v ∈ some (Value.dict 0), v.In fun r : Nat => r < plainHeap.cells.size := by
    rintro _ ⟨⟩
    exact .dict (by decide)
  obtain ⟨hextends, hagain⟩ :=
    (renderTemplate_spares ⟨1, 3⟩ itemNodes (some (.dict 0)) plainHeap).2 hcalls
  refine ⟨hcalls, plainHeap_closed, hcontext, hextends, ?_⟩
  rw [hagain plainHeap_closed hcontext]
  rfl

end Wording
