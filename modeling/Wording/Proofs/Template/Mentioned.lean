import Wording.Proofs.Template.Reported
import Wording.Proofs.Template.Untouched

/-!
# A template sees the names that it mentions

Two contexts that bind the same under each name in the expressions of a template are one context to
it. A name that is bound nowhere is that of a helper, or it is reported as undefined.

* `Heap.binding?`: what a context binds
* `renderTemplate_congr`
-/

namespace Wording

/-! ## What contexts bind -/

/-- A context: none, or a dictionary. -/
def Heap.IsContext (h : Heap) (c : Option Value) : Prop :=
  ∀ v ∈ c, ∃ (r : Ref) (es : Entries), v = .dict r ∧ h.cells[r]? = some (.dict es)

/-- The value that a context binds to a name. -/
def Heap.binding? (h : Heap) (c : Option Value) (id : String) : Option Value :=
  match c with
  | some (.dict r) => h.lookup r (.str id)
  | _ => none

section

variable {h k : Heap} {c d : Option Value} {id : String}

theorem Heap.IsContext.of_spares (hc : h.IsContext c) (hk : h.Spares k) : k.IsContext c := by
  intro v hv
  obtain ⟨r, es, hr, hcell⟩ := hc v hv
  exact ⟨r, es, hr, hk r _ hcell rfl⟩

theorem Heap.IsContext.filter (hc : h.IsContext c) (f : Value → Bool) :
    h.IsContext (c.filter f) := fun v hv => hc v (Option.filter_eq_some_iff.mp hv).1

/-- What a context binds stays bound when lists change. -/
theorem Heap.Spares.binding?_eq (hk : h.Spares k) (hc : h.IsContext c) (id : String) :
    k.binding? c id = h.binding? c id := by
  cases c with
  | none => rfl
  | some v =>
    obtain ⟨r, es, rfl, hcell⟩ := hc v rfl
    show k.lookup r _ = h.lookup r _
    unfold lookup entries
    rw [hk r _ hcell rfl, hcell]

/-- An empty context binds as much as none. -/
theorem Heap.binding?_filter (hc : h.IsContext c) (id : String) :
    h.binding? (c.filter h.truthy) id = h.binding? c id := by
  cases c with
  | none => rfl
  | some v =>
    obtain ⟨r, es, rfl, -⟩ := hc v rfl
    rw [Option.filter_some]
    split
    · rfl
    · rename_i hempty
      rw [truthy, Bool.not_eq_true, Bool.not_eq_false', List.isEmpty_iff] at hempty
      show none = h.lookup r _
      rw [lookup, hempty]
      rfl

theorem Scope.outcome_lookup?_context (hc : h.IsContext c) :
    outcome (Scope.lookup? ⟨[], c⟩ id) h = (.ok (h.binding? c id), h) := by
  cases c with
  | none => rfl
  | some v =>
    obtain ⟨r, es, rfl, -⟩ := hc v rfl
    rfl

theorem Scope.outcome_lookup?_unbound {bound : List (String × Value)}
    (hbound : bound.find? (·.1 == id) = none) (hc : h.IsContext c) :
    outcome (Scope.lookup? ⟨bound, c⟩ id) h = (.ok (h.binding? c id), h) := by
  rw [← outcome_lookup?_context hc]
  unfold lookup?
  rw [hbound]
  rfl

/-- Contexts that bind the same to a name do so while dictionaries stay as they are. -/
theorem Scope.coincide_lookup?_of_binding? (hc : h.IsContext c) (hd : h.IsContext d)
    (heq : h.binding? c id = h.binding? d id) :
    Coincide h.Spares (Scope.lookup? ⟨[], c⟩ id) (Scope.lookup? ⟨[], d⟩ id) := by
  intro k hk
  rw [outcome_lookup?_context (hc.of_spares hk), outcome_lookup?_context (hd.of_spares hk),
    hk.binding?_eq hc, hk.binding?_eq hd, heq]
  exact ⟨rfl, hk⟩

end

/-! ## Names that are bound nowhere -/

/-- The value of a name that is not bound: a helper from the table, or none. -/
def Helper.fallback (id : String) : Except Fault Value :=
  match Helper.ofName? id with
  | some f => .ok (.helper f)
  | none => .error (.render (.undefinedName id))

theorem outcome_evalName_of_none {s : Scope} {id : String} {h : Heap}
    (hs : outcome (s.lookup? id) h = (.ok none, h)) :
    outcome (evalName s id) h = (Helper.fallback id, h) := by
  rw [evalName, outcome_bind_of_ok hs]
  unfold Helper.fallback
  cases Helper.ofName? id <;> rfl

theorem Page.outcome_eval_unbound {m : Machine} {c : Option Value} {p : Page} {h : Heap}
    {source id : String} (hbound : p.bound.find? (·.1 == id) = none) (hc : h.IsContext c)
    (hid : h.binding? c id = none) :
    outcome (p.eval m c ⟨source, .name id⟩) h = (Helper.fallback id, h) := by
  have hname : outcome (evalName ⟨p.bound, c⟩ id) h = (Helper.fallback id, h) :=
    outcome_evalName_of_none (by rw [Scope.outcome_lookup?_unbound hbound hc, hid])
  rw [Page.eval, Expression.eval, outcome_tryCatch]
  dsimp only
  rw [Expr.eval, hname]
  unfold Helper.fallback
  cases Helper.ofName? id <;> rfl

/-! ## Rendering -/

/-- **A template sees of its context the values under the names in its expressions.** A name that is
bound neither by a statement nor by the context is that of a helper, or undefined. -/
theorem renderTemplate_congr (b : Bounds) (ns : List Node) {c d : Option Value} {h : Heap}
    (hc : h.IsContext c) (hd : h.IsContext d)
    (hnames : ∀ e ∈ Node.expressionsAll ns, ∀ id, e.expr.Mentions id →
      h.binding? c id = h.binding? d id) :
    outcome (renderTemplate b.machine ns c) h = outcome (renderTemplate b.machine ns d) h ∧
      ∀ (p : Page) (k : Heap) (source id : String), p.bound.find? (·.1 == id) = none →
        h.Spares k → h.binding? c id = none →
        outcome (p.eval b.machine c ⟨source, .name id⟩) k = (Helper.fallback id, k) := by
  refine ⟨?_, fun p k source id hbound hk hid =>
    Page.outcome_eval_unbound hbound (hc.of_spares hk) (hk.binding?_eq hc id ▸ hid)⟩
  have hagrees : ∀ e ∈ Node.expressionsAll ns,
      e.Agrees h.Spares b.machine (c.filter h.truthy) (d.filter h.truthy) := by
    refine fun e he => ⟨fun id hid => ?_, fun _ =>
      leaves_callTo h.lasting_spares h.listless_spares b.rounds b.depth⟩
    refine Scope.coincide_lookup?_of_binding? (hc.filter _) (hd.filter _) ?_
    rw [Heap.binding?_filter hc, Heap.binding?_filter hd]
    exact hnames e he id hid
  rw [outcome_renderTemplate, outcome_renderTemplate]
  exact (coincide_renderTemplate h.lasting_spares ns hagrees h (.refl h)).1

/-- Two contexts with the same name, one of them with another value beside it. -/
def secretHeap : Heap :=
  ⟨#[.dict [(.str "name", .str "a"), (.str "secret", .str "b")], .dict [(.str "name", .str "a")]]⟩

/-- Writes the value of a name, and what a helper makes of it. -/
def nameNodes : List Node :=
  [.interpolate ⟨"name", .name "name"⟩,
    .interpolate ⟨"str(name)", .call (.name "str") [.name "name"] []⟩]

/-- The value that only one of the contexts has makes no difference. -/
theorem renderTemplate_congr_secret :
    secretHeap.IsContext (some (.dict 0)) ∧ secretHeap.IsContext (some (.dict 1)) ∧
      (∀ e ∈ Node.expressionsAll nameNodes, ∀ id, e.expr.Mentions id →
        secretHeap.binding? (some (.dict 0)) id = secretHeap.binding? (some (.dict 1)) id) ∧
      (outcome (renderTemplate (Bounds.machine ⟨1, 1⟩) nameNodes (some (.dict 0)))
        secretHeap).1 = .ok "aa" := by
  have hc : secretHeap.IsContext (some (.dict 0)) := by
    rintro _ ⟨⟩
    exact ⟨0, _, rfl, rfl⟩
  have hd : secretHeap.IsContext (some (.dict 1)) := by
    rintro _ ⟨⟩
    exact ⟨1, _, rfl, rfl⟩
  have hname {id id' : String} (h : (Expr.name id').Mentions id) : id = id' := by
    cases h with
    | self => rfl
    | child hg => cases hg
  have hnames : ∀ e ∈ Node.expressionsAll nameNodes, ∀ id, e.expr.Mentions id →
      secretHeap.binding? (some (.dict 0)) id = secretHeap.binding? (some (.dict 1)) id := by
    intro e he id hid
    have hid : id = "name" ∨ id = "str" := by
      obtain rfl | rfl : e = ⟨"name", .name "name"⟩ ∨
          e = ⟨"str(name)", .call (.name "str") [.name "name"] []⟩ := by
        simpa [nameNodes, Node.expressionsAll, Node.expressions] using he
      · exact .inl (hname hid)
      · cases hid with
        | child hg hin =>
          obtain rfl | rfl := by simpa [Expr.children] using hg
          · exact .inr (hname hin)
          · exact .inl (hname hin)
    obtain rfl | rfl := hid <;> rfl
  refine ⟨hc, hd, hnames, ?_⟩
  rw [(renderTemplate_congr ⟨1, 1⟩ nameNodes hc hd hnames).1]
  rfl

end Wording
