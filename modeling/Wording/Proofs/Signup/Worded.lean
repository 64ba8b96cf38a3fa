import Wording.Proofs.Box.Answers
import Wording.Proofs.Signup.Compiled
import Wording.Proofs.Signup.Findings

/-!
# What the templates of the form write
-/

namespace Wording

/-! ## Writing in a context -/

section

variable {m : Machine} {r : Ref} {h k : Heap} {es : Entries} {n : Node} {ns : List Node}
  {s : String} {ss : List String} {v : Value} {e : Expression} {id : String}

/-- An expression has a value wherever it is evaluated from a heap on, and leaves what was there. -/
def Expression.Yields (m : Machine) (r : Ref) (h : Heap) (e : Expression) (v : Value) : Prop :=
  ∀ k, h.Extends k → ∃ l,
    outcome (e.eval m.call ⟨[], some (.dict r)⟩) k = (.ok v, l) ∧ k.Extends l

/-- A node writes a text wherever it is rendered from a heap on, and leaves what was there. -/
def Node.Writes (m : Machine) (r : Ref) (h : Heap) (n : Node) (s : String) : Prop :=
  ∀ k, h.Extends k → ∀ text, ∃ l,
    outcome (n.render m (some (.dict r)) ⟨[], text⟩) k = (.ok ⟨[], text ++ s⟩, l) ∧ k.Extends l

/-- **Nodes write one after the other.** -/
theorem exists_renderAll (hns : List.Forall₂ (Node.Writes m r h) ns ss) (hk : h.Extends k)
    (text : String) : ∃ l, outcome (Node.renderAll m (some (.dict r)) ns ⟨[], text⟩) k =
      (.ok ⟨[], ss.foldl (· ++ ·) text⟩, l) ∧ k.Extends l := by
  induction hns generalizing k text with
  | nil => exact ⟨k, rfl, .refl k⟩
  | cons hn _ ih =>
    obtain ⟨k', hout, hext⟩ := hn k hk text
    obtain ⟨l, hrest, hext'⟩ := ih (hk.trans hext) (text ++ _)
    refine ⟨l, ?_, hext.trans hext'⟩
    rw [Node.renderAll, outcome_bind_of_ok hout]
    exact hrest

/-- A template that is given a dictionary with something in it writes what its nodes write. -/
theorem exists_rendered (hr : h.cells[r]? = some (.dict es)) (hes : es ≠ [])
    (hns : List.Forall₂ (Node.Writes m r h) ns ss) : ∃ l,
    outcome (renderTemplate m ns (some (.dict r))) h = (.ok (ss.foldl (· ++ ·) ""), l) ∧
      h.Extends l := by
  have htruthy : h.truthy (.dict r) = true := by
    rw [Heap.truthy, Heap.entries, hr]
    simpa using hes
  have hcontext : outcome (contextOf (some (.dict r))) h = (.ok (some (.dict r)), h) := by
    rw [contextOf, outcome_get_bind, Option.filter_some, if_pos htruthy]
    rfl
  obtain ⟨l, hl, hext⟩ := exists_renderAll hns (.refl h) ""
  refine ⟨l, ?_, hext⟩
  rw [renderTemplate, outcome_bind_of_ok hcontext, outcome_bind_of_ok hl]
  rfl

theorem writes_text (s : String) : (Node.text s).Writes m r h s :=
  fun k _ _ => ⟨k, rfl, .refl k⟩

/-- A value that is written as a text, with references or without. -/
def Value.Shows (v : Value) (s : String) : Prop := v ≠ .null ∧ ∀ h : Heap, h.display v = .ok s

theorem shows_str (s : String) : (Value.str s).Shows s := ⟨nofun, fun _ => rfl⟩

theorem shows_int {n : Int} (hs : intText n = .ok s) : (Value.int n).Shows s :=
  ⟨nofun, fun _ => hs⟩

theorem outcome_plainText (hv : v.Shows s) (k : Heap) :
    outcome (plainText v) k = (.ok s, k) := by
  have hlift : outcome (Eval.lift (k.display v)) k = (.ok s, k) := by
    rw [hv.2 k]
    rfl
  unfold plainText
  split
  · exact absurd rfl hv.1
  · rw [outcome_get_bind]
    exact hlift

theorem writes_interpolate (he : e.Yields m r h v) (hv : v.Shows s) :
    (Node.interpolate e).Writes m r h s := by
  intro k hk text
  obtain ⟨l, hl, hext⟩ := he k hk
  refine ⟨l, ?_, hext⟩
  rw [Node.render, Page.eval, outcome_bind_of_ok hl, outcome_bind_of_ok (outcome_plainText hv l)]
  rfl

theorem writes_escape (he : e.Yields m r h v) (hv : v.Shows s) :
    (Node.escape e).Writes m r h (String.ofList (Text.Html.escape s.toList)) := by
  intro k hk text
  obtain ⟨l, hl, hext⟩ := he k hk
  have hescaped : outcome (escapedText v) l =
      (.ok (String.ofList (Text.Html.escape s.toList)), l) := by
    rw [escapedText, outcome_bind_of_ok (outcome_plainText hv l)]
    rfl
  refine ⟨l, ?_, hext⟩
  rw [Node.render, Page.eval, outcome_bind_of_ok hl, outcome_bind_of_ok hescaped]
  rfl

/-- A condition that holds writes what its first body is. -/
theorem writes_cond {rest : Branches} (he : e.Yields m r h (.bool true)) :
    (Node.cond e [.text s] rest).Writes m r h s := by
  intro k hk text
  obtain ⟨l, hl, hext⟩ := he k hk
  refine ⟨l, ?_, hext⟩
  rw [Node.render, Page.eval, outcome_bind_of_ok hl, outcome_get_bind]
  rfl

theorem Heap.Extends.lookup_cell (hk : h.Extends k) (hr : h.cells[r]? = some (.dict es))
    (key : Value) : k.lookup r key = es.lookup key := by
  rw [Heap.lookup, Heap.entries, hk.cell hr]

/-- The value of a name that the context has. -/
theorem outcome_evalName (hv : k.lookup r (.str id) = some v) :
    outcome (evalName ⟨[], some (.dict r)⟩ id) k = (.ok v, k) := by
  have hfound : outcome (Scope.lookup? ⟨[], some (.dict r)⟩ id) k =
      (.ok (k.lookup r (.str id)), k) := rfl
  rw [evalName, outcome_bind_of_ok hfound, hv]
  rfl

theorem Expression.yields_of_eval (he : ∀ k, h.Extends k → ∃ l,
    outcome (e.expr.eval m.call ⟨[], some (.dict r)⟩) k = (.ok v, l) ∧ k.Extends l) :
    e.Yields m r h v := by
  intro k hk
  obtain ⟨l, hl, hext⟩ := he k hk
  refine ⟨l, ?_, hext⟩
  rw [Expression.eval, outcome_tryCatch, hl]

theorem yields_name {source : String} (hr : h.cells[r]? = some (.dict es))
    (hv : es.lookup (.str id) = some v) : Expression.Yields m r h ⟨source, .name id⟩ v := by
  refine Expression.yields_of_eval fun k hk => ⟨k, ?_, .refl k⟩
  exact outcome_evalName ((hk.lookup_cell hr _).trans hv)

end

/-! ## The number of a tag -/

namespace Signup

section

variable {r : Ref} {h k : Heap} {es : Entries} (limit depth : Nat)

/-- A text is split at its points. -/
theorem outcome_call_split (s : String) (k : Heap) :
    outcome (callTo limit (depth + 1) (.method (.str s) .split) ⟨[.str "."], []⟩) k =
      (.ok (.list k.cells.size), ⟨k.cells.push
        (.list ((Sequence.splitOn ['.'] none s.toList).map Value.ofChars).toArray)⟩) := rfl

theorem outcome_call_int (s : String) (k : Heap) :
    outcome (callTo limit (depth + 1) (.helper .int) ⟨[.str s], []⟩) k =
      outcome (Eval.lift (readWhole 10 s.toList)) k := rfl

/-- The last item of a list. -/
theorem outcome_getItemOrNull_last {r : Ref} {v w : Value}
    (hr : k.cells[r]? = some (.list #[v, w])) :
    outcome (getItemOrNull (.list r) (.int (-1))) k = (.ok w, k) := by
  have hitems : outcome (Eval.items r) k = (.ok [v, w], k) := by
    rw [Eval.items, outcome_get_bind, Heap.items, hr]
    rfl
  have hitem : outcome (getItem (.list r) (.int (-1))) k = (.ok w, k) := by
    rw [getItem, outcome_bind_of_ok hitems]
    rfl
  rw [getItemOrNull_eq, outcome_tryCatch, hitem]

section

variable {name : String} (hname : k.lookup r (.str "name") = some (.str name))
include hname

theorem outcome_segments :
    outcome (segments.eval (callTo limit (depth + 1)) ⟨[], some (.dict r)⟩) k =
      (.ok (.list k.cells.size), ⟨k.cells.push
        (.list ((Sequence.splitOn ['.'] none name.toList).map Value.ofChars).toArray)⟩) := by
  have hmethod : outcome (Expr.eval (callTo limit (depth + 1)) ⟨[], some (.dict r)⟩
      (.attr (.name "name") "split")) k = (.ok (.method (.str name) .split), k) := by
    rw [Expr.eval, Expr.eval, outcome_bind_of_ok (outcome_evalName hname), outcome_get_bind]
    rfl
  rw [segments, Expr.eval, outcome_bind_of_ok hmethod]
  exact outcome_call_split limit depth name k

/-- The last segment of a name with two. -/
theorem exists_lastSegment {p q : List Char} (hp : '.' ∉ p) (hq : '.' ∉ q)
    (hpq : name.toList = p ++ '.' :: q) : ∃ l,
    outcome (lastSegment.eval (callTo limit (depth + 1)) ⟨[], some (.dict r)⟩) k =
      (.ok (.ofChars q), l) ∧ k.Extends l := by
  have hsegments := outcome_segments limit depth hname
  rw [hpq, splitOn_position hp hq] at hsegments
  refine ⟨_, ?_, (Heap.Extends.refl k).push (.list #[.ofChars p, .ofChars q])⟩
  rw [lastSegment, Expr.eval, outcome_bind_of_ok hsegments]
  exact outcome_getItemOrNull_last Array.getElem?_push_size

end

/-- A helper, unless the context has its name. -/
theorem outcome_evalName_int (hint : k.lookup r (.str "int") = none) :
    outcome (evalName ⟨[], some (.dict r)⟩ "int") k = (.ok (.helper .int), k) := by
  have hfound : outcome (Scope.lookup? ⟨[], some (.dict r)⟩ "int") k =
      (.ok (k.lookup r (.str "int")), k) := rfl
  rw [evalName, outcome_bind_of_ok hfound, hint]
  rfl

/-- **The number of a tag is its position, counted from one.** -/
theorem yields_tagNumber (hr : h.cells[r]? = some (.dict es)) {p : List Char} (hp : '.' ∉ p)
    {i : Nat} (hname : es.lookup (.str "name") = some (.ofChars (p ++ '.' :: Nat.toDigits 10 i)))
    (hint : es.lookup (.str "int") = none) (hi : (i : Int) < Value.maxSize) :
    tagNumber.Yields ⟨callTo limit (depth + 1), limit⟩ r h (.int (i + 1)) := by
  refine Expression.yields_of_eval fun k hk => ?_
  have hdigits : '.' ∉ Nat.toDigits 10 i := fun hmem => by
    have := isDigit_of_mem_digits hmem
    simp at this
  obtain ⟨l, hlast, hl⟩ := exists_lastSegment limit depth
    ((hk.lookup_cell hr _).trans hname) hp hdigits String.toList_ofList
  have hargs : outcome (Expr.evalAll (callTo limit (depth + 1)) ⟨[], some (.dict r)⟩
      [lastSegment]) k = (.ok [.ofChars (Nat.toDigits 10 i)], l) := by
    rw [Expr.evalAll, outcome_bind_of_ok hlast]
    rfl
  have hread : readWhole 10 (String.ofList (Nat.toDigits 10 i)).toList = .ok (.int i) := by
    rw [String.toList_ofList, readWhole_digits (intText_of_le (by omega)).2]
  have hcall : outcome (Expr.eval (callTo limit (depth + 1)) ⟨[], some (.dict r)⟩
      (.call (.name "int") [lastSegment] [])) k = (.ok (.int i), l) := by
    have hcallable : (Value.helper .int).isCallable = true := rfl
    rw [Expr.eval, Expr.eval,
      outcome_bind_of_ok (outcome_evalName_int ((hk.lookup_cell hr _).trans hint)),
      if_pos hcallable, outcome_bind_of_ok hargs, Expr.evalNamed, pure_bind,
      Value.ofChars, outcome_call_int limit depth, hread]
    rfl
  refine ⟨l, ?_, hl⟩
  rw [tagNumber, Expr.eval, outcome_bind_of_ok hcall]
  rfl

end

end Signup

end Wording
