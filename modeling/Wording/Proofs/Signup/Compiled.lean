import Wording.Proofs.Marker.Braces
import Wording.Signup.Form

/-!
# The texts of the form as templates
-/

namespace Wording

/-! ## Trees that are alike -/

namespace Expr

mutual

/-- Whether two expressions are alike, as far as names, literals, calls, subscripts and operators
go. -/
def same : Expr → Expr → Bool
  | .literal (.int m), .literal (.int n) => m == n
  | .literal (.text s a), .literal (.text t b) => s == t && a == b
  | .name id, .name id' => id == id'
  | .attr e f, .attr e' f' => same e e' && f == f'
  | .subscript e k, .subscript e' k' => same e e' && same k k'
  | .unary op e, .unary op' e' => decide (op = op') && same e e'
  | .binary op a b, .binary op' a' b' => decide (op = op') && same a a' && same b b'
  | .compare e rest, .compare e' rest' => same e e' && sameRest rest rest'
  | .call f args [], .call f' args' [] => same f f' && sameAll args args'
  | _, _ => false

def sameAll : List Expr → List Expr → Bool
  | [], [] => true
  | e :: es, e' :: es' => same e e' && sameAll es es'
  | _, _ => false

def sameRest : List (CompareOp × Expr) → List (CompareOp × Expr) → Bool
  | [], [] => true
  | (op, e) :: es, (op', e') :: es' => decide (op = op') && same e e' && sameRest es es'
  | _, _ => false

end

theorem eq_of_same : ∀ a b : Expr, same a b = true → a = b := by
  apply same.induct (fun a b => same a b = true → a = b)
    (fun as bs => sameAll as bs = true → as = bs) fun as bs => sameRest as bs = true → as = bs
  all_goals grind [same, sameAll, sameRest]

end Expr

mutual

/-- Whether two nodes are alike, as far as texts, escaped values and conditions go. -/
def Node.same : Node → Node → Bool
  | .text s, .text t => s == t
  | .escape e, .escape e' => e.source == e'.source && e.expr.same e'.expr
  | .cond e body rest, .cond e' body' rest' =>
    e.source == e'.source && e.expr.same e'.expr && Node.sameAll body body' &&
      Branches.same rest rest'
  | _, _ => false

def Node.sameAll : List Node → List Node → Bool
  | [], [] => true
  | n :: ns, n' :: ns' => Node.same n n' && Node.sameAll ns ns'
  | _, _ => false

def Branches.same : Branches → Branches → Bool
  | .done, .done => true
  | .otherwise body, .otherwise body' => Node.sameAll body body'
  | _, _ => false

end

theorem Expression.eq_of_same {e e' : Expression}
    (h : (e.source == e'.source && e.expr.same e'.expr) = true) : e = e' := by
  obtain ⟨hsource, hexpr⟩ := Bool.and_eq_true_iff.mp h
  obtain ⟨source, expr⟩ := e
  cases beq_iff_eq.mp hsource
  cases Expr.eq_of_same _ _ hexpr
  rfl

theorem Node.eq_of_sameAll : ∀ ns ns' : List Node, sameAll ns ns' = true → ns = ns' := by
  apply Node.sameAll.induct (fun n n' => Node.same n n' = true → n = n') 
    (fun b b' => Branches.same b b' = true → b = b')
    (fun ns ns' => Node.sameAll ns ns' = true → ns = ns')
  all_goals grind [Node.same, Node.sameAll, Branches.same, Expression.eq_of_same]

namespace Signup

/-! ## Templates of the form -/

/-- The markers of the box for the form. -/
def formMarkers : Except MarkerError Markers :=
  Markers.ofOffers Marker.doubleBraces Marker.tripleBraces Marker.hashBraces

theorem regex_of_formMarkers {m : Markers} (hm : formMarkers = .ok m) :
    m.matcher.regex = Braces.pattern := by
  have h := Braces.regex_ofOffers
  rw [← formMarkers, hm] at h
  exact Option.some.inj h

/-- Whether a text is compiled to a tree. -/
def compilesTo (text : String) (ns : List Node) : Bool :=
  let cs := text.toList.toArray
  let hits := (Braces.pattern.scan cs).map (Markers.Hit.ofMatch cs)
  match Node.ofPieces (Piece.ofHits cs 0 hits) with
  | .ok nodes => Node.sameAll nodes ns
  | .error _ => false

theorem compile_of_compilesTo {m : Markers} (hm : formMarkers = .ok m) {text : String}
    {ns : List Node} (h : compilesTo text ns = true) :
    Template.compile m text = .ok ⟨text, m, ns⟩ := by
  unfold compilesTo at h
  rw [Template.compile, Piece.ofText, Markers.hits, regex_of_formMarkers hm]
  dsimp only at h ⊢
  generalize Node.ofPieces (Piece.ofHits text.toList.toArray 0
    ((Braces.pattern.scan text.toList.toArray).map (Markers.Hit.ofMatch text.toList.toArray))) =
      result at h ⊢
  cases result with
  | ok nodes => rw [Node.eq_of_sameAll nodes ns h]
  | error e => cases h

def shown (id : String) : Node := .escape ⟨id, .name id⟩

/-- The segments of a name. -/
def segments : Expr := .call (.attr (.name "name") "split") [.literal (.text "." false)] []

def lastSegment : Expr := .subscript segments (.unary .minus (.literal (.int 1)))

/-- The number of a tag, counted from one. -/
def tagNumber : Expression :=
  ⟨"int(name.split(\x27.\x27)[-1]) + 1",
    .binary .add (.call (.name "int") [lastSegment] []) (.literal (.int 1))⟩

end Signup

end Wording
