import Wording.Catalog.Basic
import Wording.Proofs.Outcome

/-!
# Catalogs that are given out

A catalog can always be given out as a new dictionary (`exists_outcome_toDict`).
-/

namespace Wording.Catalog

mutual

theorem exists_outcome_toEntries : (c : Catalog) → (h : Heap) →
    ∃ es k, outcome c.toEntries h = (.ok es, k)
  | [], h => ⟨[], h, rfl⟩
  | (k, n) :: rest, h => by
    obtain ⟨v, h₁, hv⟩ := exists_outcome_nodeValue n h
    obtain ⟨es, h₂, hes⟩ := exists_outcome_toEntries rest h₁
    refine ⟨(k, v) :: es, h₂, ?_⟩
    rw [toEntries, outcome_bind_of_ok hv, outcome_bind_of_ok hes]
    rfl

theorem exists_outcome_nodeValue : (n : CatalogNode) → (h : Heap) →
    ∃ v k, outcome (nodeValue n) h = (.ok v, k)
  | .leaf v, h => ⟨v, h, rfl⟩
  | .node children, h => by
    obtain ⟨es, k, hes⟩ := exists_outcome_toEntries children h
    rw [nodeValue, outcome_bind_of_ok hes]
    exact ⟨_, _, rfl⟩

end

theorem exists_outcome_toDict (c : Catalog) (h : Heap) :
    ∃ v k, outcome c.toDict h = (.ok v, k) := by
  obtain ⟨es, k, hes⟩ := exists_outcome_toEntries c h
  rw [toDict, outcome_bind_of_ok hes]
  exact ⟨_, _, rfl⟩

end Wording.Catalog
