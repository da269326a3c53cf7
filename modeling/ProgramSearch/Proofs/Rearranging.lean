/-
# ProgramSearch.Proofs.Rearranging -- catalogs in another order

Shuffling a catalog swaps its operators about, and ranking sorts them: whatever the seed and
whatever the prior, no operator is lost and none is added.
-/

import ProgramSearch.Catalog

namespace ProgramSearch

/-! ## Shuffling -/

namespace Random

theorem swapIfInBounds_perm {α : Type} (xs : Array α) (i j : Nat) :
    (xs.swapIfInBounds i j).toList.Perm xs.toList := by
  unfold Array.swapIfInBounds
  split
  · split
    · exact (Array.swap_perm _ _).toList
    · exact .refl _
  · exact .refl _

/-- Whatever the partners are, swapping keeps the elements. -/
theorem swapFrom_perm {α : Type} (i : Nat) (xs : Array α) (partners : List Nat) :
    (swapFrom i xs partners).toList.Perm xs.toList := by
  induction partners generalizing i xs with
  | nil => exact .refl _
  | cons partner rest ih => exact (ih (i + 1) _).trans (swapIfInBounds_perm xs i partner)

theorem shuffle_perm {α : Type} (seed : UInt64) (xs : List α) : (shuffle seed xs).Perm xs :=
  swapFrom_perm 0 xs.toArray _

end Random

/-! ## Catalogs -/

namespace Catalog

theorem shuffled_perm (catalog : Catalog) (seed : UInt64) :
    (catalog.shuffled seed).operators.Perm catalog.operators :=
  Random.shuffle_perm seed catalog.operators

/-- Ranking without a cutoff keeps all operators. -/
theorem ranked_perm (catalog : Catalog) (prior : Prior) :
    (catalog.ranked prior none).operators.Perm catalog.operators := by
  have hscored : (catalog.scored prior).map Prod.fst = catalog.operators := by
    rw [scored, List.map_map]
    exact List.map_id _
  have hsorted := (List.mergeSort_perm (catalog.scored prior) fun x y =>
    y.2.totalRank ≤ x.2.totalRank).map Prod.fst
  rw [hscored] at hsorted
  exact hsorted

end Catalog

end ProgramSearch
