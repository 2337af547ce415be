import Mathlib.Algebra.BigOperators.Fin
import Mathlib.Algebra.Order.BigOperators.Ring.Finset
import Mathlib.Tactic.LinearCombination
import Mathlib.Tactic.Linarith

/-!
# Unit vectors with a component restored

A unit vector is determined by all its components but one, up to the sign of that one. If the
others are known with an error, so is the one restored from them, and the smaller it is the larger
its error: the chord between the two vectors is at most the error of the others, divided by half
the sum of the restored component and the true one (`sq_mul_chord_le`).
-/

namespace UnitVector

variable {K : Type*} [CommRing K] {n : ℕ} {u v : Fin (n + 1) → K}

/-- The square of the chord, by the product of the two. -/
theorem chord_sq (hu : ∑ j, u j ^ 2 = 1) (hv : ∑ j, v j ^ 2 = 1) :
    ∑ j, (u j - v j) ^ 2 = 2 - 2 * ∑ j, u j * v j := by
  have hexpand (j : Fin (n + 1)) : (u j - v j) ^ 2 = u j ^ 2 + v j ^ 2 - 2 * (u j * v j) := by ring
  simp only [hexpand, Finset.sum_sub_distrib, Finset.sum_add_distrib, ← Finset.mul_sum, hu, hv]
  ring

/-- The square of the diagonal beside the chord. -/
theorem diagonal_sq (hu : ∑ j, u j ^ 2 = 1) (hv : ∑ j, v j ^ 2 = 1) :
    ∑ j, (u j + v j) ^ 2 = 4 - ∑ j, (u j - v j) ^ 2 := by
  have hexpand (j : Fin (n + 1)) :
      (u j + v j) ^ 2 = 2 * u j ^ 2 + 2 * v j ^ 2 - (u j - v j) ^ 2 := by ring
  simp only [hexpand, Finset.sum_sub_distrib, Finset.sum_add_distrib, ← Finset.mul_sum, hu, hv]
  ring

/-- Since both are unit vectors, the error of one component is made up for by the others. -/
theorem restored_error (hu : ∑ j, u j ^ 2 = 1) (hv : ∑ j, v j ^ 2 = 1) (i : Fin (n + 1)) :
    (u i - v i) * (u i + v i) =
      -∑ k, (u (i.succAbove k) - v (i.succAbove k)) * (u (i.succAbove k) + v (i.succAbove k)) := by
  rw [Fin.sum_univ_succAbove _ i] at hu hv
  have hexpand (j : Fin (n + 1)) : (u j - v j) * (u j + v j) = u j ^ 2 - v j ^ 2 := by ring
  simp only [hexpand, Finset.sum_sub_distrib]
  linear_combination hu - hv

variable [LinearOrder K] [IsStrictOrderedRing K]

/-- **The chord is bounded by the error of the other components.** -/
theorem sq_mul_chord_le (hu : ∑ j, u j ^ 2 = 1) (hv : ∑ j, v j ^ 2 = 1) (i : Fin (n + 1)) :
    (u i + v i) ^ 2 * ∑ j, (u j - v j) ^ 2 ≤
      4 * ∑ k, (u (i.succAbove k) - v (i.succAbove k)) ^ 2 := by
  have hrestored := restored_error hu hv i
  have hdiagonal := diagonal_sq hu hv
  have hcauchy := Finset.sum_mul_sq_le_sq_mul_sq Finset.univ
    (fun k ↦ u (i.succAbove k) - v (i.succAbove k)) fun k ↦ u (i.succAbove k) + v (i.succAbove k)
  rw [Fin.sum_univ_succAbove _ i] at hdiagonal
  rw [Fin.sum_univ_succAbove _ i] at hdiagonal ⊢
  set others := ∑ k, (u (i.succAbove k) - v (i.succAbove k)) ^ 2 with hothers
  set sums := ∑ k, (u (i.succAbove k) + v (i.succAbove k)) ^ 2
  have hnonneg : 0 ≤ others := Finset.sum_nonneg fun k _ ↦ sq_nonneg _
  have hsquare : ((u i - v i) * (u i + v i)) ^ 2 ≤ others * sums := by
    rw [hrestored, neg_sq]
    exact hcauchy
  have hsums : sums ≤ 4 - (u i + v i) ^ 2 - others := by
    linarith [sq_nonneg (u i - v i)]
  calc (u i + v i) ^ 2 * ((u i - v i) ^ 2 + others)
      = ((u i - v i) * (u i + v i)) ^ 2 + (u i + v i) ^ 2 * others := by ring
    _ ≤ others * sums + (u i + v i) ^ 2 * others := by linarith
    _ ≤ others * (4 - (u i + v i) ^ 2 - others) + (u i + v i) ^ 2 * others := by
      gcongr
    _ ≤ 4 * others := by nlinarith [sq_nonneg others]

end UnitVector
