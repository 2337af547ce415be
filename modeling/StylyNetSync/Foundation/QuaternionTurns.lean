import Mathlib.Analysis.Quaternion
import Mathlib.Geometry.Euclidean.Angle.Unoriented.TriangleInequality

/-!
# Rotations near each other

A rotation is a unit quaternion up to its sign. Two of them are within an angle if the lines that
they span are within half of it. Errors of rotations add up when rotations are composed
(`Within.mul`): multiplication by a unit keeps all angles, and angles obey the triangle inequality.
-/

namespace QuaternionTurn

open InnerProductGeometry

variable {p q r s u : Quaternion ℝ} {θ φ : ℝ}

/-- The rotations of two unit quaternions are within twice the angle `θ` of each other. -/
def Within (θ : ℝ) (p q : Quaternion ℝ) : Prop := Real.cos θ ≤ |inner ℝ p q|

/-! ### Multiplication by a unit -/

theorem inner_mul_left (hu : ‖u‖ = 1) (p q : Quaternion ℝ) :
    inner ℝ (u * p) (u * q) = inner ℝ p q := by
  rw [real_inner_eq_norm_add_mul_self_sub_norm_mul_self_sub_norm_mul_self_div_two,
    real_inner_eq_norm_add_mul_self_sub_norm_mul_self_sub_norm_mul_self_div_two, ← mul_add,
    norm_mul, norm_mul, norm_mul, hu, one_mul, one_mul, one_mul]

theorem inner_mul_right (hu : ‖u‖ = 1) (p q : Quaternion ℝ) :
    inner ℝ (p * u) (q * u) = inner ℝ p q := by
  rw [real_inner_eq_norm_add_mul_self_sub_norm_mul_self_sub_norm_mul_self_div_two,
    real_inner_eq_norm_add_mul_self_sub_norm_mul_self_sub_norm_mul_self_div_two, ← add_mul,
    norm_mul, norm_mul, norm_mul, hu, mul_one, mul_one, mul_one]

/-! ### Angles between units -/

theorem cos_angle_of_unit (hp : ‖p‖ = 1) (hq : ‖q‖ = 1) : Real.cos (angle p q) = inner ℝ p q := by
  rw [cos_angle, hp, hq, mul_one, div_one]

theorem angle_le_of_cos_le (hp : ‖p‖ = 1) (hq : ‖q‖ = 1) (hnonneg : 0 ≤ θ) (hle : θ ≤ Real.pi)
    (h : Real.cos θ ≤ inner ℝ p q) : angle p q ≤ θ := by
  rw [← cos_angle_of_unit hp hq] at h
  exact (Real.strictAntiOn_cos.le_iff_ge ⟨hnonneg, hle⟩ ⟨angle_nonneg p q, angle_le_pi p q⟩).mp h

/-- One of the two quaternions of a rotation is near the other rotation's. -/
theorem Within.exists_sign (h : Within θ p q) (hp : ‖p‖ = 1) :
    ∃ p', (p' = p ∨ p' = -p) ∧ ‖p'‖ = 1 ∧ Real.cos θ ≤ inner ℝ p' q := by
  rcases abs_cases (inner ℝ p q) with ⟨habs, -⟩ | ⟨habs, -⟩
  · exact ⟨p, Or.inl rfl, hp, habs ▸ h⟩
  · refine ⟨-p, Or.inr rfl, (norm_neg p).trans hp, ?_⟩
    rw [inner_neg_left, ← habs]
    exact h

/-- **Errors add up.** -/
theorem Within.mul (hpq : Within θ p q) (hrs : Within φ r s) (hp : ‖p‖ = 1) (hq : ‖q‖ = 1)
    (hr : ‖r‖ = 1) (hs : ‖s‖ = 1) (hθ : 0 ≤ θ) (hφ : 0 ≤ φ) (hle : θ + φ ≤ Real.pi) :
    Within (θ + φ) (p * r) (q * s) := by
  obtain ⟨p', hp', hp'_norm, hp'_near⟩ := hpq.exists_sign hp
  obtain ⟨r', hr', hr'_norm, hr'_near⟩ := hrs.exists_sign hr
  have hfirst : angle (p' * r') (q * r') ≤ θ := by
    refine angle_le_of_cos_le ?_ ?_ hθ (by linarith) ?_
    · rw [norm_mul, hp'_norm, hr'_norm, one_mul]
    · rw [norm_mul, hq, hr'_norm, one_mul]
    · rwa [inner_mul_right hr'_norm]
  have hsecond : angle (q * r') (q * s) ≤ φ := by
    refine angle_le_of_cos_le ?_ ?_ hφ (by linarith) ?_
    · rw [norm_mul, hq, hr'_norm, one_mul]
    · rw [norm_mul, hq, hs, one_mul]
    · rwa [inner_mul_left hq]
  have hangle : angle (p' * r') (q * s) ≤ θ + φ :=
    (angle_le_angle_add_angle _ (q * r') _).trans (add_le_add hfirst hsecond)
  have hcos : Real.cos (θ + φ) ≤ inner ℝ (p' * r') (q * s) := by
    rw [← cos_angle_of_unit (by rw [norm_mul, hp'_norm, hr'_norm, one_mul])
      (by rw [norm_mul, hq, hs, one_mul])]
    exact Real.cos_le_cos_of_nonneg_of_le_pi (angle_nonneg _ _) hle hangle
  -- the signs do not matter to the rotation
  have hsign : |inner ℝ (p' * r') (q * s)| = |inner ℝ (p * r) (q * s)| := by
    rcases hp' with rfl | rfl <;> rcases hr' with rfl | rfl <;>
      simp only [neg_mul, mul_neg, neg_neg, inner_neg_left, abs_neg]
  rw [Within, ← hsign]
  exact hcos.trans (le_abs_self _)

end QuaternionTurn
