import Mathlib.Analysis.CStarAlgebra.Classes
import Mathlib.Analysis.SpecialFunctions.Complex.Arg

/-!
# The argument of a turned number

A point that moves on an ellipse around the origin is `cos θ • p + sin θ • q`. Its argument follows
the angle `θ` only if the ellipse is a circle, passed through at constant speed: only if `q` is `p`,
turned by a right angle (`arg_ellipse_iff`). The argument of zero is zero and follows nothing.
-/

namespace Complex

/-- The direction of an angle. -/
noncomputable def direction (θ : ℝ) : ℂ := ⟨Real.cos θ, Real.sin θ⟩

theorem direction_ne_zero (θ : ℝ) : direction θ ≠ 0 := by
  intro hzero
  have hcos : Real.cos θ = 0 := congrArg re hzero
  have hsin : Real.sin θ = 0 := congrArg im hzero
  have hunit := Real.cos_sq_add_sin_sq θ
  rw [hcos, hsin] at hunit
  norm_num at hunit

theorem arg_direction (θ : ℝ) : (arg (direction θ) : Real.Angle) = θ := by
  have heq : direction θ = Real.Angle.cos θ + Real.Angle.sin θ * I := by
    rw [Real.Angle.cos_coe, Real.Angle.sin_coe]
    exact mk_eq_add_mul_I _ _
  rw [heq, arg_cos_add_sin_mul_I_coe_angle]

/-- A number turned by an angle has the argument turned by the angle. -/
theorem arg_mul_direction {p : ℂ} (hp : p ≠ 0) (θ : ℝ) :
    (arg (p * direction θ) : Real.Angle) = arg p + θ := by
  rw [arg_mul_coe_angle hp (direction_ne_zero θ), arg_direction]

/-- Numbers whose arguments differ by an angle lie on rays that differ by the angle. -/
theorem exists_pos_of_arg_eq_add {p q : ℂ} (hp : p ≠ 0) (hq : q ≠ 0) {θ : ℝ}
    (h : (arg q : Real.Angle) = arg p + θ) : ∃ r : ℝ, 0 < r ∧ q = r • (p * direction θ) := by
  have hturned : p * direction θ ≠ 0 := mul_ne_zero hp (direction_ne_zero θ)
  rw [← arg_mul_direction hp θ, arg_coe_angle_eq_iff, eq_comm, arg_eq_arg_iff hturned hq] at h
  refine ⟨‖q‖ / ‖p * direction θ‖, div_pos (norm_pos_iff.mpr hq) (norm_pos_iff.mpr hturned), ?_⟩
  rw [real_smul, ofReal_div]
  exact h.symm

/-- The point of an ellipse at an angle. -/
noncomputable def ellipse (p q : ℂ) (θ : ℝ) : ℂ := Real.cos θ • p + Real.sin θ • q

theorem ellipse_circle (p : ℂ) (θ : ℝ) : ellipse p (I * p) θ = p * direction θ := by
  apply Complex.ext
  · simp only [ellipse, direction, add_re, real_smul, mul_re, mul_im, ofReal_re, ofReal_im, I_re,
      I_im]
    ring
  · simp only [ellipse, direction, add_im, real_smul, mul_re, mul_im, ofReal_re, ofReal_im, I_re,
      I_im]
    ring

section Follows

variable {p q : ℂ}

/-- Where the argument follows, neither half axis vanishes. -/
theorem ne_zero_of_arg_ellipse (h : ∀ θ, (arg (ellipse p q θ) : Real.Angle) = arg p + θ) :
    p ≠ 0 ∧ q ≠ 0 := by
  have hzero : (arg 0 : Real.Angle) = 0 := by rw [arg_zero, Real.Angle.coe_zero]
  constructor
  · rintro rfl
    have hturn := h Real.pi
    rw [ellipse, Real.sin_pi, smul_zero, zero_smul, zero_add, hzero, zero_add] at hturn
    exact Real.Angle.pi_ne_zero hturn.symm
  · rintro rfl
    have hquarter := h (Real.pi / 2)
    have hback := h (-(Real.pi / 2))
    rw [ellipse, Real.cos_pi_div_two, zero_smul, smul_zero, zero_add, hzero] at hquarter
    rw [ellipse, Real.cos_neg, Real.cos_pi_div_two, zero_smul, smul_zero, zero_add, hzero,
      hquarter] at hback
    have hhalf : ((Real.pi / 2 : ℝ) : Real.Angle) = ((-(Real.pi / 2) : ℝ) : Real.Angle) :=
      add_left_cancel hback
    have hsin := congrArg Real.Angle.sin hhalf
    rw [Real.Angle.sin_coe, Real.Angle.sin_coe, Real.sin_neg, Real.sin_pi_div_two] at hsin
    norm_num at hsin

/-- The other half axis is a right angle ahead, and by the eighth of a turn as long. -/
theorem eq_I_mul_of_arg_ellipse (h : ∀ θ, (arg (ellipse p q θ) : Real.Angle) = arg p + θ) :
    q = I * p := by
  obtain ⟨hp, hq⟩ := ne_zero_of_arg_ellipse h
  have hright : direction (Real.pi / 2) = I := by
    rw [direction, Real.cos_pi_div_two, Real.sin_pi_div_two]
    rfl
  have hquarter := h (Real.pi / 2)
  rw [ellipse, Real.cos_pi_div_two, Real.sin_pi_div_two, zero_smul, one_smul, zero_add] at hquarter
  obtain ⟨r, -, hray⟩ := exists_pos_of_arg_eq_add hp hq hquarter
  rw [hright] at hray
  set c := Real.cos (Real.pi / 4) with hcos
  have hc : c ≠ 0 := by
    rw [hcos, Real.cos_pi_div_four]
    positivity
  have hdiagonal : direction (Real.pi / 4) = c • (1 + I) := by
    rw [direction, Real.sin_pi_div_four, ← Real.cos_pi_div_four, ← hcos]
    apply Complex.ext <;> simp
  have hpoint : ellipse p q (Real.pi / 4) = c • (p * (1 + r * I)) := by
    rw [ellipse, Real.sin_pi_div_four, ← Real.cos_pi_div_four, ← hcos, hray]
    simp only [real_smul]
    ring
  have hfactor : (1 + r * I : ℂ) ≠ 0 := fun hzero ↦ by
    have hre := congrArg re hzero
    simp at hre
  have hpoint_ne : ellipse p q (Real.pi / 4) ≠ 0 := by
    rw [hpoint]
    exact smul_ne_zero hc (mul_ne_zero hp hfactor)
  obtain ⟨s, -, heighth⟩ := exists_pos_of_arg_eq_add hp hpoint_ne (h (Real.pi / 4))
  have hsame : (1 + r * I : ℂ) = s * (1 + I) := by
    refine mul_left_cancel₀ hp (smul_right_injective ℂ hc ?_)
    show c • (p * (1 + r * I)) = c • (p * (s * (1 + I)))
    rw [← hpoint, heighth, hdiagonal]
    simp only [real_smul]
    ring
  have hs : 1 = s := by simpa using congrArg re hsame
  have hr : r = s := by simpa using congrArg im hsame
  rw [hray, hr, ← hs, one_smul, mul_comm]

/-- **The argument of a point on an ellipse follows the angle only on a circle.** -/
theorem arg_ellipse_iff :
    (∀ θ, (arg (ellipse p q θ) : Real.Angle) = arg p + θ) ↔ p ≠ 0 ∧ q = I * p := by
  constructor
  · intro h
    exact ⟨(ne_zero_of_arg_ellipse h).1, eq_I_mul_of_arg_ellipse h⟩
  · rintro ⟨hp, rfl⟩ θ
    rw [ellipse_circle, arg_mul_direction hp]

end Follows

end Complex
