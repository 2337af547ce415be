import StylyNetSync.Godot.CoordinateConverter
import StylyNetSync.Protocol.RotationCodec

/-!
# The closed form of the rotation conversion

Over the real numbers, converting a rotation on its quaternion is conjugating its matrix with the
reflection, and the way back from the matrix leads to the quaternion again, up to its sign. The
components of the quaternion decide which branch is taken on that way: the divisor of each is four
times the magnitude of one of them, and the comparisons select one that is not zero.
-/

namespace StylyNetSync

/-! ### The matrix of a unit quaternion -/

/-- The entries of the matrix, over the real numbers. -/
theorem basisFromQuaternion_of_unit {q : Quat ℝ} (h : q.magSq = 1) :
    basisFromQuaternion q =
      ⟨![![1 - 2 * (q.y * q.y + q.z * q.z), 2 * (q.x * q.y - q.w * q.z),
          2 * (q.x * q.z + q.w * q.y)],
        ![2 * (q.x * q.y + q.w * q.z), 1 - 2 * (q.x * q.x + q.z * q.z),
          2 * (q.y * q.z - q.w * q.x)],
        ![2 * (q.x * q.z - q.w * q.y), 2 * (q.y * q.z + q.w * q.x),
          1 - 2 * (q.x * q.x + q.y * q.y)]]⟩ := by
  rw [basisFromQuaternion, normalizeQuaternion_of_unit h, Double.lit_one_real, Double.lit_two_real]

theorem reflectionMatrix_real (r c : Fin 3) :
    (reflectionMatrix : Mat3 ℝ).m r c = if r = c then if r = 2 then -1 else 1 else 0 := by
  have hdiagonal (i : Fin 3) : (kReflectionDiagonal i : ℝ) = if i = 2 then -1 else 1 := by
    match i with
    | 0 => exact Rat.cast_one
    | 1 => exact Rat.cast_one
    | 2 => exact (Rat.cast_neg 1).trans (congrArg _ Rat.cast_one)
  show (if r = c then kReflectionDiagonal r else Double.lit 0) = _
  rw [hdiagonal, Double.lit_zero_real]

theorem matrixMultiply_real (a b : Mat3 ℝ) (r c : Fin 3) :
    (matrixMultiply a b).m r c = ∑ k, a.m r k * b.m k c := by
  show Double.lit 0 + a.m r 0 * b.m 0 c + a.m r 1 * b.m 1 c + a.m r 2 * b.m 2 c = _
  rw [Double.lit_zero_real, zero_add, Fin.sum_univ_three]

/-- Conjugating with the reflection changes the sign of an entry for each index on the third
axis. -/
theorem conjugateWithReflection_real (basis : Mat3 ℝ) (r c : Fin 3) :
    (conjugateWithReflection basis).m r c =
      (if r = 2 then -1 else 1) * basis.m r c * if c = 2 then -1 else 1 := by
  rw [conjugateWithReflection, matrixMultiply_real]
  simp only [matrixMultiply_real, reflectionMatrix_real, ite_mul, zero_mul, mul_ite, mul_zero,
    Finset.sum_ite_eq, Finset.sum_ite_eq', Finset.mem_univ, if_true]

theorem magSq_rotationGodotToNetsync (q : Quat ℝ) :
    (Coordinates.rotationGodotToNetsync q).magSq = q.magSq := by
  rw [Coordinates.rotationGodotToNetsync, Quat.magSq, Quat.magSq, neg_mul_neg, neg_mul_neg]

/-- **The quaternion shortcut is the basis conjugation.** -/
theorem basisFromQuaternion_rotationGodotToNetsync {q : Quat ℝ} (h : q.magSq = 1) :
    basisFromQuaternion (Coordinates.rotationGodotToNetsync q) =
      conjugateWithReflection (basisFromQuaternion q) := by
  have hconjugate : conjugateWithReflection (basisFromQuaternion q) = ⟨fun r c ↦
      (if r = 2 then -1 else 1) * (basisFromQuaternion q).m r c * if c = 2 then -1 else 1⟩ :=
    congrArg Mat3.mk (funext₂ (conjugateWithReflection_real _))
  rw [hconjugate, basisFromQuaternion_of_unit ((magSq_rotationGodotToNetsync q).trans h),
    basisFromQuaternion_of_unit h]
  congr 1
  funext r c
  simp only [Coordinates.rotationGodotToNetsync]
  fin_cases r <;> fin_cases c <;> simp <;> ring

/-! ### The way back -/

/-- The component that a branch takes from the square root. -/
def BasisBranch.component (q : Quat ℝ) : BasisBranch → ℝ
  | w => q.w
  | x => q.x
  | y => q.y
  | z => q.z

/-- **The divisor of each branch is four times the magnitude of its component.** -/
theorem divisor_basisFromQuaternion {q : Quat ℝ} (h : q.magSq = 1) (branch : BasisBranch) :
    branch.divisor (basisFromQuaternion q) = 4 * |branch.component q| := by
  have hfour : √(4 : ℝ) = 2 := by
    rw [show (4 : ℝ) = 2 ^ 2 by norm_num, Real.sqrt_sq (by norm_num)]
  have hroot {a b : ℝ} (hab : a = 4 * b ^ 2) : √a * 2 = 4 * |b| := by
    rw [hab, Real.sqrt_mul (by norm_num), Real.sqrt_sq_eq_abs, hfour]
    ring
  have hunit : q.x * q.x + q.y * q.y + q.z * q.z + q.w * q.w = 1 := h
  rw [basisFromQuaternion_of_unit h]
  -- The diagonal entries add up to the square of the component, by the norm for the trace.
  cases branch with
  | w =>
    rw [BasisBranch.divisor, BasisBranch.component, Double.lit_one_real, Double.lit_two_real]
    refine hroot ?_
    show 1 - 2 * (q.y * q.y + q.z * q.z) + (1 - 2 * (q.x * q.x + q.z * q.z)) +
      (1 - 2 * (q.x * q.x + q.y * q.y)) + 1 = 4 * q.w ^ 2
    linarith
  | x =>
    rw [BasisBranch.divisor, BasisBranch.component, Double.lit_one_real, Double.lit_two_real]
    refine hroot ?_
    show 1 + (1 - 2 * (q.y * q.y + q.z * q.z)) - (1 - 2 * (q.x * q.x + q.z * q.z)) -
      (1 - 2 * (q.x * q.x + q.y * q.y)) = 4 * q.x ^ 2
    ring
  | y =>
    rw [BasisBranch.divisor, BasisBranch.component, Double.lit_one_real, Double.lit_two_real]
    refine hroot ?_
    show 1 + (1 - 2 * (q.x * q.x + q.z * q.z)) - (1 - 2 * (q.y * q.y + q.z * q.z)) -
      (1 - 2 * (q.x * q.x + q.y * q.y)) = 4 * q.y ^ 2
    ring
  | z =>
    rw [BasisBranch.divisor, BasisBranch.component, Double.lit_one_real, Double.lit_two_real]
    refine hroot ?_
    show 1 + (1 - 2 * (q.x * q.x + q.y * q.y)) - (1 - 2 * (q.y * q.y + q.z * q.z)) -
      (1 - 2 * (q.x * q.x + q.z * q.z)) = 4 * q.z ^ 2
    ring

/-- **The comparisons select a component that is not zero.** -/
theorem component_basisBranch_ne_zero {q : Quat ℝ} (h : q.magSq = 1) :
    (basisBranch (basisFromQuaternion q)).component q ≠ 0 := by
  have hunit : q.x * q.x + q.y * q.y + q.z * q.z + q.w * q.w = 1 := h
  rw [basisFromQuaternion_of_unit h, basisBranch]
  simp only [Double.lit_zero_real, Double.lt_real, Bool.and_eq_true]
  show (if 0 < 1 - 2 * (q.y * q.y + q.z * q.z) + (1 - 2 * (q.x * q.x + q.z * q.z)) +
      (1 - 2 * (q.x * q.x + q.y * q.y)) then BasisBranch.w
    else if 1 - 2 * (q.x * q.x + q.z * q.z) < 1 - 2 * (q.y * q.y + q.z * q.z) ∧
      1 - 2 * (q.x * q.x + q.y * q.y) < 1 - 2 * (q.y * q.y + q.z * q.z) then .x
    else if 1 - 2 * (q.x * q.x + q.y * q.y) < 1 - 2 * (q.x * q.x + q.z * q.z) then .y
    else .z).component q ≠ 0
  have hx := mul_self_nonneg q.x
  have hy := mul_self_nonneg q.y
  have hz := mul_self_nonneg q.z
  split_ifs with htrace hfirst hsecond
  · show q.w ≠ 0
    rw [← mul_self_pos]
    linarith
  · show q.x ≠ 0
    rw [← mul_self_pos]
    linarith [hfirst.1]
  · show q.y ≠ 0
    rw [← mul_self_pos]
    linarith
  · -- The third diagonal entry is the largest, and the trace is small.
    show q.z ≠ 0
    rw [← mul_self_pos]
    rw [not_and_or, not_lt, not_lt] at hfirst
    rcases hfirst with hfirst | hfirst <;> linarith

/-- **A branch restores the quaternion, with the sign of its component.** -/
theorem components_basisFromQuaternion {q : Quat ℝ} (h : q.magSq = 1) {branch : BasisBranch}
    (hne : branch.component q ≠ 0) :
    branch.components (basisFromQuaternion q) (4 * |branch.component q|) =
      q.scale (branch.component q / |branch.component q|) := by
  have hquarter : (Double.lit 0.25 : ℝ) = 1 / 4 := by
    rw [Double.lit_real]
    norm_num
  -- An entry of the matrix over the divisor, and the quarter of the divisor itself.
  have hentry {a b c : ℝ} (hc : c ≠ 0) (hab : a = 4 * (c * b)) : a / (4 * |c|) = c / |c| * b := by
    rw [hab, mul_div_mul_left _ _ four_ne_zero, div_mul_eq_mul_div]
  have hself {c : ℝ} (hc : c ≠ 0) : Double.lit 0.25 * (4 * |c|) = c / |c| * c := by
    have hmagnitude : c / |c| * c = |c| := by
      rw [div_mul_eq_mul_div, ← abs_mul_abs_self, mul_div_assoc, div_self (abs_ne_zero.mpr hc),
        mul_one]
    rw [hquarter, hmagnitude]
    ring
  rw [basisFromQuaternion_of_unit h, Quat.scale]
  cases branch with
  | w =>
    refine Quat.mk.injEq .. |>.mpr ⟨hentry hne ?_, hentry hne ?_, hentry hne ?_, hself hne⟩
    · show 2 * (q.y * q.z + q.w * q.x) - 2 * (q.y * q.z - q.w * q.x) = 4 * (q.w * q.x)
      ring
    · show 2 * (q.x * q.z + q.w * q.y) - 2 * (q.x * q.z - q.w * q.y) = 4 * (q.w * q.y)
      ring
    · show 2 * (q.x * q.y + q.w * q.z) - 2 * (q.x * q.y - q.w * q.z) = 4 * (q.w * q.z)
      ring
  | x =>
    refine Quat.mk.injEq .. |>.mpr ⟨hself hne, hentry hne ?_, hentry hne ?_, hentry hne ?_⟩
    · show 2 * (q.x * q.y - q.w * q.z) + 2 * (q.x * q.y + q.w * q.z) = 4 * (q.x * q.y)
      ring
    · show 2 * (q.x * q.z + q.w * q.y) + 2 * (q.x * q.z - q.w * q.y) = 4 * (q.x * q.z)
      ring
    · show 2 * (q.y * q.z + q.w * q.x) - 2 * (q.y * q.z - q.w * q.x) = 4 * (q.x * q.w)
      ring
  | y =>
    refine Quat.mk.injEq .. |>.mpr ⟨hentry hne ?_, hself hne, hentry hne ?_, hentry hne ?_⟩
    · show 2 * (q.x * q.y - q.w * q.z) + 2 * (q.x * q.y + q.w * q.z) = 4 * (q.y * q.x)
      ring
    · show 2 * (q.y * q.z - q.w * q.x) + 2 * (q.y * q.z + q.w * q.x) = 4 * (q.y * q.z)
      ring
    · show 2 * (q.x * q.z + q.w * q.y) - 2 * (q.x * q.z - q.w * q.y) = 4 * (q.y * q.w)
      ring
  | z =>
    refine Quat.mk.injEq .. |>.mpr ⟨hentry hne ?_, hentry hne ?_, hself hne, hentry hne ?_⟩
    · show 2 * (q.x * q.z + q.w * q.y) + 2 * (q.x * q.z - q.w * q.y) = 4 * (q.z * q.x)
      ring
    · show 2 * (q.y * q.z - q.w * q.x) + 2 * (q.y * q.z + q.w * q.x) = 4 * (q.z * q.y)
      ring
    · show 2 * (q.x * q.y + q.w * q.z) - 2 * (q.x * q.y - q.w * q.z) = 4 * (q.z * q.w)
      ring

/-! ### Up to the sign -/

theorem scale_neg_one (q : Quat ℝ) : q.scale (-1) = q.negate := by
  rw [Quat.scale, Quat.negate, neg_one_mul, neg_one_mul, neg_one_mul, neg_one_mul]

theorem negate_negate (q : Quat ℝ) : q.negate.negate = q := by
  simp only [Quat.negate, neg_neg]

theorem magSq_negate (q : Quat ℝ) : q.negate.magSq = q.magSq := by
  simp only [Quat.negate, Quat.magSq, neg_mul_neg]

/-- **From the matrix of a unit quaternion back to the quaternion**, or to the one with the other
sign. -/
theorem quaternionFromBasis_basisFromQuaternion {q : Quat ℝ} (h : q.magSq = 1) :
    0 < basisDivisor (basisFromQuaternion q) ∧
      (quaternionFromBasis (basisFromQuaternion q) = q ∨
        quaternionFromBasis (basisFromQuaternion q) = q.negate) ∧
      0 ≤ (quaternionFromBasis (basisFromQuaternion q)).w := by
  have hne := component_basisBranch_ne_zero h
  have hdivisor : basisDivisor (basisFromQuaternion q) =
      4 * |(basisBranch (basisFromQuaternion q)).component q| := divisor_basisFromQuaternion h _
  have hsigned (p : Quat ℝ) (hp : p.magSq = 1) :
      (if Double.lt p.w (Double.lit 0) then p.negate else p).magSq = 1 ∧
        0 ≤ (if Double.lt p.w (Double.lit 0) then p.negate else p).w := by
    rw [Double.lit_zero_real]
    simp only [Double.lt_real]
    split_ifs with hneg
    · exact ⟨(magSq_negate p).trans hp, neg_nonneg.mpr hneg.le⟩
    · exact ⟨hp, not_lt.mp hneg⟩
  have hout : (basisBranch (basisFromQuaternion q)).components (basisFromQuaternion q)
      (basisDivisor (basisFromQuaternion q)) = q ∨
    (basisBranch (basisFromQuaternion q)).components (basisFromQuaternion q)
      (basisDivisor (basisFromQuaternion q)) = q.negate := by
    rw [hdivisor, components_basisFromQuaternion h hne]
    rcases sign_eq _ hne with hsign | hsign
    · left
      rw [hsign, Quat.scale, one_mul, one_mul, one_mul, one_mul]
    · right
      rw [hsign, scale_neg_one]
  refine ⟨?_, ?_⟩
  · rw [hdivisor]
    exact mul_pos four_pos (abs_pos.mpr hne)
  · rw [quaternionFromBasis]
    rcases hout with hout | hout
    · obtain ⟨hunit, hw⟩ := hsigned q h
      rw [hout, normalizeQuaternion_of_unit hunit]
      exact ⟨by split_ifs <;> simp, hw⟩
    · obtain ⟨hunit, hw⟩ := hsigned q.negate ((magSq_negate q).trans h)
      rw [hout, normalizeQuaternion_of_unit hunit]
      exact ⟨by split_ifs <;> simp [negate_negate], hw⟩

/-- **The rotation conversion is its matrix form**, and the matrix leads back to it through a branch
with a positive divisor. -/
theorem rotationGodotToNetsync_eq_conjugation (q : Quat ℝ) (h : q.magSq = 1) :
    let converted := Coordinates.rotationGodotToNetsync q
    let basis := conjugateWithReflection (basisFromQuaternion q)
    basisFromQuaternion converted = basis ∧ 0 < basisDivisor basis ∧
      (quaternionFromBasis basis = converted ∨ quaternionFromBasis basis = converted.negate) ∧
      0 ≤ (quaternionFromBasis basis).w := by
  intro converted basis
  have hbasis : basisFromQuaternion converted = basis :=
    basisFromQuaternion_rotationGodotToNetsync h
  rw [← hbasis]
  exact ⟨rfl, quaternionFromBasis_basisFromQuaternion ((magSq_rotationGodotToNetsync q).trans h)⟩

/-- A half turn: the diagonal is -7/25, -1 and 7/25, so the trace is negative and the last entry
the largest. -/
theorem rotationGodotToNetsync_eq_conjugation_half_turn :
    0 < basisDivisor (conjugateWithReflection (basisFromQuaternion ⟨3 / 5, 0, 4 / 5, (0 : ℝ)⟩)) :=
  (rotationGodotToNetsync_eq_conjugation ⟨3 / 5, 0, 4 / 5, 0⟩ (by norm_num [Quat.magSq])).2.1

/-! ### Both ways -/

/-- Both conversions of a basis are the one conjugation, and it undoes itself. -/
theorem basis_round_trip (basis : Mat3 ℝ) :
    Coordinates.basisNetsyncToGodot (Coordinates.basisGodotToNetsync basis) = basis := by
  have hsign (i : Fin 3) : (if i = 2 then -1 else 1 : ℝ) * (if i = 2 then -1 else 1) = 1 := by
    split_ifs
    · exact (neg_mul_neg 1 1).trans (one_mul 1)
    · exact one_mul 1
  refine congrArg Mat3.mk (funext₂ fun r c ↦ ?_ : _ = basis.m)
  show (conjugateWithReflection (conjugateWithReflection basis)).m r c = basis.m r c
  rw [conjugateWithReflection_real, conjugateWithReflection_real, mul_assoc, mul_assoc, hsign c,
    mul_one, ← mul_assoc, hsign r, one_mul]

/-- So do those of a rotation. -/
theorem rotation_round_trip (q : Quat ℝ) :
    Coordinates.rotationNetsyncToGodot (Coordinates.rotationGodotToNetsync q) = q := by
  rw [Coordinates.rotationNetsyncToGodot, Coordinates.rotationGodotToNetsync, neg_neg, neg_neg]

end StylyNetSync
