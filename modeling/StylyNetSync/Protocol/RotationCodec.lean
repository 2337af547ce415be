import Mathlib.Algebra.BigOperators.Field
import StylyNetSync.Foundation.DoubleReal
import StylyNetSync.Foundation.NearestInteger
import StylyNetSync.Protocol.SmallestThree

/-!
# Packed rotations in exact arithmetic

Over the real numbers, each step of the smallest-three packing is what its name says: normalising
divides by the norm, the scan finds the first of the largest components, and a component is packed
as the code nearest to it. All of it depends on the rotation only, not on the quaternion that
represents it (`compress_depends_on_rotation`).
-/

namespace StylyNetSync

/-! ### Rounding -/

/-- The source's rounding is rounding to the nearest integer, half to even. -/
theorem roundHalfToEven_real (x : ℝ) : roundHalfToEven x = (roundEven x : ℝ) := by
  have heven (n : ℤ) : Double.eq (Double.fmod (n : ℝ) (Double.lit 2)) (Double.lit 0) = true ↔
      Even n := by
    rw [← Double.fmod_two_eq_zero_iff, Double.eq_real, Double.lit_real, Double.lit_real,
      Rat.cast_ofNat, Rat.cast_zero]
  have hhalf : (Double.lit 0.5 : ℝ) = 1 / 2 := by
    rw [Double.lit_real]
    norm_num
  rw [roundHalfToEven, roundEven]
  simp only [Double.isFinite_real, Bool.not_true, Bool.false_eq_true, if_false, Double.floor_real,
    Double.lt_real, hhalf, heven]
  split_ifs <;> simp

/-! ### Components -/

theorem kQuatComponentMax_real : (kQuatComponentMax : ℝ) = 0.70710677 := by
  rw [kQuatComponentMax, Double.lit_real]
  norm_num

theorem kQuatComponentMin_real : (kQuatComponentMin : ℝ) = -0.70710677 := by
  rw [kQuatComponentMin, Double.lit_real]
  norm_num

/-- A component in the range of what is packed. -/
noncomputable def clampComponent (value : ℝ) : ℝ := min (max value (-0.70710677)) 0.70710677

/-- Where a component lies between the 1024 codes. -/
noncomputable def codePosition (value : ℝ) : ℝ :=
  (clampComponent value + 0.70710677) / 1.41421354 * 1023

theorem codePosition_bounds (value : ℝ) :
    ((0 : ℤ) : ℝ) ≤ codePosition value ∧ codePosition value ≤ ((1023 : ℤ) : ℝ) := by
  have hlower : -0.70710677 ≤ clampComponent value :=
    le_min (le_max_right _ _) (by norm_num)
  have hupper : clampComponent value ≤ 0.70710677 := min_le_right _ _
  rw [codePosition]
  constructor
  · have hquotient : 0 ≤ (clampComponent value + 0.70710677) / 1.41421354 :=
      div_nonneg (by linarith) (by norm_num)
    norm_num
    linarith
  · have hquotient : (clampComponent value + 0.70710677) / 1.41421354 ≤ 1 :=
      (div_le_one (by norm_num)).mpr (by linarith)
    norm_num
    linarith

/-- The two comparisons of the source clamp. -/
theorem ite_clampComponent (value : ℝ) :
    (if 0.70710677 < (if value < -0.70710677 then -0.70710677 else value) then 0.70710677
      else if value < -0.70710677 then -0.70710677 else value) = clampComponent value := by
  rw [clampComponent, min_comm, max_comm, min_def_lt, max_def_lt]
  split_ifs <;> first | rfl | linarith

/-- A component is packed as the code nearest to it. -/
theorem packComponent_real (value : ℝ) :
    ((packComponent value).toNat : ℤ) = roundEven (codePosition value) := by
  have hlower := le_roundEven (codePosition_bounds value).1
  have hupper := roundEven_le (codePosition_bounds value).2
  have hposition : (clampComponent value - -0.70710677) / (0.70710677 - -0.70710677) * 1023 =
      codePosition value := by
    rw [codePosition]
    norm_num
  have hscaled : roundHalfToEven (codePosition value) = (roundEven (codePosition value) : ℝ) :=
    roundHalfToEven_real _
  have hlit : ((1023 : ℚ) : ℝ) = 1023 := Rat.cast_ofNat 1023
  rw [packComponent]
  simp only [Double.lt_real, Double.lit_real, kQuatComponentMax_real,
    kQuatComponentMin_real, ite_clampComponent, hlit, hposition, hscaled, Rat.cast_zero]
  generalize roundEven (codePosition value) = code at hlower hupper ⊢
  have hnonneg : (0 : ℝ) ≤ code := Int.cast_nonneg hlower
  have hsmall : ¬(1023 : ℝ) < code := not_lt.mpr (by exact_mod_cast hupper)
  have hle : Double.le (0 : ℝ) code = true := (Double.le_real _ _).mpr hnonneg
  simp only [hle, hsmall, Bool.not_true, Bool.false_eq_true, if_false,
    Double.toInt_real_of_nonneg hnonneg, Int.floor_intCast]
  rw [UInt32.ofInt, UInt32.toNat_ofNat']
  omega

theorem packComponent_lt (value : ℝ) : (packComponent value).toNat < 1024 := by
  have hupper := roundEven_le (codePosition_bounds value).2
  rw [← packComponent_real] at hupper
  omega

theorem unpackComponent_real (word : UInt32) :
    (unpackComponent word : ℝ) = -0.70710677 + 1.41421354 * (word.toNat / 1023) := by
  rw [unpackComponent, kQuatComponentMax_real, kQuatComponentMin_real]
  simp only [Double.lit_real]
  norm_num
  ring

/-! ### Normalising -/

/-- The squared norm, as the source sums it up. -/
def Quat.magSq {D : Type} [Double D] (q : Quat D) : D :=
  q.x * q.x + q.y * q.y + q.z * q.z + q.w * q.w

theorem magSq_eq_sum (q : Quat ℝ) : q.magSq = ∑ i, q.component i ^ 2 := by
  rw [Fin.sum_univ_four, Quat.magSq]
  simp only [Quat.component, sq]

/-- Above the epsilon, normalising divides by the norm. -/
theorem normalizeQuaternion_real {q : Quat ℝ} (h : 1e-12 < q.magSq) :
    normalizeQuaternion q = ⟨q.x / √q.magSq, q.y / √q.magSq, q.z / √q.magSq, q.w / √q.magSq⟩ := by
  have hepsilon : (kQuatNormalizeEpsilon : ℝ) = 1e-12 := by
    rw [kQuatNormalizeEpsilon, Double.lit_real]
    norm_num
  have hlarge : Double.le q.magSq kQuatNormalizeEpsilon = false := by
    rw [Bool.eq_false_iff, Ne, Double.le_real, hepsilon, not_le]
    exact h
  rw [normalizeQuaternion]
  show (if !Double.isFinite q.magSq || Double.le q.magSq kQuatNormalizeEpsilon then _ else _) = _
  rw [hlarge, Double.isFinite_real, if_neg (by simp), Double.lit_one_real]
  simp only [Double.sqrt_real, ← div_eq_mul_one_div]
  rfl

theorem component_normalizeQuaternion {q : Quat ℝ} (h : 1e-12 < q.magSq) (i : Fin 4) :
    (normalizeQuaternion q).component i = q.component i / √q.magSq := by
  rw [normalizeQuaternion_real h]
  match i with
  | 0 => rfl
  | 1 => rfl
  | 2 => rfl
  | 3 => rfl

theorem magSq_pos {q : Quat ℝ} (h : 1e-12 < q.magSq) : 0 < q.magSq := lt_trans (by norm_num) h

/-- A normalised quaternion is a unit vector. -/
theorem sum_normalizeQuaternion {q : Quat ℝ} (h : 1e-12 < q.magSq) :
    ∑ i, (normalizeQuaternion q).component i ^ 2 = 1 := by
  simp only [component_normalizeQuaternion h, div_pow, ← Finset.sum_div, ← magSq_eq_sum,
    Real.sq_sqrt (magSq_pos h).le]
  exact div_self (magSq_pos h).ne'

/-- A unit quaternion is normalised already. -/
theorem normalizeQuaternion_of_unit {q : Quat ℝ} (h : q.magSq = 1) : normalizeQuaternion q = q := by
  rw [normalizeQuaternion_real (by rw [h]; norm_num), h, Real.sqrt_one]
  simp only [div_one]

/-! ### The largest component -/

/-- The first maximum among the values below a bound. -/
def FirstMaximum (a : Fin 4 → ℝ) (bound : ℕ) (best : Fin 4) : Prop :=
  best.val < bound ∧ ∀ j : Fin 4, j.val < bound → a j ≤ a best ∧ (j < best → a j < a best)

theorem FirstMaximum.step {a : Fin 4 → ℝ} {best next : Fin 4}
    (h : FirstMaximum a next.val best) :
    FirstMaximum a (next.val + 1)
      (if Double.lt (a best) (a next) then next else best) := by
  obtain ⟨hbest, hall⟩ := h
  split
  · next hlt =>
    rw [Double.lt_real] at hlt
    refine ⟨Nat.lt_succ_self _, fun j hj ↦ ?_⟩
    rcases Nat.lt_succ_iff_lt_or_eq.mp hj with hbelow | heq
    · have hj := (hall j hbelow).1.trans_lt hlt
      exact ⟨hj.le, fun _ ↦ hj⟩
    · obtain rfl := Fin.ext heq
      exact ⟨le_rfl, fun hself ↦ absurd hself (lt_irrefl _)⟩
  · next hge =>
    rw [Double.lt_real, not_lt] at hge
    refine ⟨Nat.lt_succ_of_lt hbest, fun j hj ↦ ?_⟩
    rcases Nat.lt_succ_iff_lt_or_eq.mp hj with hbelow | heq
    · exact hall j hbelow
    · obtain rfl := Fin.ext heq
      exact ⟨hge, fun hself ↦ absurd (hself.trans hbest) (lt_irrefl _)⟩

/-- **The scan finds the first maximum.** -/
theorem largestIndex_spec (a : Fin 4 → ℝ) : FirstMaximum a 4 (largestIndex a) := by
  have hstart : FirstMaximum a (1 : Fin 4).val 0 := by
    refine ⟨Nat.one_pos, fun j hj ↦ ?_⟩
    obtain rfl : j = 0 := Fin.ext (Nat.lt_one_iff.mp hj)
    exact ⟨le_rfl, fun hself ↦ absurd hself (lt_irrefl _)⟩
  have hone : FirstMaximum a (2 : Fin 4).val _ := hstart.step
  have htwo : FirstMaximum a (3 : Fin 4).val _ := hone.step
  exact htwo.step

/-- The scan looks at nothing but the order of the values. -/
theorem largestIndex_congr {a b : Fin 4 → ℝ} (h : ∀ i j, a i < a j ↔ b i < b j) :
    largestIndex a = largestIndex b := by
  have hlt (i j : Fin 4) : Double.lt (a i) (a j) = Double.lt (b i) (b j) := by
    rw [Bool.eq_iff_iff, Double.lt_real, Double.lt_real, h]
  simp only [largestIndex, hlt]

/-- The packed index names the first of the largest components. -/
theorem packedIndex_spec {q : Quat ℝ} (h : 1e-12 < q.magSq) (j : Fin 4) :
    |q.component j| ≤ |q.component (packedIndex q)| ∧
      (j < packedIndex q → |q.component j| < |q.component (packedIndex q)|) := by
  have hnorm : 0 < √q.magSq := Real.sqrt_pos.mpr (magSq_pos h)
  have hscaled (i : Fin 4) : Double.fabs ((normalizeQuaternion q).component i) =
      |q.component i| / √q.magSq := by
    rw [Double.fabs_real, component_normalizeQuaternion h, abs_div, abs_of_pos hnorm]
  have hindex : packedIndex q = largestIndex fun i ↦ |q.component i| := by
    rw [packedIndex]
    exact largestIndex_congr fun i j ↦ by
      rw [hscaled, hscaled, div_lt_div_iff_of_pos_right hnorm]
  rw [hindex]
  exact (largestIndex_spec fun i ↦ |q.component i|).2 j j.isLt

theorem abs_component_le_packedIndex (q : Quat ℝ) (j : Fin 4) :
    |(normalizeQuaternion q).component j| ≤ |(normalizeQuaternion q).component (packedIndex q)| :=
  ((largestIndex_spec fun i ↦ Double.fabs ((normalizeQuaternion q).component i)).2 j j.isLt).1

/-- Among four components of a unit vector, the largest is at least one half. -/
theorem one_le_packedIndex {q : Quat ℝ} (h : 1e-12 < q.magSq) :
    1 ≤ 4 * (normalizeQuaternion q).component (packedIndex q) ^ 2 := by
  have hle (i : Fin 4) : (normalizeQuaternion q).component i ^ 2 ≤
      (normalizeQuaternion q).component (packedIndex q) ^ 2 :=
    sq_le_sq.mpr (abs_component_le_packedIndex q i)
  calc 1 = ∑ i, (normalizeQuaternion q).component i ^ 2 := (sum_normalizeQuaternion h).symm
    _ ≤ ∑ _i : Fin 4, (normalizeQuaternion q).component (packedIndex q) ^ 2 :=
      Finset.sum_le_sum fun i _ ↦ hle i
    _ = 4 * (normalizeQuaternion q).component (packedIndex q) ^ 2 := by simp

/-! ### The same rotation -/

/-- A multiple of a quaternion. -/
def Quat.scale {D : Type} [Double D] (t : D) (q : Quat D) : Quat D :=
  ⟨t * q.x, t * q.y, t * q.z, t * q.w⟩

theorem component_scale (t : ℝ) (q : Quat ℝ) (i : Fin 4) :
    (q.scale t).component i = t * q.component i := by
  match i with
  | 0 => rfl
  | 1 => rfl
  | 2 => rfl
  | 3 => rfl

theorem magSq_scale (t : ℝ) (q : Quat ℝ) : (q.scale t).magSq = t ^ 2 * q.magSq := by
  rw [magSq_eq_sum, magSq_eq_sum, Finset.mul_sum]
  simp only [component_scale, mul_pow]

/-- Normalising leaves the sign of the factor. -/
theorem component_normalizeQuaternion_scale {t : ℝ} {q : Quat ℝ} (h : 1e-12 < q.magSq)
    (hscaled : 1e-12 < (q.scale t).magSq) (i : Fin 4) :
    (normalizeQuaternion (q.scale t)).component i =
      t / |t| * (normalizeQuaternion q).component i := by
  rw [component_normalizeQuaternion hscaled, component_normalizeQuaternion h, magSq_scale,
    component_scale, Real.sqrt_mul (sq_nonneg t), Real.sqrt_sq_eq_abs, mul_div_mul_comm]

theorem sign_eq (t : ℝ) (ht : t ≠ 0) : t / |t| = 1 ∨ t / |t| = -1 := by
  rcases ht.lt_or_gt with hneg | hpos
  · right
    rw [abs_of_neg hneg, div_neg, div_self ht]
  · left
    rw [abs_of_pos hpos, div_self ht]

theorem packedIndex_scale {t : ℝ} (ht : t ≠ 0) {q : Quat ℝ} (h : 1e-12 < q.magSq)
    (hscaled : 1e-12 < (q.scale t).magSq) : packedIndex (q.scale t) = packedIndex q := by
  rw [packedIndex, packedIndex]
  refine largestIndex_congr fun i j ↦ ?_
  have habs (i : Fin 4) : Double.fabs ((normalizeQuaternion (q.scale t)).component i) =
      Double.fabs ((normalizeQuaternion q).component i) := by
    rw [Double.fabs_real, Double.fabs_real, component_normalizeQuaternion_scale h hscaled, abs_mul,
      abs_div, abs_abs, div_self (abs_ne_zero.mpr ht), one_mul]
  rw [habs, habs]

/-- Packed components are those with a positive largest one. -/
theorem canonicalComponents_real (q : Quat ℝ) (i : Fin 4) :
    canonicalComponents q i =
      if (normalizeQuaternion q).component (packedIndex q) < 0 then
        -(normalizeQuaternion q).component i
      else (normalizeQuaternion q).component i := by
  rw [canonicalComponents]
  simp only [Double.lit_zero_real, Double.lt_real]
  rfl

theorem canonicalComponents_scale {t : ℝ} (ht : t ≠ 0) {q : Quat ℝ} (h : 1e-12 < q.magSq)
    (hscaled : 1e-12 < (q.scale t).magSq) :
    canonicalComponents (q.scale t) = canonicalComponents q := by
  funext i
  rw [canonicalComponents_real, canonicalComponents_real, packedIndex_scale ht h hscaled]
  simp only [component_normalizeQuaternion_scale h hscaled]
  have hlargest := one_le_packedIndex h
  generalize (normalizeQuaternion q).component (packedIndex q) = x at hlargest ⊢
  obtain hsign | hsign := sign_eq t ht
  · rw [hsign, one_mul, one_mul]
  · rw [hsign, neg_one_mul, neg_one_mul, neg_neg]
    rcases lt_trichotomy x 0 with hneg | rfl | hpos
    · rw [if_neg (by linarith), if_pos hneg]
    · norm_num at hlargest
    · rw [if_pos (by linarith), if_neg hpos.not_gt]

/-- **The packed word depends on the rotation only**: every multiple of a quaternion is packed as
the quaternion itself, and the index in the word is that of the first of the largest components. -/
theorem compress_depends_on_rotation (q : Quat ℝ) (h : 1e-12 < q.magSq) :
    (∀ t : ℝ, t ≠ 0 → 1e-12 < (q.scale t).magSq →
      compressQuaternionSmallestThree (q.scale t) = compressQuaternionSmallestThree q) ∧
    ∃ i : Fin 4, (compressQuaternionSmallestThree q >>> 30).toNat = i.val ∧
      (∀ j, |q.component j| ≤ |q.component i|) ∧ ∀ j < i, |q.component j| < |q.component i| := by
  refine ⟨fun t ht hscaled ↦ ?_, packedIndex q, ?_, fun j ↦ (packedIndex_spec h j).1,
    fun j ↦ (packedIndex_spec h j).2⟩
  · rw [compress_eq_packWords, compress_eq_packWords, packedIndex_scale ht h hscaled,
      canonicalComponents_scale ht h hscaled]
  · rw [compress_eq_packWords]
    exact toNat_index_packWords _ fun k ↦ packComponent_lt _

/-- Twice a quaternion with the opposite sign and two equally large components. -/
theorem compress_depends_on_rotation_tie :
    let q : Quat ℝ := ⟨0, -1, 1, 0⟩
    compressQuaternionSmallestThree (q.scale (-2)) = compressQuaternionSmallestThree q := by
  intro q
  refine (compress_depends_on_rotation q ?_).1 (-2) (by norm_num) ?_
  · norm_num [q, Quat.magSq]
  · norm_num [q, Quat.magSq, Quat.scale]

end StylyNetSync
