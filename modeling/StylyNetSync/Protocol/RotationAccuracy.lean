import Mathlib.Analysis.Real.Pi.Bounds
import StylyNetSync.Foundation.UnitVectors
import StylyNetSync.Protocol.RotationCodec

/-!
# The accuracy of packed rotations

Three components go through codes of ten bits, so that each comes back to within half a step; the
fourth is restored from them, with an error that grows the smaller it is. It is never smaller than
one half, from which follows a bound for every rotation (`decompress_compress_accuracy`). Where all
four are close to one half, the bound is nearly met (`betweenCodes_not_accurate`).
-/

namespace StylyNetSync

/-! ### One component -/

/-- The components of a unit vector but the largest are at most `1/√2` in magnitude. The range that
is packed is a little smaller, so that clamping moves a component by as much as the difference. -/
theorem abs_clampComponent_sub_le {v : ℝ} (h : v ^ 2 ≤ 1 / 2) : |clampComponent v - v| ≤ 2e-8 := by
  have hbound : |v| ≤ 0.70710679 := abs_le_of_sq_le_sq (h.trans (by norm_num)) (by norm_num)
  obtain ⟨hlower, hupper⟩ := abs_le.mp hbound
  rw [clampComponent, abs_le]
  rcases le_total v 0.70710677 with hbelow | habove
  · rw [min_eq_left (max_le hbelow (by norm_num))]
    rcases le_total (-0.70710677) v with hinside | houtside
    · rw [max_eq_left hinside]
      constructor <;> norm_num
    · rw [max_eq_right houtside]
      constructor <;> linarith
  · rw [min_eq_right (habove.trans (le_max_left _ _))]
    constructor <;> linarith

/-- A component comes back to within half a step between two codes, and what clamping adds. -/
theorem abs_unpack_sub_le {v : ℝ} (h : v ^ 2 ≤ 1 / 2) :
    |unpackComponent (packComponent v) - v| ≤ 0.00069123 := by
  have hcode : ((packComponent v).toNat : ℝ) = roundEven (codePosition v) := by
    exact_mod_cast packComponent_real v
  have hposition : clampComponent v = -0.70710677 + 1.41421354 * (codePosition v / 1023) := by
    rw [codePosition]
    ring
  have hnear := abs_sub_roundEven_le (codePosition v)
  have hstep : |unpackComponent (packComponent v) - clampComponent v| ≤ 0.7071068 / 1023 := by
    rw [unpackComponent_real, hcode, hposition]
    calc |-0.70710677 + 1.41421354 * ((roundEven (codePosition v) : ℝ) / 1023) -
          (-0.70710677 + 1.41421354 * (codePosition v / 1023))|
        = 1.41421354 / 1023 * |codePosition v - roundEven (codePosition v)| := by
          rw [abs_sub_comm, ← abs_of_pos (by norm_num : (0 : ℝ) < 1.41421354 / 1023), ← abs_mul]
          congr 1
          ring
      _ ≤ 1.41421354 / 1023 * (1 / 2) := by gcongr
      _ ≤ 0.7071068 / 1023 := by norm_num
  calc |unpackComponent (packComponent v) - v|
      ≤ |unpackComponent (packComponent v) - clampComponent v| + |clampComponent v - v| :=
        abs_sub_le _ _ _
    _ ≤ 0.7071068 / 1023 + 2e-8 := add_le_add hstep (abs_clampComponent_sub_le h)
    _ ≤ 0.00069123 := by norm_num

/-! ### The four components -/

theorem canonicalComponents_sq (q : Quat ℝ) (i : Fin 4) :
    canonicalComponents q i ^ 2 = (normalizeQuaternion q).component i ^ 2 := by
  rw [canonicalComponents_real]
  split
  · exact neg_sq _
  · rfl

theorem sum_canonicalComponents {q : Quat ℝ} (h : 1e-12 < q.magSq) :
    ∑ i, canonicalComponents q i ^ 2 = 1 := by
  simp only [canonicalComponents_sq]
  exact sum_normalizeQuaternion h

/-- The largest component is packed as a positive one. -/
theorem half_le_canonicalComponents {q : Quat ℝ} (h : 1e-12 < q.magSq) :
    1 / 2 ≤ canonicalComponents q (packedIndex q) := by
  have hnonneg : 0 ≤ canonicalComponents q (packedIndex q) := by
    rw [canonicalComponents_real]
    split
    · next hneg => exact neg_nonneg.mpr hneg.le
    · next hpos => exact not_lt.mp hpos
  have hlargest := one_le_packedIndex h
  rw [← canonicalComponents_sq] at hlargest
  refine abs_le_of_sq_le_sq' ?_ hnonneg |>.2
  linarith

/-- The others are at most `1/√2`. -/
theorem canonicalComponents_succAbove_sq_le {q : Quat ℝ} (h : 1e-12 < q.magSq) (k : Fin 3) :
    canonicalComponents q ((packedIndex q).succAbove k) ^ 2 ≤ 1 / 2 := by
  have hsum := sum_canonicalComponents h
  rw [Fin.sum_univ_succAbove _ (packedIndex q)] at hsum
  have hone : canonicalComponents q ((packedIndex q).succAbove k) ^ 2 ≤
      ∑ k, canonicalComponents q ((packedIndex q).succAbove k) ^ 2 :=
    Finset.single_le_sum (f := fun k ↦ canonicalComponents q ((packedIndex q).succAbove k) ^ 2)
      (fun _ _ ↦ sq_nonneg _) (Finset.mem_univ k)
  have hle : canonicalComponents q ((packedIndex q).succAbove k) ^ 2 ≤
      canonicalComponents q (packedIndex q) ^ 2 := by
    rw [canonicalComponents_sq, canonicalComponents_sq]
    exact sq_le_sq.mpr (abs_component_le_packedIndex q _)
  linarith

/-! ### What is restored -/

/-- The components that go through the codes. -/
noncomputable def unpackedComponents (q : Quat ℝ) (k : Fin 3) : ℝ :=
  unpackComponent (packComponent (canonicalComponents q ((packedIndex q).succAbove k)))

/-- The four components behind them, the largest of which is restored from the others. -/
noncomputable def restoredOf (q : Quat ℝ) : Fin 4 → ℝ :=
  restoredComponents (packedIndex q) (unpackedComponents q)

theorem restoredOf_succAbove (q : Quat ℝ) (k : Fin 3) :
    restoredOf q ((packedIndex q).succAbove k) = unpackedComponents q k := by
  rw [restoredOf, restoredComponents]
  exact Fin.insertNth_apply_succAbove _ _ _ k

/-- The codes add little to the squares. -/
theorem sum_unpackedComponents_le {q : Quat ℝ} (h : 1e-12 < q.magSq) :
    ∑ k, unpackedComponents q k ^ 2 ≤
      1 - canonicalComponents q (packedIndex q) ^ 2 + 0.0020752 := by
  have hone (k : Fin 3) : unpackedComponents q k ^ 2 ≤
      canonicalComponents q ((packedIndex q).succAbove k) ^ 2 +
        2 * 0.00069123 *
          (canonicalComponents q ((packedIndex q).succAbove k) ^ 2 + 1 / 4) + 0.00069123 ^ 2 := by
    have herror := abs_unpack_sub_le (canonicalComponents_succAbove_sq_le h k)
    rw [← unpackedComponents] at herror
    generalize canonicalComponents q ((packedIndex q).succAbove k) = v at herror ⊢
    have hcross : v * (unpackedComponents q k - v) ≤ (v ^ 2 + 1 / 4) * 0.00069123 := by
      calc v * (unpackedComponents q k - v) ≤ |v * (unpackedComponents q k - v)| := le_abs_self _
        _ = |v| * |unpackedComponents q k - v| := abs_mul _ _
        _ ≤ |v| * 0.00069123 := by gcongr
        _ ≤ (v ^ 2 + 1 / 4) * 0.00069123 := by
          gcongr
          linarith [sq_nonneg (|v| - 1 / 2), sq_abs v]
    have hsquare : (unpackedComponents q k - v) ^ 2 ≤ 0.00069123 ^ 2 :=
      sq_le_sq' (abs_le.mp herror).1 (abs_le.mp herror).2
    linarith
  have hsum := sum_canonicalComponents h
  have hhalf := half_le_canonicalComponents h
  rw [Fin.sum_univ_succAbove _ (packedIndex q)] at hsum
  have hquarter : 1 / 4 ≤ canonicalComponents q (packedIndex q) ^ 2 := by nlinarith
  calc ∑ k, unpackedComponents q k ^ 2 ≤ _ := Finset.sum_le_sum fun k _ ↦ hone k
    _ = (1 + 2 * 0.00069123) * ∑ k, canonicalComponents q ((packedIndex q).succAbove k) ^ 2 +
        3 * (0.00069123 / 2 + 0.00069123 ^ 2) := by
      simp only [Fin.sum_univ_three]
      ring
    _ ≤ 1 - canonicalComponents q (packedIndex q) ^ 2 + 0.0020752 := by
      rw [← eq_sub_iff_add_eq'.mpr hsum.symm.symm]
      norm_num
      linarith

/-- The restored component completes the others to a unit vector. -/
theorem restoredOf_packedIndex {q : Quat ℝ} (h : 1e-12 < q.magSq) :
    0 ≤ restoredOf q (packedIndex q) ∧
      restoredOf q (packedIndex q) ^ 2 = 1 - ∑ k, unpackedComponents q k ^ 2 := by
  have hle := sum_unpackedComponents_le h
  have hhalf := half_le_canonicalComponents h
  have hresidual : 0 < 1 - ∑ k, unpackedComponents q k ^ 2 := by nlinarith
  have hsum : (List.finRange 3).foldl
      (fun sum k ↦ sum + unpackedComponents q k * unpackedComponents q k) (Double.lit 0) =
        ∑ k, unpackedComponents q k ^ 2 := by
    show Double.lit 0 + unpackedComponents q 0 * unpackedComponents q 0 +
      unpackedComponents q 1 * unpackedComponents q 1 +
        unpackedComponents q 2 * unpackedComponents q 2 = _
    rw [Fin.sum_univ_three, Double.lit_zero_real]
    ring
  have hroot : restoredOf q (packedIndex q) = √(1 - ∑ k, unpackedComponents q k ^ 2) := by
    rw [restoredOf, restoredComponents, hsum, Fin.insertNth_apply_same, Double.lit_one_real,
      Double.lit_zero_real, if_pos ((Double.lt_real _ _).mpr hresidual), Double.sqrt_real]
  rw [hroot]
  exact ⟨Real.sqrt_nonneg _, Real.sq_sqrt hresidual.le⟩

theorem sum_restoredOf {q : Quat ℝ} (h : 1e-12 < q.magSq) : ∑ j, restoredOf q j ^ 2 = 1 := by
  rw [Fin.sum_univ_succAbove _ (packedIndex q), (restoredOf_packedIndex h).2]
  simp only [restoredOf_succAbove]
  ring

/-- **What comes back are the components with the largest one restored.** -/
theorem component_decompress_compress {q : Quat ℝ} (h : 1e-12 < q.magSq) (j : Fin 4) :
    (decompressQuaternionSmallestThree (compressQuaternionSmallestThree q) : Quat ℝ).component j =
      restoredOf q j := by
  have hunit := sum_restoredOf h
  rw [compress_eq_packWords, decompress_packWords _ fun k ↦ packComponent_lt _]
  show (normalizeQuaternion ⟨restoredOf q 0, restoredOf q 1, restoredOf q 2,
    restoredOf q 3⟩).component j = restoredOf q j
  rw [normalizeQuaternion_of_unit]
  · match j with
    | 0 => rfl
    | 1 => rfl
    | 2 => rfl
    | 3 => rfl
  · rw [magSq_eq_sum, ← hunit, Fin.sum_univ_four, Fin.sum_univ_four]
    rfl

/-! ### The angle between the rotations -/

/-- The inner product, the cosine of half the angle between two rotations up to sign. -/
def Quat.dot (p q : Quat ℝ) : ℝ := ∑ i, p.component i * q.component i

/-- The direction of a quaternion. -/
noncomputable def Quat.direction (q : Quat ℝ) : Quat ℝ := q.scale (√q.magSq)⁻¹

theorem component_direction {q : Quat ℝ} (h : 1e-12 < q.magSq) (i : Fin 4) :
    q.direction.component i = (normalizeQuaternion q).component i := by
  rw [Quat.direction, component_scale, component_normalizeQuaternion h, inv_mul_eq_div]

/-- The canonical components give the same rotation as the quaternion itself. -/
theorem abs_sum_canonicalComponents {q : Quat ℝ} (h : 1e-12 < q.magSq) (u : Fin 4 → ℝ) :
    |∑ i, u i * q.direction.component i| = |∑ i, u i * canonicalComponents q i| := by
  simp only [component_direction h, canonicalComponents_real]
  split
  · simp only [mul_neg, Finset.sum_neg_distrib, abs_neg]
  · rfl

theorem abs_dot_decompress_compress {q : Quat ℝ} (h : 1e-12 < q.magSq) :
    |(decompressQuaternionSmallestThree (compressQuaternionSmallestThree q)).dot q.direction| =
      |∑ i, restoredOf q i * canonicalComponents q i| := by
  rw [Quat.dot, ← abs_sum_canonicalComponents h]
  simp only [component_decompress_compress h]

/-- The larger the largest component, the closer the rotations. -/
theorem restoredOf_dot {q : Quat ℝ} (h : 1e-12 < q.magSq) {c d : ℝ} (hd : 0 ≤ d)
    (hsq : d ^ 2 ≤ c ^ 2 - 0.0020752) (hc : 0 ≤ c)
    (hle : c ≤ canonicalComponents q (packedIndex q)) :
    (c + d) ^ 2 * (1 - ∑ i, restoredOf q i * canonicalComponents q i) ≤ 6 * 0.00069123 ^ 2 := by
  obtain ⟨hnonneg, hresidual⟩ := restoredOf_packedIndex h
  have hcodes := sum_unpackedComponents_le h
  have hrestored : d ≤ restoredOf q (packedIndex q) := by
    refine le_of_sq_le_sq ?_ hnonneg
    have hgrow : c ^ 2 ≤ canonicalComponents q (packedIndex q) ^ 2 := by gcongr
    linarith
  have hchord := UnitVector.sq_mul_chord_le (sum_restoredOf h) (sum_canonicalComponents h)
    (packedIndex q)
  rw [UnitVector.chord_sq (sum_restoredOf h) (sum_canonicalComponents h)] at hchord
  have herrors : ∑ k, (restoredOf q ((packedIndex q).succAbove k) -
      canonicalComponents q ((packedIndex q).succAbove k)) ^ 2 ≤ 3 * 0.00069123 ^ 2 := by
    calc ∑ k, (restoredOf q ((packedIndex q).succAbove k) -
          canonicalComponents q ((packedIndex q).succAbove k)) ^ 2
        ≤ ∑ _k : Fin 3, (0.00069123 : ℝ) ^ 2 := by
          refine Finset.sum_le_sum fun k _ ↦ ?_
          have herror := abs_unpack_sub_le (canonicalComponents_succAbove_sq_le h k)
          rw [restoredOf_succAbove]
          exact sq_le_sq' (abs_le.mp herror).1 (abs_le.mp herror).2
      _ = 3 * 0.00069123 ^ 2 := by simp
  have hdot : 0 ≤ 1 - ∑ i, restoredOf q i * canonicalComponents q i := by
    have hsquares : 0 ≤ ∑ i, (restoredOf q i - canonicalComponents q i) ^ 2 :=
      Finset.sum_nonneg fun i _ ↦ sq_nonneg _
    rw [UnitVector.chord_sq (sum_restoredOf h) (sum_canonicalComponents h)] at hsquares
    linarith
  calc (c + d) ^ 2 * (1 - ∑ i, restoredOf q i * canonicalComponents q i)
      ≤ (restoredOf q (packedIndex q) + canonicalComponents q (packedIndex q)) ^ 2 *
          (1 - ∑ i, restoredOf q i * canonicalComponents q i) := by
        gcongr ?_ ^ 2 * _
        linarith
    _ ≤ 6 * 0.00069123 ^ 2 := by linarith

/-- The cosine of an angle of a fraction of a degree. -/
theorem cos_degrees_le {t : ℝ} (hpos : 0 < t) (hle : t ≤ 0.15) :
    Real.cos (t * (Real.pi / 180)) ≤ 1 - 0.4999996 * (t * (3.1415 / 180)) ^ 2 := by
  have hlower := Real.pi_gt_d4
  have hupper := Real.pi_lt_d4
  set x := t * (Real.pi / 180) with hx
  have hx_pos : 0 < x := by positivity
  have hx_small : x ≤ 0.00262 := by
    calc x ≤ 0.15 * (3.1416 / 180) := by rw [hx]; gcongr
      _ ≤ 0.00262 := by norm_num
  have hx_large : t * (3.1415 / 180) ≤ x := by rw [hx]; gcongr
  have hx_abs : |x| ≤ 1 := by
    rw [abs_of_pos hx_pos]
    linarith
  have hbound := (abs_le.mp (Real.cos_bound hx_abs)).2
  rw [abs_of_pos hx_pos] at hbound
  have hquartic : x ^ 4 * (5 / 96) ≤ 4e-7 * x ^ 2 := by
    have hx_sq : x ^ 2 ≤ 0.00262 ^ 2 := by gcongr
    calc x ^ 4 * (5 / 96) = x ^ 2 * (5 / 96) * x ^ 2 := by ring
      _ ≤ 0.00262 ^ 2 * (5 / 96) * x ^ 2 := by gcongr
      _ ≤ 4e-7 * x ^ 2 := by gcongr; norm_num
  have hgrow : (t * (3.1415 / 180)) ^ 2 ≤ x ^ 2 := by gcongr
  linarith

/-- **A rotation comes back to within 0.275 degrees**, and to within a quarter of a degree where one
component stands out from the others. -/
theorem decompress_compress_accuracy (q : Quat ℝ) (h : 1e-12 < q.magSq) :
    Real.cos (0.1375 * (Real.pi / 180)) <
        |(decompressQuaternionSmallestThree (compressQuaternionSmallestThree q)).dot q.direction| ∧
      ((∃ i, 0.55 ≤ |q.direction.component i|) →
        Real.cos (0.125 * (Real.pi / 180)) <
          |(decompressQuaternionSmallestThree
            (compressQuaternionSmallestThree q)).dot q.direction|) := by
  have hhalf := half_le_canonicalComponents h
  rw [abs_dot_decompress_compress h]
  constructor
  · have herror := restoredOf_dot h (d := 0.4979) (by norm_num) (by norm_num) (by norm_num) hhalf
    have hcos := cos_degrees_le (t := 0.1375) (by norm_num) (by norm_num)
    refine hcos.trans_lt (lt_of_lt_of_le ?_ (le_abs_self _))
    norm_num at herror ⊢
    linarith
  · rintro ⟨i, hi⟩
    have hlarge : 0.55 ≤ canonicalComponents q (packedIndex q) := by
      rw [component_direction h] at hi
      have hpacked := hi.trans (abs_component_le_packedIndex q i)
      rw [← abs_of_pos (by linarith : 0 < canonicalComponents q (packedIndex q))]
      have hmagnitude := (sq_eq_sq_iff_abs_eq_abs _ _).mp (canonicalComponents_sq q (packedIndex q))
      rwa [← hmagnitude] at hpacked
    have herror := restoredOf_dot h (d := 0.5481) (by norm_num) (by norm_num) (by norm_num) hlarge
    have hcos := cos_degrees_le (t := 0.125) (by norm_num) (by norm_num)
    refine hcos.trans_lt (lt_of_lt_of_le ?_ (le_abs_self _))
    norm_num at herror ⊢
    linarith

/-- A turn about the up axis, the larger component of which is four fifths. -/
theorem decompress_compress_accuracy_turn :
    let q : Quat ℝ := ⟨0, 3, 0, 4⟩
    Real.cos (0.1375 * (Real.pi / 180)) <
        |(decompressQuaternionSmallestThree (compressQuaternionSmallestThree q)).dot q.direction| ∧
      Real.cos (0.125 * (Real.pi / 180)) <
        |(decompressQuaternionSmallestThree
          (compressQuaternionSmallestThree q)).dot q.direction| := by
  intro q
  have hnorm : q.magSq = 5 ^ 2 := by norm_num [q, Quat.magSq]
  have hroot : √q.magSq = 5 := by rw [hnorm, Real.sqrt_sq (by norm_num)]
  obtain ⟨hall, hquarter⟩ := decompress_compress_accuracy q (by rw [hnorm]; norm_num)
  refine ⟨hall, hquarter ⟨3, ?_⟩⟩
  rw [Quat.direction, hroot, component_scale]
  norm_num [q, Quat.component]

/-! ### A quarter of a degree is not reached everywhere -/

/-- A quaternion of length 1027, the lesser components of which lie between two codes. -/
def betweenCodes : Quat ℝ := ⟨504, 504, 504, 541⟩

theorem betweenCodes_magSq : betweenCodes.magSq = 1027 ^ 2 := by
  norm_num [betweenCodes, Quat.magSq]

theorem betweenCodes_large : 1e-12 < betweenCodes.magSq := by
  rw [betweenCodes_magSq]
  norm_num

theorem packedIndex_betweenCodes : packedIndex betweenCodes = 3 := by
  have hlargest := (packedIndex_spec betweenCodes_large 3).1
  match hindex : packedIndex betweenCodes with
  | 0 => rw [hindex] at hlargest; norm_num [betweenCodes, Quat.component] at hlargest
  | 1 => rw [hindex] at hlargest; norm_num [betweenCodes, Quat.component] at hlargest
  | 2 => rw [hindex] at hlargest; norm_num [betweenCodes, Quat.component] at hlargest
  | 3 => rfl

theorem component_betweenCodes (i : Fin 4) :
    canonicalComponents betweenCodes i = betweenCodes.component i / 1027 := by
  have hnorm : √betweenCodes.magSq = 1027 := by
    rw [betweenCodes_magSq]
    exact Real.sqrt_sq (by norm_num)
  rw [canonicalComponents_real, packedIndex_betweenCodes,
    component_normalizeQuaternion betweenCodes_large,
    component_normalizeQuaternion betweenCodes_large, hnorm, if_neg]
  norm_num [betweenCodes, Quat.component]

/-- Each of the lesser components is rounded down by almost half a step. -/
theorem unpackedComponents_betweenCodes (k : Fin 3) :
    unpackedComponents betweenCodes k = -0.70710677 + 1.41421354 * (866 / 1023) := by
  have hcomponent : canonicalComponents betweenCodes ((packedIndex betweenCodes).succAbove k) =
      504 / 1027 := by
    rw [packedIndex_betweenCodes, component_betweenCodes]
    match k with
    | 0 => rfl
    | 1 => rfl
    | 2 => rfl
  have hclamp : clampComponent (504 / 1027) = 504 / 1027 := by
    rw [clampComponent, max_eq_left (by norm_num), min_eq_left (by norm_num)]
  have hfloor : ⌊codePosition (504 / 1027)⌋ = 866 := by
    rw [codePosition, hclamp, Int.floor_eq_iff]
    norm_num
  have hcode : ((packComponent (504 / 1027 : ℝ)).toNat : ℤ) = 866 := by
    rw [packComponent_real, roundEven, hfloor, codePosition, hclamp]
    norm_num
  have hcast : ((packComponent (504 / 1027 : ℝ)).toNat : ℝ) = 866 := by exact_mod_cast hcode
  rw [unpackedComponents, hcomponent, unpackComponent_real, hcast]

/-- **Three errors of almost half a step move the rotation by more than a quarter of a degree.** -/
theorem betweenCodes_not_accurate :
    1e-12 < betweenCodes.magSq ∧
      ¬Real.cos (0.125 * (Real.pi / 180)) <
        |(decompressQuaternionSmallestThree
          (compressQuaternionSmallestThree betweenCodes)).dot betweenCodes.direction| := by
  refine ⟨betweenCodes_large, not_lt.mpr ?_⟩
  obtain ⟨hnonneg, hresidual⟩ := restoredOf_packedIndex betweenCodes_large
  have hlargest : restoredOf betweenCodes 3 ≤ 0.5286801 := by
    rw [packedIndex_betweenCodes] at hnonneg hresidual
    refine le_of_sq_le_sq ?_ (by norm_num)
    rw [hresidual]
    simp only [unpackedComponents_betweenCodes, Fin.sum_univ_three]
    norm_num
  have hcodes (k : Fin 3) := restoredOf_succAbove betweenCodes k
  rw [packedIndex_betweenCodes] at hnonneg hcodes
  simp only [unpackedComponents_betweenCodes] at hcodes
  have hcos := Real.one_sub_sq_div_two_le_cos (x := 0.125 * (Real.pi / 180))
  have hpi : (0.125 * (Real.pi / 180)) ^ 2 ≤ (0.125 * (3.1416 / 180)) ^ 2 := by
    have hupper := Real.pi_lt_d4
    gcongr
  rw [abs_dot_decompress_compress betweenCodes_large, Fin.sum_univ_succAbove _ 3,
    Fin.sum_univ_three, hcodes, hcodes, hcodes]
  simp only [component_betweenCodes]
  show |restoredOf betweenCodes 3 * (541 / 1027) + (_ * (504 / 1027) + _ * (504 / 1027) +
    _ * (504 / 1027))| ≤ _
  rw [abs_of_nonneg (by positivity)]
  linarith

end StylyNetSync
