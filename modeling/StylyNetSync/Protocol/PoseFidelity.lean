import StylyNetSync.Foundation.QuaternionTurns
import StylyNetSync.Protocol.PoseBody
import StylyNetSync.Protocol.RotationAccuracy

/-!
# What a peer sees of an avatar

An avatar goes over the wire as integers: the head in hundredths of a unit, the other parts in units
of five thousandths and relative to the head, the rotations as packed words. In exact arithmetic
every part comes back close to what was sent (`avatar_fidelity`). A coordinate comes back to within
half of its unit, after it was brought into the range of its word. The head's rotation comes back to
within 0.275 degrees, and that of another part to within twice as much, since it is put on the head
that was decoded.
-/

namespace StylyNetSync

/-! ### Coordinates -/

/-- The clamp of the source, in exact arithmetic. -/
theorem clampRounded_real (lower upper : ℤ) (h : lower ≤ upper) (x : ℝ) :
    clampRounded x lower upper = max lower (min (roundEven x) upper) := by
  have hlower : Double.lt (roundEven x : ℝ) (Double.lit lower) = true ↔ roundEven x < lower := by
    rw [Double.lt_real, Double.lit_real, Rat.cast_intCast, Int.cast_lt]
  have hupper : Double.lt (Double.lit upper) (roundEven x : ℝ) = true ↔ upper < roundEven x := by
    rw [Double.lt_real, Double.lit_real, Rat.cast_intCast, Int.cast_lt]
  have hint : Double.toInt (roundEven x : ℝ) = roundEven x := by
    show (if (roundEven x : ℝ) < 0 then ⌈(roundEven x : ℝ)⌉ else ⌊(roundEven x : ℝ)⌋) = _
    rw [Int.ceil_intCast, Int.floor_intCast, ite_self]
  have hnumber : Double.isNaN x = false := rfl
  rw [clampRounded, hnumber, if_neg Bool.false_ne_true, roundHalfToEven_real]
  simp only [hlower, hupper, hint]
  split_ifs <;> omega

/-- A number brought into a range. -/
noncomputable def saturate (lower upper value : ℝ) : ℝ := max lower (min value upper)

theorem saturate_of_mem {lower upper value : ℝ} (hlower : lower ≤ value) (hupper : value ≤ upper) :
    saturate lower upper value = value := by
  rw [saturate, min_eq_left hupper, max_eq_right hlower]

/-- Numbers do not move apart when they are brought into a range. -/
theorem abs_saturate_sub_le (lower upper x y : ℝ) :
    |saturate lower upper x - saturate lower upper y| ≤ |x - y| := by
  calc |saturate lower upper x - saturate lower upper y|
      = |max (min x upper) lower - max (min y upper) lower| := by
        rw [saturate, saturate, max_comm lower, max_comm lower]
    _ ≤ |min x upper - min y upper| := abs_max_sub_max_le_abs _ _ _
    _ ≤ max |x - y| |upper - upper| := abs_min_sub_min_le_max _ _ _ _
    _ = |x - y| := by rw [sub_self, abs_zero, max_eq_left (abs_nonneg _)]

/-- **A coordinate comes back** to within half a unit of what its word can hold. -/
theorem abs_clampRounded_mul_sub_le (lower upper : ℤ) (h : lower ≤ upper) {scale : ℝ}
    (hscale : 0 < scale) (value : ℝ) :
    |clampRounded (value / scale) lower upper * scale -
      saturate (lower * scale) (upper * scale) value| ≤ scale / 2 := by
  have hword : (clampRounded (value / scale) lower upper : ℝ) * scale =
      saturate (lower * scale) (upper * scale) (roundEven (value / scale) * scale) := by
    rw [clampRounded_real lower upper h, Int.cast_max, Int.cast_min, saturate,
      max_mul_of_nonneg _ _ hscale.le, min_mul_of_nonneg _ _ hscale.le]
  rw [hword]
  exact (abs_saturate_sub_le _ _ _ _).trans (abs_roundEven_div_mul_sub_le value hscale)

/-- A coordinate of 16 bits. -/
theorem abs_dequantize_sub_le {scale : ℝ} (hscale : 0 < scale) (value : ℝ) :
    |dequantizeSigned (quantizeSigned value scale).toInt scale -
      saturate (-32768 * scale) (32767 * scale) value| ≤ scale / 2 := by
  have hpositive : Double.lt (Double.lit 0) scale = true := by
    rwa [Double.lt_real, Double.lit_zero_real]
  have hrange := clampRounded_real kInt16Min kInt16Max (by decide) (value / scale)
  have hword : (quantizeSigned value scale).toInt =
      clampRounded (value / scale) kInt16Min kInt16Max := by
    rw [quantizeSigned, hpositive, Bool.not_true, if_neg Bool.false_ne_true, hrange]
    refine Int16.toInt_ofInt_of_le ?_ ?_ <;> rw [kInt16Min, kInt16Max] <;> omega
  have hbound := abs_clampRounded_mul_sub_le kInt16Min kInt16Max (by decide) hscale value
  rw [dequantizeSigned, hword, Double.lit_real, Rat.cast_intCast]
  rw [kInt16Min, kInt16Max] at hbound ⊢
  exact_mod_cast hbound

/-- A coordinate of 24 bits: what the quantiser clamped, the writer does not clamp again. -/
theorem abs_dequantize_int24_sub_le {scale : ℝ} (hscale : 0 < scale) (value : ℝ) :
    |dequantizeSigned (clampInt24 (quantizeSignedInt24 value scale)) scale -
      saturate (-8388608 * scale) (8388607 * scale) value| ≤ scale / 2 := by
  have hpositive : Double.lt (Double.lit 0) scale = true := by
    rwa [Double.lt_real, Double.lit_zero_real]
  have hrange := clampRounded_real kInt24Min kInt24Max (by decide) (value / scale)
  have hword : clampInt24 (quantizeSignedInt24 value scale) =
      clampRounded (value / scale) kInt24Min kInt24Max := by
    rw [quantizeSignedInt24, hpositive, Bool.not_true, if_neg Bool.false_ne_true, hrange,
      clampInt24]
    simp only [kInt24Min, kInt24Max]
    split_ifs <;> omega
  have hbound := abs_clampRounded_mul_sub_le kInt24Min kInt24Max (by decide) hscale value
  rw [dequantizeSigned, hword, Double.lit_real, Rat.cast_intCast]
  rw [kInt24Min, kInt24Max] at hbound ⊢
  exact_mod_cast hbound

theorem kAbsPosScale_real : (kAbsPosScale : ℝ) = 0.01 := by
  rw [kAbsPosScale, Double.lit_real]
  norm_num

theorem kLocoPosScale_real : (kLocoPosScale : ℝ) = 0.01 := by
  rw [kLocoPosScale, Double.lit_real]
  norm_num

theorem kRelPosScale_real : (kRelPosScale : ℝ) = 0.005 := by
  rw [kRelPosScale, Double.lit_real]
  norm_num

theorem kPhysicalYawScale_real : (kPhysicalYawScale : ℝ) = 0.1 := by
  rw [kPhysicalYawScale, Double.lit_real]
  norm_num

/-! ### Positions -/

namespace Vec3

/-- No coordinate is off by more than the bound. -/
def Within (bound : ℝ) (u v : Vec3 ℝ) : Prop :=
  |u.x - v.x| ≤ bound ∧ |u.y - v.y| ≤ bound ∧ |u.z - v.z| ≤ bound

/-- Every coordinate is brought into the range. -/
noncomputable def saturate (lower upper : ℝ) (v : Vec3 ℝ) : Vec3 ℝ :=
  ⟨StylyNetSync.saturate lower upper v.x, StylyNetSync.saturate lower upper v.y,
    StylyNetSync.saturate lower upper v.z⟩

/-- The way from one point to another. -/
def offset {D : Type} [Double D] (origin point : Vec3 D) : Vec3 D :=
  ⟨point.x - origin.x, point.y - origin.y, point.z - origin.z⟩

/-- Every coordinate is in the range. -/
def InRange (lower upper : ℝ) (v : Vec3 ℝ) : Prop :=
  (lower ≤ v.x ∧ v.x ≤ upper) ∧ (lower ≤ v.y ∧ v.y ≤ upper) ∧ (lower ≤ v.z ∧ v.z ≤ upper)

theorem saturate_of_inRange {lower upper : ℝ} {v : Vec3 ℝ} (h : v.InRange lower upper) :
    v.saturate lower upper = v := by
  obtain ⟨hx, hy, hz⟩ := h
  rw [saturate, saturate_of_mem hx.1 hx.2, saturate_of_mem hy.1 hy.2, saturate_of_mem hz.1 hz.2]

/-- If a point is near and what is on the way from it is near, so is the other end. -/
theorem Within.of_offset {b c : ℝ} {o o' p p' : Vec3 ℝ} (horigin : o'.Within b o)
    (hoffset : (offset o' p').Within c (offset o p)) : p'.Within (b + c) p := by
  have hcoordinate {o o' p p' : ℝ} (ho : |o' - o| ≤ b) (hp : |p' - o' - (p - o)| ≤ c) :
      |p' - p| ≤ b + c := by
    calc |p' - p| = |o' - o + (p' - o' - (p - o))| := by congr 1; ring
      _ ≤ |o' - o| + |p' - o' - (p - o)| := abs_add_le _ _
      _ ≤ b + c := add_le_add ho hp
  exact ⟨hcoordinate horigin.1 hoffset.1, hcoordinate horigin.2.1 hoffset.2.1,
    hcoordinate horigin.2.2 hoffset.2.2⟩

end Vec3

/-- An absolute position. -/
theorem wirePosition_within (p : Vec3 ℝ) :
    (wirePosition p).Within 0.005 (p.saturate (-83886.08) 83886.07) := by
  have hcoordinate (value : ℝ) :
      |dequantizeSigned (clampInt24 (quantizeSignedInt24 value kAbsPosScale)) kAbsPosScale -
        saturate (-83886.08) 83886.07 value| ≤ 0.005 := by
    have hbound := abs_dequantize_int24_sub_le
      (show (0 : ℝ) < kAbsPosScale by rw [kAbsPosScale_real]; norm_num) value
    rw [kAbsPosScale_real] at hbound ⊢
    norm_num at hbound ⊢
    exact hbound
  exact ⟨hcoordinate p.x, hcoordinate p.y, hcoordinate p.z⟩

/-- A position of the locomotion block. -/
theorem locomotionPosition_within (p : Vec3 ℝ) :
    (locomotionPosition (quantizeSigned p.x kLocoPosScale) (quantizeSigned p.y kLocoPosScale)
      (quantizeSigned p.z kLocoPosScale) : Vec3 ℝ).Within 0.005 (p.saturate (-327.68) 327.67) := by
  have hcoordinate (value : ℝ) :
      |dequantizeSigned (quantizeSigned value kLocoPosScale).toInt kLocoPosScale -
        saturate (-327.68) 327.67 value| ≤ 0.005 := by
    have hbound := abs_dequantize_sub_le
      (show (0 : ℝ) < kLocoPosScale by rw [kLocoPosScale_real]; norm_num) value
    rw [kLocoPosScale_real] at hbound ⊢
    norm_num at hbound ⊢
    exact hbound
  exact ⟨hcoordinate p.x, hcoordinate p.y, hcoordinate p.z⟩

/-- A yaw of the locomotion block. -/
theorem locomotionYaw_within (yaw : ℝ) :
    |dequantizeSigned (quantizeSigned yaw kPhysicalYawScale).toInt kPhysicalYawScale -
      saturate (-3276.8) 3276.7 yaw| ≤ 0.05 := by
  have hbound := abs_dequantize_sub_le
    (show (0 : ℝ) < kPhysicalYawScale by rw [kPhysicalYawScale_real]; norm_num) yaw
  rw [kPhysicalYawScale_real] at hbound ⊢
  norm_num at hbound ⊢
  exact hbound

/-- A position relative to the head, seen from the head that was decoded. -/
theorem wireRelative_offset (sent read transform : PoseTransform ℝ) :
    (read.position.offset (wireRelative sent read transform).position).Within 0.0025
      ((sent.position.offset transform.position).saturate (-163.84) 163.835) := by
  have hcoordinate (value origin : ℝ) :
      |origin + dequantizeSigned (quantizeSigned value kRelPosScale).toInt kRelPosScale - origin -
        saturate (-163.84) 163.835 value| ≤ 0.0025 := by
    have hbound := abs_dequantize_sub_le
      (show (0 : ℝ) < kRelPosScale by rw [kRelPosScale_real]; norm_num) value
    rw [add_sub_cancel_left]
    rw [kRelPosScale_real] at hbound ⊢
    norm_num at hbound ⊢
    exact hbound
  exact ⟨hcoordinate _ _, hcoordinate _ _, hcoordinate _ _⟩

/-! ### Rotations -/

namespace Quat

/-- The quaternion of the library. -/
def toQuaternion (q : Quat ℝ) : Quaternion ℝ := ⟨q.w, q.x, q.y, q.z⟩

@[simp] theorem toQuaternion_re (q : Quat ℝ) : q.toQuaternion.re = q.w := rfl

@[simp] theorem toQuaternion_imI (q : Quat ℝ) : q.toQuaternion.imI = q.x := rfl

@[simp] theorem toQuaternion_imJ (q : Quat ℝ) : q.toQuaternion.imJ = q.y := rfl

@[simp] theorem toQuaternion_imK (q : Quat ℝ) : q.toQuaternion.imK = q.z := rfl

/-- The rotation is within so many degrees of the one that the other quaternion stands for, which
need not be a unit. The inner product is the cosine of half the angle. -/
def TurnedWithin (degrees : ℝ) (p q : Quat ℝ) : Prop :=
  Real.cos (degrees * Real.pi / (360 : ℕ)) ≤ |p.dot (normalizeQuaternion q)|

theorem dot_eq_inner (p q : Quat ℝ) : p.dot q = inner ℝ p.toQuaternion q.toQuaternion := by
  rw [dot, Fin.sum_univ_four, Quaternion.inner_def, Quaternion.re_mul]
  simp [component]
  ring

theorem magSq_eq_norm (q : Quat ℝ) : q.magSq = ‖q.toQuaternion‖ ^ 2 := by
  rw [sq, ← Quaternion.normSq_eq_norm_mul_self, Quaternion.normSq_def', magSq]
  simp only [toQuaternion_re, toQuaternion_imI, toQuaternion_imJ, toQuaternion_imK]
  ring

theorem norm_toQuaternion {q : Quat ℝ} (h : q.magSq = 1) : ‖q.toQuaternion‖ = 1 := by
  rw [magSq_eq_norm] at h
  exact (pow_eq_one_iff_of_nonneg (norm_nonneg _) two_ne_zero).mp h

theorem toQuaternion_multiply (p q : Quat ℝ) :
    (quaternionMultiply p q).toQuaternion = p.toQuaternion * q.toQuaternion := by
  ext <;> simp [quaternionMultiply]

/-- What is normalised is a unit, also where it was degenerate. -/
theorem magSq_normalizeQuaternion (q : Quat ℝ) : (normalizeQuaternion q).magSq = 1 := by
  by_cases h : 1e-12 < q.magSq
  · rw [magSq_eq_sum, sum_normalizeQuaternion h]
  · have hsmall : Double.le q.magSq kQuatNormalizeEpsilon = true := by
      rw [Double.le_real, kQuatNormalizeEpsilon, Double.lit_real]
      norm_num at h ⊢
      exact h
    have hidentity : normalizeQuaternion q = ⟨0, 0, 0, 1⟩ := by
      rw [normalizeQuaternion]
      show (if !Double.isFinite q.magSq || Double.le q.magSq kQuatNormalizeEpsilon then _
        else _) = _
      rw [hsmall, Bool.or_true, if_pos rfl, Double.lit_zero_real, Double.lit_one_real]
    rw [hidentity, magSq]
    norm_num

theorem magSq_multiply (p q : Quat ℝ) : (quaternionMultiply p q).magSq = p.magSq * q.magSq := by
  rw [magSq_eq_norm, toQuaternion_multiply, norm_mul, mul_pow, ← magSq_eq_norm, ← magSq_eq_norm]

theorem toQuaternion_inverse {q : Quat ℝ} (h : q.magSq = 1) :
    (quaternionInverse q).toQuaternion = star q.toQuaternion := by
  rw [quaternionInverse, normalizeQuaternion_of_unit h]
  ext <;> simp

theorem magSq_inverse {q : Quat ℝ} (h : q.magSq = 1) : (quaternionInverse q).magSq = 1 := by
  rw [magSq_eq_norm, toQuaternion_inverse h, norm_star, norm_toQuaternion h, one_pow]

/-- A rotation relative to another one, put back on it. -/
theorem toQuaternion_mul_inverse {p : Quat ℝ} (h : p.magSq = 1) (q : Quat ℝ) :
    p.toQuaternion * (quaternionMultiply (quaternionInverse p) q).toQuaternion =
      q.toQuaternion := by
  have hself : p.toQuaternion * star p.toQuaternion = 1 := by
    rw [Quaternion.self_mul_star, Quaternion.normSq_eq_norm_mul_self, norm_toQuaternion h, mul_one,
      Quaternion.coe_one]
  rw [toQuaternion_multiply, toQuaternion_inverse h, ← mul_assoc, hself, one_mul]

end Quat

/-- What is packed and unpacked is a unit. -/
theorem magSq_wireRotation {q : Quat ℝ} (h : q.magSq = 1) : (wireRotation q).magSq = 1 := by
  have hlarge : 1e-12 < q.magSq := by rw [h]; norm_num
  rw [magSq_eq_sum, ← sum_restoredOf hlarge]
  exact Finset.sum_congr rfl fun j _ ↦ by rw [wireRotation, component_decompress_compress hlarge j]

/-- **A unit comes back** to within half of 0.275 degrees, as quaternions go. -/
theorem wireRotation_within {q : Quat ℝ} (h : q.magSq = 1) :
    QuaternionTurn.Within (0.1375 * (Real.pi / 180)) (wireRotation q).toQuaternion
      q.toQuaternion := by
  have hlarge : 1e-12 < q.magSq := by rw [h]; norm_num
  have hdirection : (wireRotation q).dot q.direction = (wireRotation q).dot q := by
    rw [Quat.dot, Quat.dot]
    exact Finset.sum_congr rfl fun i _ ↦ by
      rw [component_direction hlarge, normalizeQuaternion_of_unit h]
  have haccuracy := (decompress_compress_accuracy q hlarge).1
  rw [QuaternionTurn.Within, ← Quat.dot_eq_inner, ← hdirection]
  exact haccuracy.le

/-- The head's rotation. -/
theorem wireRotation_turnedWithin (q : Quat ℝ) :
    (wireRotation (normalizeQuaternion q)).TurnedWithin 0.275 q := by
  have hwithin := wireRotation_within (Quat.magSq_normalizeQuaternion q)
  have hangle : (0.275 : ℝ) * Real.pi / (360 : ℕ) = 0.1375 * (Real.pi / 180) := by
    rw [Nat.cast_ofNat]
    ring
  rw [QuaternionTurn.Within, ← Quat.dot_eq_inner] at hwithin
  rw [Quat.TurnedWithin, hangle]
  exact hwithin

/-- **The rotation of another part** has the error of the head's beside its own. -/
theorem wireRelative_turnedWithin (sent read transform : PoseTransform ℝ)
    (hread : read.rotation = wireRotation (normalizeQuaternion sent.rotation)) :
    (wireRelative sent read transform).rotation.TurnedWithin 0.55 transform.rotation := by
  have hhead := Quat.magSq_normalizeQuaternion sent.rotation
  have hpart := Quat.magSq_normalizeQuaternion transform.rotation
  set head := normalizeQuaternion sent.rotation
  set part := normalizeQuaternion transform.rotation
  set relative := quaternionMultiply (quaternionInverse head) part with hrelative
  have hunit : relative.magSq = 1 := by
    rw [hrelative, Quat.magSq_multiply, Quat.magSq_inverse hhead, hpart, one_mul]
  have hproduct : (quaternionMultiply (wireRotation head) (wireRotation relative)).magSq = 1 := by
    rw [Quat.magSq_multiply, magSq_wireRotation hhead, magSq_wireRotation hunit, one_mul]
  have hrotation : (wireRelative sent read transform).rotation =
      quaternionMultiply (wireRotation head) (wireRotation relative) := by
    show normalizeQuaternion (quaternionMultiply read.rotation (wireRotation relative)) = _
    rw [hread, normalizeQuaternion_of_unit hproduct]
  have hpi := Real.pi_pos
  have hwithin := (wireRotation_within hhead).mul (wireRotation_within hunit)
    (Quat.norm_toQuaternion (magSq_wireRotation hhead)) (Quat.norm_toQuaternion hhead)
    (Quat.norm_toQuaternion (magSq_wireRotation hunit)) (Quat.norm_toQuaternion hunit)
    (by positivity) (by positivity) (by linarith)
  rw [Quat.toQuaternion_mul_inverse hhead, ← Quat.toQuaternion_multiply, QuaternionTurn.Within,
    ← Quat.dot_eq_inner] at hwithin
  have hangle : (0.55 : ℝ) * Real.pi / (360 : ℕ) =
      0.1375 * (Real.pi / 180) + 0.1375 * (Real.pi / 180) := by
    rw [Nat.cast_ofNat]
    ring
  rw [hrotation, Quat.TurnedWithin, hangle]
  exact hwithin

/-! ### Avatars -/

/-- A part that is sent relative to the head is where it was, as seen from the head, and turned as
it was. It is where it was in the room if nothing was out of range. -/
structure PartFaithful (head head' part part' : PoseTransform ℝ) : Prop where
  offset : (head'.position.offset part'.position).Within 0.0025
    ((head.position.offset part.position).saturate (-163.84) 163.835)
  position : head.position.InRange (-83886.08) 83886.07 →
    (head.position.offset part.position).InRange (-163.84) 163.835 →
      part'.position.Within 0.0075 part.position
  rotation : part'.rotation.TurnedWithin 0.55 part.rotation

/-- A body that was decoded shows the avatar that was sent, as far as the flags say that there is
something to show. -/
structure ClientPoseBody.Faithful (sent got : ClientPoseBody ℝ) : Prop where
  poseSeq : got.poseSeq = sent.poseSeq
  flags : got.flags = sanitizePoseFlags sent.flags
  headPosition : hasFlag got.flags PoseFlag.headValid = true →
    got.head.position.Within 0.005 (sent.head.position.saturate (-83886.08) 83886.07)
  headRotation : hasFlag got.flags PoseFlag.headValid = true →
    got.head.rotation.TurnedWithin 0.275 sent.head.rotation
  rightHand : hasFlag got.flags PoseFlag.rightValid = true →
    PartFaithful sent.head got.head sent.rightHand got.rightHand
  leftHand : hasFlag got.flags PoseFlag.leftValid = true →
    PartFaithful sent.head got.head sent.leftHand got.leftHand
  virtuals : hasFlag got.flags PoseFlag.virtualsValid = true →
    List.Forall₂ (PartFaithful sent.head got.head) (sent.virtuals.take kMaxVirtualTransforms)
      got.virtuals
  origin : hasFlag got.flags PoseFlag.physicalValid = true →
    hasFlag got.flags PoseFlag.movingFloorLocal = false →
      got.xrOriginDeltaPosition.Within 0.005
          (sent.xrOriginDeltaPosition.saturate (-327.68) 327.67) ∧
        |got.xrOriginDeltaYaw - saturate (-3276.8) 3276.7 sent.xrOriginDeltaYaw| ≤ 0.05
  movingFloor : hasFlag got.flags PoseFlag.physicalValid = true →
    hasFlag got.flags PoseFlag.movingFloorLocal = true →
      got.physical.position.Within 0.005 (sent.physical.position.saturate (-327.68) 327.67)

/-- A client of a room is shown under its number and with its time. -/
structure RoomPoseClient.Faithful (sent got : RoomPoseClient ℝ) : Prop where
  clientNo : got.clientNo = sent.clientNo
  poseTime : got.poseTime = sent.poseTime
  body : sent.body.Faithful got.body

/-- No hand survives sanitising without the head. -/
theorem headValid_of_handValid (flags : UInt8) :
    hasFlag (sanitizePoseFlags flags) PoseFlag.rightValid = true ∨
      hasFlag (sanitizePoseFlags flags) PoseFlag.leftValid = true →
        hasFlag (sanitizePoseFlags flags) PoseFlag.headValid = true := by
  revert flags
  decide +kernel

/-- A part on the wire. -/
theorem wireRelative_faithful (flags : UInt8) (head part : PoseTransform ℝ)
    (hhead : hasFlag flags PoseFlag.headValid = true) :
    PartFaithful head (wireHead flags head) part
      (wireRelative head (wireHead flags head) part) := by
  have hread : wireHead flags head =
      ⟨wirePosition head.position, wireRotation (normalizeQuaternion head.rotation)⟩ :=
    if_pos hhead
  have hoffset := wireRelative_offset head (wireHead flags head) part
  refine ⟨hoffset, fun hroom hreach ↦ ?_, ?_⟩
  · have hnear := wirePosition_within head.position
    rw [Vec3.saturate_of_inRange hroom] at hnear
    rw [Vec3.saturate_of_inRange hreach] at hoffset
    rw [hread] at hoffset ⊢
    have hsum : (0.0075 : ℝ) = 0.005 + 0.0025 := by norm_num
    rw [hsum]
    exact hnear.of_offset hoffset
  · exact wireRelative_turnedWithin head _ part (by rw [hread])

/-- **What the reader makes of a body.** -/
theorem faithful_onWire (body : ClientPoseBody ℝ) : body.Faithful body.onWire := by
  have hhead : hasFlag (sanitizePoseFlags body.flags) PoseFlag.headValid = true →
      body.onWire.head =
        ⟨wirePosition body.head.position, wireRotation (normalizeQuaternion body.head.rotation)⟩ :=
    fun h ↦ if_pos h
  constructor
  case poseSeq => rfl
  case flags => rfl
  case headPosition =>
    intro h
    rw [hhead h]
    exact wirePosition_within body.head.position
  case headRotation =>
    intro h
    rw [hhead h]
    exact wireRotation_turnedWithin body.head.rotation
  case rightHand =>
    intro h
    have hvalid := headValid_of_handValid body.flags (Or.inl h)
    have hhand : body.onWire.rightHand =
        wireRelative body.head (wireHead (sanitizePoseFlags body.flags) body.head)
          body.rightHand := if_pos ((Bool.and_eq_true _ _).mpr ⟨hvalid, h⟩)
    rw [hhand]
    exact wireRelative_faithful _ body.head body.rightHand hvalid
  case leftHand =>
    intro h
    have hvalid := headValid_of_handValid body.flags (Or.inr h)
    have hhand : body.onWire.leftHand =
        wireRelative body.head (wireHead (sanitizePoseFlags body.flags) body.head)
          body.leftHand := if_pos ((Bool.and_eq_true _ _).mpr ⟨hvalid, h⟩)
    rw [hhand]
    exact wireRelative_faithful _ body.head body.leftHand hvalid
  case virtuals =>
    intro h
    have hvalid := headValid_of_virtualsValid body.flags h
    have hvirtuals : body.onWire.virtuals = (body.virtuals.take kMaxVirtualTransforms).map
        (wireRelative body.head (wireHead (sanitizePoseFlags body.flags) body.head)) :=
      if_pos ((Bool.and_eq_true _ _).mpr ⟨hvalid, h⟩)
    rw [hvirtuals, List.forall₂_map_right_iff, List.forall₂_same]
    exact fun part _ ↦ wireRelative_faithful _ body.head part hvalid
  case origin =>
    intro hphysical hfloor
    have hdelta : (hasFlag (sanitizePoseFlags body.flags) PoseFlag.physicalValid &&
        !hasFlag (sanitizePoseFlags body.flags) PoseFlag.movingFloorLocal) = true :=
      (Bool.and_eq_true _ _).mpr ⟨hphysical, (Bool.not_eq_true' _).mpr hfloor⟩
    have hwords : wireLocomotion (sanitizePoseFlags body.flags) body =
        (quantizeSigned body.xrOriginDeltaPosition.x kLocoPosScale,
          quantizeSigned body.xrOriginDeltaPosition.y kLocoPosScale,
          quantizeSigned body.xrOriginDeltaPosition.z kLocoPosScale,
          quantizeSigned body.xrOriginDeltaYaw kPhysicalYawScale) :=
      (if_pos hphysical).trans (if_neg (Bool.eq_false_iff.mp hfloor))
    have hposition : body.onWire.xrOriginDeltaPosition =
        locomotionPosition (wireLocomotion (sanitizePoseFlags body.flags) body).1
          (wireLocomotion (sanitizePoseFlags body.flags) body).2.1
          (wireLocomotion (sanitizePoseFlags body.flags) body).2.2.1 := if_pos hdelta
    have hyaw : body.onWire.xrOriginDeltaYaw =
        dequantizeSigned (wireLocomotion (sanitizePoseFlags body.flags) body).2.2.2.toInt
          kPhysicalYawScale := if_pos hdelta
    rw [hposition, hyaw, hwords]
    exact ⟨locomotionPosition_within _, locomotionYaw_within _⟩
  case movingFloor =>
    intro hphysical hfloor
    have hwords : wireLocomotion (sanitizePoseFlags body.flags) body =
        (quantizeSigned body.physical.position.x kLocoPosScale,
          quantizeSigned body.physical.position.y kLocoPosScale,
          quantizeSigned body.physical.position.z kLocoPosScale,
          quantizeSigned (quaternionToYawDegrees body.physical.rotation) kPhysicalYawScale) :=
      (if_pos hphysical).trans (if_pos hfloor)
    have hboth : (hasFlag (sanitizePoseFlags body.flags) PoseFlag.physicalValid &&
        hasFlag (sanitizePoseFlags body.flags) PoseFlag.movingFloorLocal) = true :=
      (Bool.and_eq_true _ _).mpr ⟨hphysical, hfloor⟩
    have hposition : body.onWire.physical.position =
        locomotionPosition (wireLocomotion (sanitizePoseFlags body.flags) body).1
          (wireLocomotion (sanitizePoseFlags body.flags) body).2.1
          (wireLocomotion (sanitizePoseFlags body.flags) body).2.2.1 :=
      congrArg PoseTransform.position (if_pos hboth)
    rw [hposition, hwords]
    exact locomotionPosition_within _

/-- **A peer sees the avatar that was sent.** Every pose message is accepted, and every body in it
comes back faithful, whatever the body: there may be rotations that are no units, and coordinates
out of range. -/
theorem avatar_fidelity :
    (∀ m : ClientPoseMessage ℝ,
      ∃ got, RoundTrips deserializeClientPose (serializeClientPose m) got ∧
        m.body.Faithful got.body) ∧
    ∀ m : RoomPoseMessage ℝ, m.clients.length ≤ 65535 →
      ∃ got, RoundTrips deserializeRoomPose (serializeRoomPose m) got ∧
        List.Forall₂ RoomPoseClient.Faithful m.clients got.clients := by
  constructor
  · intro m
    exact ⟨m.onWire, clientPose_roundTrips m, faithful_onWire m.body⟩
  · intro m hclients
    refine ⟨m.onWire, roomPose_roundTrips m hclients, ?_⟩
    show List.Forall₂ _ m.clients (m.clients.map RoomPoseClient.onWire)
    rw [List.forall₂_map_right_iff, List.forall₂_same]
    exact fun client _ ↦ ⟨rfl, rfl, faithful_onWire client.body⟩

/-- A room of one client, who shows a head and a right hand in reach of it. -/
theorem avatar_fidelity_one_client :
    let head : PoseTransform ℝ := ⟨⟨1, 2, 3⟩, Quat.identity⟩
    let hand : PoseTransform ℝ := ⟨⟨1.5, 1, 3⟩, ⟨0, 3, 0, 4⟩⟩
    let body : ClientPoseBody ℝ :=
      ⟨3, PoseFlag.headValid ||| PoseFlag.rightValid, 0, Vec3.zero, 0, head, head, hand, hand, []⟩
    ∃ got, RoundTrips deserializeRoomPose (serializeRoomPose ⟨[114], 1, [⟨5, 2, body⟩]⟩) got ∧
      List.Forall₂ RoomPoseClient.Faithful [⟨5, 2, body⟩] got.clients := by
  intro head hand body
  exact avatar_fidelity.2 ⟨[114], 1, [⟨5, 2, body⟩]⟩ (by simp)

end StylyNetSync
