import StylyNetSync.Foundation.ExactReal
import StylyNetSync.Foundation.TurnedArgument
import StylyNetSync.Protocol.Deserialize
import StylyNetSync.Protocol.RotationCodec

/-!
# What the extracted yaw follows

The yaw of a rotation is taken from the first row of its matrix: from where the right axis and the
forward axis point to the right. That is the angle by which a rotation turns about its own up axis
before it does anything else, and it follows such turns. A turn about the up axis of the room, as a
rig makes it, mixes the first row with the third. The yaw follows it for a head that is level, and
for no other (`yaw_follows_turning`).
-/

namespace StylyNetSync

open ExactReal

/-! ### Degrees -/

theorem toReal_kPi : (kPi : ExactReal).toReal = Real.pi := toReal_lit_pi

/-- Literals without a fractional part. -/
theorem toReal_lit_natCast (n : ℕ) : (Double.lit n : ExactReal).toReal = n := by
  refine (toReal_lit ?_).trans (Rat.cast_natCast n)
  intro heq
  have hlower : (3 : ℚ) < n := by rw [heq, piLiteral]; norm_num
  have hupper : (n : ℚ) < 4 := by rw [heq, piLiteral]; norm_num
  have hthree : 3 < n := by exact_mod_cast hlower
  have hfour : n < 4 := by exact_mod_cast hupper
  omega

@[simp] theorem toReal_lit_zero : (Double.lit 0 : ExactReal).toReal = 0 := by
  exact_mod_cast toReal_lit_natCast 0

@[simp] theorem toReal_lit_one : (Double.lit 1 : ExactReal).toReal = 1 := by
  exact_mod_cast toReal_lit_natCast 1

@[simp] theorem toReal_lit_ofNat (n : ℕ) [n.AtLeastTwo] :
    (Double.lit ofNat(n) : ExactReal).toReal = ofNat(n) :=
  toReal_lit_natCast n

/-- The same angle in degrees. -/
def SameDegrees (a b : ℝ) : Prop := ∃ k : ℤ, a = b + 360 * k

/-- Equal degrees are equal angles. -/
theorem sameDegrees_iff {a b : ℝ} :
    SameDegrees (a * (180 / Real.pi)) (b * (180 / Real.pi)) ↔ (a : Real.Angle) = b := by
  rw [Real.Angle.angle_eq_iff_two_pi_dvd_sub, SameDegrees]
  refine exists_congr fun k ↦ ?_
  have hpi := Real.pi_ne_zero
  rw [div_eq_mul_inv]
  constructor
  · intro h
    field_simp at h
    linarith
  · intro h
    field_simp
    linarith

namespace SameDegrees

variable {a b c : ℝ}

theorem refl (a : ℝ) : SameDegrees a a := ⟨0, by simp⟩

theorem symm : SameDegrees a b → SameDegrees b a := by
  rintro ⟨k, rfl⟩
  exact ⟨-k, by push_cast; ring⟩

theorem trans : SameDegrees a b → SameDegrees b c → SameDegrees a c := by
  rintro ⟨k, rfl⟩ ⟨l, rfl⟩
  exact ⟨l + k, by push_cast; ring⟩

theorem add_right (c : ℝ) : SameDegrees (a + c) (b + c) ↔ SameDegrees a b := by
  refine exists_congr fun k ↦ ?_
  constructor <;> intro h <;> linarith

/-- Two angles of one full turn are equal. -/
theorem eq_of_range (h : SameDegrees a b) (ha : -180 ≤ a) (ha' : a < 180) (hb : -180 ≤ b)
    (hb' : b < 180) : a = b := by
  obtain ⟨k, rfl⟩ := h
  have hlower : (-1 : ℝ) < k := by linarith
  have hupper : (k : ℝ) < 1 := by linarith
  have hk : k = 0 := by
    have hlower' : -1 < k := by exact_mod_cast hlower
    have hupper' : k < 1 := by exact_mod_cast hupper
    omega
  rw [hk, Int.cast_zero, mul_zero, add_zero]

end SameDegrees

/-- A remainder, taken towards zero. -/
theorem fmod_exact {x y : ℝ} (hy : 0 < y) :
    ∃ k : ℤ, Double.fmod x y = x - y * k ∧ -y < Double.fmod x y ∧ Double.fmod x y < y := by
  rw [Double.fmod_real]
  split
  · refine ⟨⌈x / y⌉, rfl, ?_, ?_⟩
    · have hceil := Int.ceil_lt_add_one (x / y)
      have hle : y * ⌈x / y⌉ < y * (x / y + 1) := by gcongr
      rw [mul_add, mul_div_cancel₀ _ hy.ne'] at hle
      linarith
    · have hceil := Int.le_ceil (x / y)
      have hle : y * (x / y) ≤ y * ⌈x / y⌉ := by gcongr
      rw [mul_div_cancel₀ _ hy.ne'] at hle
      linarith
  · refine ⟨⌊x / y⌋, rfl, ?_, ?_⟩
    · have hfloor := Int.floor_le (x / y)
      have hle : y * ⌊x / y⌋ ≤ y * (x / y) := by gcongr
      rw [mul_div_cancel₀ _ hy.ne'] at hle
      linarith
    · have hfloor := Int.lt_floor_add_one (x / y)
      have hle : y * (x / y) < y * (⌊x / y⌋ + 1) := by gcongr
      rw [mul_add, mul_div_cancel₀ _ hy.ne'] at hle
      linarith

/-- Normalising an angle leaves it the same modulo a full turn, and between two half turns. -/
theorem normalizeYawDegrees_exact (yaw : ExactReal) :
    SameDegrees (normalizeYawDegrees yaw).toReal yaw.toReal ∧
      -180 ≤ (normalizeYawDegrees yaw).toReal ∧ (normalizeYawDegrees yaw).toReal < 180 := by
  obtain ⟨k, hk, hlower, hupper⟩ := fmod_exact (x := yaw.toReal + 180) (y := 360) (by norm_num)
  have hshifted : (Double.fmod (yaw + Double.lit 180) (Double.lit 360)).toReal =
      Double.fmod (yaw.toReal + 180) (360 : ℝ) := by
    rw [toReal_fmod, toReal_add, toReal_lit_ofNat, toReal_lit_ofNat]
  rw [normalizeYawDegrees]
  simp only [lt_iff, toReal_lit_zero]
  split
  · next hneg =>
    rw [hshifted] at hneg
    rw [toReal_sub, toReal_add, hshifted, toReal_lit_ofNat, toReal_lit_ofNat]
    refine ⟨⟨1 - k, ?_⟩, ?_, ?_⟩
    · rw [hk]
      push_cast
      ring
    · linarith
    · linarith
  · next hnonneg =>
    rw [hshifted, not_lt] at hnonneg
    rw [toReal_sub, hshifted, toReal_lit_ofNat]
    refine ⟨⟨-k, ?_⟩, ?_, ?_⟩
    · rw [hk]
      push_cast
      ring
    · linarith
    · linarith

/-- Normalised angles are equal if the angles are the same. -/
theorem normalizeYawDegrees_eq_iff (a b : ExactReal) :
    normalizeYawDegrees a = normalizeYawDegrees b ↔ SameDegrees a.toReal b.toReal := by
  obtain ⟨hsame_a, hlower_a, hupper_a⟩ := normalizeYawDegrees_exact a
  obtain ⟨hsame_b, hlower_b, hupper_b⟩ := normalizeYawDegrees_exact b
  constructor
  · intro h
    rw [h] at hsame_a
    exact hsame_a.symm.trans hsame_b
  · intro h
    have hsame := (hsame_a.trans h).trans hsame_b.symm
    exact ExactReal.ext (hsame.eq_of_range hlower_a hupper_a hlower_b hupper_b)

/-! ### The yaw of a unit quaternion -/

/-- A unit quaternion is normalised already. -/
theorem normalizeQuaternion_exact {q : Quat ExactReal} (h : q.magSq.toReal = 1) :
    normalizeQuaternion q = q := by
  have hepsilon : (kQuatNormalizeEpsilon : ExactReal).toReal = 1e-12 := by
    refine (toReal_lit (by rw [piLiteral]; norm_num)).trans ?_
    norm_num
  have hlarge : Double.le q.magSq kQuatNormalizeEpsilon = false := by
    rw [Bool.eq_false_iff, Ne, le_iff, h, hepsilon]
    norm_num
  have hscale (a : ExactReal) : a * (Double.lit 1 / Double.sqrt q.magSq) = a := by
    apply ExactReal.ext
    rw [toReal_mul, toReal_div, toReal_sqrt, h, toReal_lit_one, Real.sqrt_one, div_one, mul_one]
  rw [normalizeQuaternion]
  show (if !Double.isFinite q.magSq || Double.le q.magSq kQuatNormalizeEpsilon then _
    else (⟨q.x * (Double.lit 1 / Double.sqrt q.magSq), _, _, _⟩ : Quat ExactReal)) = q
  rw [hlarge, isFinite_eq, if_neg (by simp)]
  exact Quat.mk.injEq .. |>.mpr ⟨hscale q.x, hscale q.y, hscale q.z, hscale q.w⟩

/-- The first row of the rotation matrix, without its middle entry: where the right axis and the
forward axis point to the right. -/
noncomputable def rightRow (q : Quat ExactReal) : ℂ :=
  ⟨(Double.lit 1 - Double.lit 2 * (q.y * q.y + q.z * q.z)).toReal,
    (Double.lit 2 * (q.w * q.y + q.z * q.x)).toReal⟩

/-- The third row in the same way: where the two axes point forward. -/
noncomputable def forwardRow (q : Quat ExactReal) : ℂ :=
  ⟨(Double.lit 2 * (q.x * q.z - q.w * q.y)).toReal,
    (Double.lit 1 - Double.lit 2 * (q.x * q.x + q.y * q.y)).toReal⟩

theorem rightRow_eq (q : Quat ExactReal) :
    rightRow q = ⟨1 - 2 * (q.y.toReal * q.y.toReal + q.z.toReal * q.z.toReal),
      2 * (q.w.toReal * q.y.toReal + q.z.toReal * q.x.toReal)⟩ := by
  rw [rightRow, toReal_sub, toReal_mul, toReal_mul, toReal_lit_one, toReal_lit_ofNat]
  rfl

theorem forwardRow_eq (q : Quat ExactReal) :
    forwardRow q = ⟨2 * (q.x.toReal * q.z.toReal - q.w.toReal * q.y.toReal),
      1 - 2 * (q.x.toReal * q.x.toReal + q.y.toReal * q.y.toReal)⟩ := by
  rw [forwardRow, toReal_sub, toReal_mul, toReal_mul, toReal_lit_one, toReal_lit_ofNat]
  rfl

/-- **The extracted yaw is the argument of the first row.** -/
theorem quaternionToYawDegrees_exact {q : Quat ExactReal} (h : q.magSq.toReal = 1) :
    SameDegrees (quaternionToYawDegrees q).toReal
      (Complex.arg (rightRow q) * (180 / Real.pi)) := by
  rw [quaternionToYawDegrees, normalizeQuaternion_exact h, rightRow_eq]
  refine (normalizeYawDegrees_exact _).1.trans ?_
  simp only [toReal_mul, toReal_div, toReal_atan2, toReal_sub, toReal_add, toReal_lit_ofNat,
    toReal_lit_one, toReal_kPi]
  exact SameDegrees.refl _

/-! ### Turning -/

/-- Radians of a number of degrees. -/
noncomputable def radians (a : ExactReal) : ℝ := a.toReal * (Real.pi / 180)

/-- A yaw-only quaternion has the sine and the cosine of half its angle. -/
theorem yawDegreesToQuaternion_exact (a : ExactReal) :
    ∃ s c : ℝ, yawDegreesToQuaternion a = ⟨⟨0⟩, ⟨s⟩, ⟨0⟩, ⟨c⟩⟩ ∧ c * c + s * s = 1 ∧
      Real.cos (radians a) = c * c - s * s ∧ Real.sin (radians a) = 2 * s * c := by
  have hhalf : (Double.lit 0.5 : ExactReal).toReal = 1 / 2 := by
    refine (toReal_lit (by rw [piLiteral]; norm_num)).trans ?_
    norm_num
  have hangle : (a * (kPi / Double.lit 180) * Double.lit 0.5).toReal = radians a / 2 := by
    rw [toReal_mul, toReal_mul, toReal_div, toReal_kPi, toReal_lit_ofNat, hhalf, radians]
    ring
  have hdouble : radians a = 2 * (radians a / 2) := by ring
  have hunit := Real.cos_sq_add_sin_sq (radians a / 2)
  refine ⟨Real.sin (radians a / 2), Real.cos (radians a / 2), ?_, ?_, ?_, ?_⟩
  · rw [← hangle]
    exact Quat.mk.injEq .. |>.mpr ⟨ExactReal.ext toReal_lit_zero, rfl,
      ExactReal.ext toReal_lit_zero, rfl⟩
  · rw [← sq, ← sq, hunit]
  · rw [hdouble, Real.cos_two_mul', ← hdouble, sq, sq]
  · rw [hdouble, Real.sin_two_mul, ← hdouble]

section Turned

variable {q : Quat ExactReal} (h : q.magSq.toReal = 1) (a : ExactReal)
include h

/-- Turning about the up axis keeps a quaternion a unit and moves the first row along an ellipse,
towards the third. -/
theorem turn_mul_exact :
    (quaternionMultiply (yawDegreesToQuaternion a) q).magSq.toReal = 1 ∧
      rightRow (quaternionMultiply (yawDegreesToQuaternion a) q) =
        Complex.ellipse (rightRow q) (forwardRow q) (radians a) := by
  obtain ⟨s, c, hturn, hunit, hcos, hsin⟩ := yawDegreesToQuaternion_exact a
  obtain ⟨⟨x⟩, ⟨y⟩, ⟨z⟩, ⟨w⟩⟩ := q
  have hone : x * x + y * y + z * z + w * w = 1 := h
  rw [hturn]
  constructor
  · simp only [Quat.magSq, quaternionMultiply, toReal_add, toReal_sub, toReal_mul]
    linear_combination (x * x + y * y + z * z + w * w) * hunit + hone
  · rw [Complex.ellipse, hcos, hsin]
    apply Complex.ext
    · simp [rightRow_eq, forwardRow_eq, quaternionMultiply]
      linear_combination -hunit - 2 * s * s * hone
    · simp [rightRow_eq, forwardRow_eq, quaternionMultiply]
      linear_combination 2 * s * c * hone

/-- Turning about the own up axis turns the first row. -/
theorem mul_turn_exact :
    (quaternionMultiply q (yawDegreesToQuaternion a)).magSq.toReal = 1 ∧
      rightRow (quaternionMultiply q (yawDegreesToQuaternion a)) =
        rightRow q * Complex.direction (radians a) := by
  obtain ⟨s, c, hturn, hunit, hcos, hsin⟩ := yawDegreesToQuaternion_exact a
  obtain ⟨⟨x⟩, ⟨y⟩, ⟨z⟩, ⟨w⟩⟩ := q
  have hone : x * x + y * y + z * z + w * w = 1 := h
  rw [hturn]
  constructor
  · simp only [Quat.magSq, quaternionMultiply, toReal_add, toReal_sub, toReal_mul]
    linear_combination (x * x + y * y + z * z + w * w) * hunit + hone
  · rw [Complex.direction, hcos, hsin]
    apply Complex.ext
    · simp [rightRow_eq, quaternionMultiply]
      linear_combination -hunit - 2 * s * s * hone
    · simp [rightRow_eq, quaternionMultiply]
      linear_combination 2 * s * c * hone

/-- The extracted yaw follows a turn if the argument of the first row does. -/
theorem sameDegrees_yaw_iff {p : Quat ExactReal} (hp : p.magSq.toReal = 1) :
    SameDegrees (quaternionToYawDegrees p).toReal ((quaternionToYawDegrees q).toReal + a.toReal) ↔
      (Complex.arg (rightRow p) : Real.Angle) = Complex.arg (rightRow q) + radians a := by
  have hyaw := quaternionToYawDegrees_exact h
  have hturned := quaternionToYawDegrees_exact hp
  have hradians : Complex.arg (rightRow q) * (180 / Real.pi) + a.toReal =
      (Complex.arg (rightRow q) + radians a) * (180 / Real.pi) := by
    have hpi := Real.pi_ne_zero
    rw [radians]
    field_simp
  have hsum : SameDegrees ((quaternionToYawDegrees q).toReal + a.toReal)
      ((Complex.arg (rightRow q) + radians a) * (180 / Real.pi)) := by
    rw [← hradians]
    exact (SameDegrees.add_right _).mpr hyaw
  rw [← Real.Angle.coe_add, ← sameDegrees_iff]
  exact ⟨fun hsame ↦ (hturned.symm.trans hsame).trans hsum,
    fun hsame ↦ (hturned.trans hsame).trans hsum.symm⟩

end Turned

/-- The third row is the first one, turned by a right angle, only for a turn about the up axis. -/
theorem forwardRow_eq_iff {q : Quat ExactReal} (h : q.magSq.toReal = 1) :
    (rightRow q ≠ 0 ∧ forwardRow q = Complex.I * rightRow q) ↔
      q.x.toReal = 0 ∧ q.z.toReal = 0 := by
  obtain ⟨⟨x⟩, ⟨y⟩, ⟨z⟩, ⟨w⟩⟩ := q
  have hone : x * x + y * y + z * z + w * w = 1 := h
  constructor
  · rintro ⟨-, hrow⟩
    have hre := congrArg Complex.re hrow
    have him := congrArg Complex.im hrow
    simp [rightRow_eq, forwardRow_eq] at hre him
    show x = 0 ∧ z = 0
    have hproduct : x * z = 0 := by linarith
    have hsquares : x * x = z * z := by linarith
    rcases mul_eq_zero.mp hproduct with rfl | rfl
    · exact ⟨rfl, mul_self_eq_zero.mp (by linarith)⟩
    · exact ⟨mul_self_eq_zero.mp (by linarith), rfl⟩
  · rintro ⟨hx, hz⟩
    obtain rfl : x = 0 := hx
    obtain rfl : z = 0 := hz
    constructor
    · intro hzero
      have hre := congrArg Complex.re hzero
      have him := congrArg Complex.im hzero
      simp [rightRow_eq] at hre him
      rcases him with rfl | rfl
      · linarith
      · linarith
    · apply Complex.ext
      · simp [rightRow_eq, forwardRow_eq]
      · simp [rightRow_eq, forwardRow_eq]

/-! ### The physical yaw -/

/-- The yaw in the room: that of the head less that of the rig. -/
def physicalYaw {D : Type} [DoubleTrig D] (head : Quat D) (deltaYaw : D) : D :=
  normalizeYawDegrees (quaternionToYawDegrees head - deltaYaw)

/-- Without a moving floor the physical rotation is the one about the up axis by that yaw. -/
theorem reconstructPhysical_rotation {D : Type} [DoubleTrig D] {flags : UInt8}
    (hphysical : hasFlag flags PoseFlag.physicalValid = true)
    (hhead : hasFlag flags PoseFlag.headValid = true)
    (hfloor : hasFlag flags PoseFlag.movingFloorLocal = false) (deltaPosition : Vec3 D)
    (deltaYaw : D) (dx dy dz dyaw : Int16) (head : PoseTransform D) :
    (reconstructPhysical flags deltaPosition deltaYaw dx dy dz dyaw head).rotation =
      yawDegreesToQuaternion (physicalYaw head.rotation deltaYaw) := by
  simp only [reconstructPhysical, hphysical, hhead, hfloor]
  rfl

theorem physicalYaw_eq_iff (p q : Quat ExactReal) (delta a : ExactReal) :
    physicalYaw p (delta + a) = physicalYaw q delta ↔
      SameDegrees (quaternionToYawDegrees p).toReal
        ((quaternionToYawDegrees q).toReal + a.toReal) := by
  rw [physicalYaw, physicalYaw, normalizeYawDegrees_eq_iff, toReal_sub, toReal_sub, toReal_add]
  refine exists_congr fun k ↦ ?_
  constructor <;> intro hk <;> linarith

/-! ### Whose yaw follows -/

/-- **The yaw of a level head follows every turn of the rig, and that of no other head does**; so
does the physical yaw that is reconstructed from it. A turn of the head about its own up axis is
followed unless the first row vanishes. -/
theorem yaw_follows_turning (q : Quat ExactReal) (h : q.magSq.toReal = 1) :
    ((∀ a, SameDegrees
        (quaternionToYawDegrees (quaternionMultiply (yawDegreesToQuaternion a) q)).toReal
        ((quaternionToYawDegrees q).toReal + a.toReal)) ↔ q.x.toReal = 0 ∧ q.z.toReal = 0) ∧
      ((∀ a delta, physicalYaw (quaternionMultiply (yawDegreesToQuaternion a) q) (delta + a) =
        physicalYaw q delta) ↔ q.x.toReal = 0 ∧ q.z.toReal = 0) ∧
      (rightRow q ≠ 0 → ∀ a, SameDegrees
        (quaternionToYawDegrees (quaternionMultiply q (yawDegreesToQuaternion a))).toReal
        ((quaternionToYawDegrees q).toReal + a.toReal)) := by
  have hturned (a : ExactReal) : SameDegrees
      (quaternionToYawDegrees (quaternionMultiply (yawDegreesToQuaternion a) q)).toReal
      ((quaternionToYawDegrees q).toReal + a.toReal) ↔
        (Complex.arg (Complex.ellipse (rightRow q) (forwardRow q) (radians a)) : Real.Angle) =
          Complex.arg (rightRow q) + radians a := by
    obtain ⟨hunit, hrow⟩ := turn_mul_exact h a
    rw [sameDegrees_yaw_iff h a hunit, hrow]
  have hall : (∀ a, SameDegrees
      (quaternionToYawDegrees (quaternionMultiply (yawDegreesToQuaternion a) q)).toReal
      ((quaternionToYawDegrees q).toReal + a.toReal)) ↔ q.x.toReal = 0 ∧ q.z.toReal = 0 := by
    rw [← forwardRow_eq_iff h, ← Complex.arg_ellipse_iff]
    constructor
    · intro hfollows θ
      have hθ : radians ⟨θ * (180 / Real.pi)⟩ = θ := by
        have hpi := Real.pi_ne_zero
        rw [radians]
        field_simp
      have hangle := (hturned ⟨θ * (180 / Real.pi)⟩).mp (hfollows _)
      rwa [hθ] at hangle
    · intro hfollows a
      exact (hturned a).mpr (hfollows (radians a))
  refine ⟨hall, ?_, ?_⟩
  · rw [← hall]
    constructor
    · intro hphysical a
      exact (physicalYaw_eq_iff _ q ⟨0⟩ a).mp (hphysical a ⟨0⟩)
    · intro hfollows a delta
      exact (physicalYaw_eq_iff _ q delta a).mpr (hfollows a)
  · intro hrow a
    obtain ⟨hunit, hdirection⟩ := mul_turn_exact h a
    rw [sameDegrees_yaw_iff h a hunit, hdirection, Complex.arg_mul_direction hrow]

/-- A level head, turned by a third of a right angle. -/
theorem yaw_follows_turning_level :
    let q : Quat ExactReal := ⟨⟨0⟩, ⟨3 / 5⟩, ⟨0⟩, ⟨4 / 5⟩⟩
    physicalYaw (quaternionMultiply (yawDegreesToQuaternion ⟨30⟩) q) (⟨10⟩ + ⟨30⟩) =
        physicalYaw q ⟨10⟩ ∧
      SameDegrees
        (quaternionToYawDegrees (quaternionMultiply q (yawDegreesToQuaternion ⟨30⟩))).toReal
        ((quaternionToYawDegrees q).toReal + 30) := by
  intro q
  have hunit : q.magSq.toReal = 1 := by
    show (0 : ℝ) * 0 + 3 / 5 * (3 / 5) + 0 * 0 + 4 / 5 * (4 / 5) = 1
    norm_num
  have hrow : rightRow q ≠ 0 := ((forwardRow_eq_iff hunit).mpr ⟨rfl, rfl⟩).1
  obtain ⟨-, hphysical, hown⟩ := yaw_follows_turning q hunit
  exact ⟨hphysical.mpr ⟨rfl, rfl⟩ ⟨30⟩ ⟨10⟩, hown hrow ⟨30⟩⟩

/-- A head that looks down by about 74 degrees. -/
noncomputable def lookingDown : Quat ExactReal := ⟨⟨3 / 5⟩, ⟨0⟩, ⟨0⟩, ⟨4 / 5⟩⟩

/-- **The yaw of a head that looks down is not 45 degrees when it is turned by as much**, though the
forward axis is not vertical. -/
theorem lookingDown_not_followed :
    lookingDown.magSq.toReal = 1 ∧ (forwardRow lookingDown).im ≠ 0 ∧
      ¬SameDegrees
        (quaternionToYawDegrees
          (quaternionMultiply (yawDegreesToQuaternion ⟨45⟩) lookingDown)).toReal
        ((quaternionToYawDegrees lookingDown).toReal + 45) := by
  have hunit : lookingDown.magSq.toReal = 1 := by
    show (3 / 5 : ℝ) * (3 / 5) + 0 * 0 + 0 * 0 + 4 / 5 * (4 / 5) = 1
    norm_num
  have hright : rightRow lookingDown = 1 := by
    apply Complex.ext <;> simp [rightRow_eq, lookingDown]
  have hforward : forwardRow lookingDown = ⟨0, 7 / 25⟩ := by
    apply Complex.ext
    · simp [forwardRow_eq, lookingDown]
    · norm_num [forwardRow_eq, lookingDown]
  refine ⟨hunit, ?_, ?_⟩
  · rw [hforward]
    norm_num
  · intro hsame
    obtain ⟨hturned, hrow⟩ := turn_mul_exact hunit ⟨45⟩
    have hradians : radians ⟨45⟩ = Real.pi / 4 := by
      rw [radians]
      ring
    have hangle := (sameDegrees_yaw_iff hunit ⟨45⟩ hturned).mp hsame
    rw [hrow, hright, hforward, hradians] at hangle
    have hpoint : Complex.ellipse 1 ⟨0, 7 / 25⟩ (Real.pi / 4) =
        ⟨√2 / 2, √2 / 2 * (7 / 25)⟩ := by
      rw [Complex.ellipse, Real.cos_pi_div_four, Real.sin_pi_div_four]
      apply Complex.ext <;> simp
    have hne : Complex.ellipse 1 ⟨0, 7 / 25⟩ (Real.pi / 4) ≠ 0 := by
      rw [hpoint]
      intro hzero
      have hre : √2 / 2 = 0 := congrArg Complex.re hzero
      have hpos : 0 < √(2 : ℝ) / 2 := by positivity
      exact hpos.ne' hre
    obtain ⟨r, -, hray⟩ := Complex.exists_pos_of_arg_eq_add one_ne_zero hne hangle
    rw [hpoint, Complex.direction, Real.cos_pi_div_four, Real.sin_pi_div_four, one_mul] at hray
    -- On the diagonal the two parts are equal, and here they are not.
    have hre : √2 / 2 = r * (√2 / 2) := by simpa using congrArg Complex.re hray
    have him : √2 / 2 * (7 / 25) = r * (√2 / 2) := by simpa using congrArg Complex.im hray
    have hpos : 0 < √(2 : ℝ) / 2 := by positivity
    linarith

end StylyNetSync
