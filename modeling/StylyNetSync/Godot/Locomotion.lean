import Mathlib.Tactic.LinearCombination
import StylyNetSync.Foundation.ExactDouble
import StylyNetSync.Godot.LocalPose
import StylyNetSync.Protocol.PoseBody

/-!
# Locomotion and the physical position

A user walks in a room and moves the rig through the scene on top of that. Where the user stands in
the room does not depend on the rig: it is where the head would be if the rig had stayed at its
starting pose. The receiver reconstructs this from the head and the delta of the rig.

The reconstruction goes through two languages and two spaces of opposite handedness. The avatar
takes the delta with a rotation of the engine, the bridge reflects head and delta and turns the yaw
around, and the decoder rotates back in wire space. In exact arithmetic the rig cancels
(`physical_position_eq`).
-/

namespace StylyNetSync

variable {D : Type}

/-! ### The decoder -/

/-- Without a moving floor the physical position is the head, moved and turned back by the delta. -/
theorem reconstructPhysical_position [DoubleTrig D] {flags : UInt8}
    (hphysical : hasFlag flags PoseFlag.physicalValid = true)
    (hhead : hasFlag flags PoseFlag.headValid = true)
    (hfloor : hasFlag flags PoseFlag.movingFloorLocal = false) (deltaPosition : Vec3 D)
    (deltaYaw : D) (dx dy dz dyaw : Int16) (head : PoseTransform D) :
    (reconstructPhysical flags deltaPosition deltaYaw dx dy dz dyaw head).position =
      rotateYawVector ⟨head.position.x - deltaPosition.x, head.position.y - deltaPosition.y,
        head.position.z - deltaPosition.z⟩ (-deltaYaw) := by
  simp only [reconstructPhysical, hphysical, hhead, hfloor]
  rfl

/-- Sanitising leaves the flags of a pose with a head alone. -/
theorem sanitizePoseFlags_of_head {flags : UInt8} (hhead : hasFlag flags PoseFlag.headValid = true)
    (hstealth : hasFlag flags PoseFlag.stealth = false) : sanitizePoseFlags flags = flags := by
  revert flags
  decide +kernel

/-- Quantisation loses nothing of the head's position and of the delta. -/
structure ClientPoseBody.QuantisedExactly [DoubleTrig D] (body : ClientPoseBody D) : Prop where
  head : body.onWire.head.position = body.head.position
  deltaPosition : body.onWire.xrOriginDeltaPosition = body.xrOriginDeltaPosition
  deltaYaw : body.onWire.xrOriginDeltaYaw = body.xrOriginDeltaYaw

/-! ### Rotations and the reflection -/

section Exact

variable [ExactDouble D]

open Coordinates ExactDouble

/-- In exact arithmetic the reflection is what it says. -/
theorem positionGodotToNetsync_eq (v : Vec3 D) : positionGodotToNetsync v = ⟨v.x, v.y, -v.z⟩ := by
  have hneg : (Double.lit (-1) : D) = -1 := by
    rw [lit_eq, Rat.cast_neg, Rat.cast_one]
  have hdiagonal (r c : Fin 3) : (reflectionMatrix : Mat3 D).m r c =
      if r = c then kReflectionDiagonal r else Double.lit 0 := rfl
  rw [positionGodotToNetsync, matrixTransform, Vec3.mk.injEq]
  simp only [hdiagonal, kReflectionDiagonal, lit_zero, lit_one, hneg]
  refine ⟨?_, ?_, ?_⟩
  · simp
  · simp
  · simp

theorem positionNetsyncToGodot_eq (v : Vec3 D) : positionNetsyncToGodot v = ⟨v.x, v.y, -v.z⟩ :=
  positionGodotToNetsync_eq v

/-- The decoder's rotation by degrees is the engine's rotation by radians. -/
theorem rotateYawVector_radToDeg (v : Vec3 D) (angle : D) :
    rotateYawVector v (radToDeg angle) = rotatedUp v angle := by
  have hunits : radToDeg angle * (kPi / Double.lit 180) = angle :=
    scale_back angle (by norm_num) (by norm_num)
  rw [rotateYawVector, hunits]
  rfl

/-- Where a point of the rig is in the scene. -/
def Node3D.toGlobal (origin : Node3D D) (v : Vec3 D) : Vec3 D :=
  let turned := rotatedUp v origin.globalYaw
  ⟨origin.globalPosition.x + turned.x, origin.globalPosition.y + turned.y,
    origin.globalPosition.z + turned.z⟩

/-- **The rig cancels.** Reflected to wire space, a point of the rig less the delta, turned by the
angle of the delta and reflected back, is where the point would be at the start. -/
theorem rotatedUp_reflected_eq (start origin : Node3D D) (h : Vec3 D) {angle : D}
    (hcos : DoubleTrig.cos angle = DoubleTrig.cos (origin.globalYaw - start.globalYaw))
    (hsin : DoubleTrig.sin angle = DoubleTrig.sin (origin.globalYaw - start.globalYaw)) :
    let turnedStart := rotatedUp start.globalPosition angle
    let point := origin.toGlobal h
    positionNetsyncToGodot
      (rotatedUp
        ⟨point.x - (origin.globalPosition.x - turnedStart.x),
          point.y - (origin.globalPosition.y - turnedStart.y),
          -point.z - -(origin.globalPosition.z - turnedStart.z)⟩ angle) =
      start.toGlobal h := by
  intro turnedStart point
  let d := origin.globalYaw - start.globalYaw
  have hyaw : origin.globalYaw = d + start.globalYaw := (sub_add_cancel _ _).symm
  have hcosYaw : DoubleTrig.cos origin.globalYaw = _ := (congrArg _ hyaw).trans (cos_add d _)
  have hsinYaw : DoubleTrig.sin origin.globalYaw = _ := (congrArg _ hyaw).trans (sin_add d _)
  have hunit := cos_sq_add_sin_sq d
  rw [positionNetsyncToGodot_eq, Node3D.toGlobal, Vec3.mk.injEq]
  simp only [turnedStart, point, Node3D.toGlobal, rotatedUp, hcos, hsin, hcosYaw, hsinYaw]
  generalize DoubleTrig.cos (origin.globalYaw - start.globalYaw) = c at hunit ⊢
  generalize DoubleTrig.sin (origin.globalYaw - start.globalYaw) = s at hunit ⊢
  generalize DoubleTrig.cos start.globalYaw = ca
  generalize DoubleTrig.sin start.globalYaw = sa
  refine ⟨?_, ?_, ?_⟩
  · linear_combination (start.globalPosition.x + ca * h.x + sa * h.z) * hunit
  · ring
  · linear_combination (start.globalPosition.z - sa * h.x + ca * h.z) * hunit

/-! ### From the scene to the receiver -/

/-- The avatar after its rig was latched at one pose and moved to another, with the head at a point
of the rig. -/
def NetSyncAvatar.moved (avatar : NetSyncAvatar D) (start origin head : Node3D D) (h : Vec3 D) :
    NetSyncAvatar D :=
  { ({ avatar with isLocalAvatar := true, xrOrigin := some start } : NetSyncAvatar D).ready with
    xrOrigin := some origin
    head := some
      { head with globalTransform := { head.globalTransform with position := origin.toGlobal h } } }

/-- The flags of a pose that `build_pose` builds with a head: the position can be reconstructed. -/
theorem flags_moved (wrapf : D → D → D → D) (avatar : NetSyncAvatar D)
    (start origin head : Node3D D) (h : Vec3 D) :
    let flags := (NetSyncBridge.localPoseBody ((avatar.moved start origin head h).buildPose
      wrapf)).flags
    hasFlag flags PoseFlag.physicalValid = true ∧ hasFlag flags PoseFlag.headValid = true ∧
      hasFlag flags PoseFlag.movingFloorLocal = false ∧ hasFlag flags PoseFlag.stealth = false := by
  have hall (right left virtuals : Bool) :
      let flags := NetSyncBridge.flagIf false PoseFlag.movingFloorLocal |||
        NetSyncBridge.flagIf true PoseFlag.headValid |||
        NetSyncBridge.flagIf right PoseFlag.rightValid |||
        NetSyncBridge.flagIf left PoseFlag.leftValid |||
        NetSyncBridge.flagIf virtuals PoseFlag.virtualsValid |||
        NetSyncBridge.flagIf true PoseFlag.physicalValid
      hasFlag flags PoseFlag.physicalValid = true ∧ hasFlag flags PoseFlag.headValid = true ∧
        hasFlag flags PoseFlag.movingFloorLocal = false ∧
        hasFlag flags PoseFlag.stealth = false := by
    revert right left virtuals
    decide
  exact hall _ _ _

/-- **Locomotion does not move the physical position.** Whatever the starting pose of the rig, its
current pose and the place of the head in it, the receiver's physical position, back in Godot space,
is where the head would be at the starting pose; and this is what the bytes decode to whenever
quantisation loses nothing. Wrapping an angle is assumed not to change its direction. -/
theorem physical_position_eq (wrapf : D → D → D → D) (avatar : NetSyncAvatar D)
    (start origin head : Node3D D) (h : Vec3 D) (dx dy dz dyaw : Int16)
    (hcos : DoubleTrig.cos (wrapf (origin.globalYaw - start.globalYaw) (-kPi) kPi) =
      DoubleTrig.cos (origin.globalYaw - start.globalYaw))
    (hsin : DoubleTrig.sin (wrapf (origin.globalYaw - start.globalYaw) (-kPi) kPi) =
      DoubleTrig.sin (origin.globalYaw - start.globalYaw)) :
    let body := NetSyncBridge.localPoseBody ((avatar.moved start origin head h).buildPose wrapf)
    positionNetsyncToGodot (reconstructPhysical body.flags body.xrOriginDeltaPosition
      body.xrOriginDeltaYaw dx dy dz dyaw body.head).position = start.toGlobal h ∧
    (body.QuantisedExactly →
      ∃ decoded : ClientPoseBody D, (readPoseBody.run (writePoseBody body)).1 = some decoded ∧
        positionNetsyncToGodot decoded.physical.position = start.toGlobal h) := by
  intro body
  obtain ⟨hphysical, hheadValid, hfloor, hstealth⟩ := flags_moved wrapf avatar start origin head h
  let angle := wrapf (origin.globalYaw - start.globalYaw) (-kPi) kPi
  let turnedStart := rotatedUp start.globalPosition angle
  have hhead : body.head.position = positionGodotToNetsync (origin.toGlobal h) := rfl
  have hdelta : body.xrOriginDeltaPosition = positionGodotToNetsync
      ⟨origin.globalPosition.x - turnedStart.x, origin.globalPosition.y - turnedStart.y,
        origin.globalPosition.z - turnedStart.z⟩ := rfl
  have hyaw : -body.xrOriginDeltaYaw = radToDeg angle := neg_neg (radToDeg angle)
  -- the decoder's own computation, on the head and the delta as the bridge made them
  have hrotated (dx dy dz dyaw : Int16) : positionNetsyncToGodot (reconstructPhysical body.flags
      body.xrOriginDeltaPosition body.xrOriginDeltaYaw dx dy dz dyaw body.head).position =
        start.toGlobal h := by
    rw [reconstructPhysical_position hphysical hheadValid hfloor, hyaw, rotateYawVector_radToDeg,
      hhead, hdelta, positionGodotToNetsync_eq, positionGodotToNetsync_eq]
    exact rotatedUp_reflected_eq start origin h hcos hsin
  refine ⟨hrotated dx dy dz dyaw, fun hexact ↦ ⟨body.onWire, ?_, ?_⟩⟩
  · have hlength := length_writePoseBody_le body
    have hread := (readPoseBody_parses body).run (by rw [sizeMod]; omega)
    rw [hread]
  · have hflags : sanitizePoseFlags body.flags = body.flags :=
      sanitizePoseFlags_of_head hheadValid hstealth
    rw [← hrotated 0 0 0 0, reconstructPhysical_position hphysical hheadValid hfloor,
      ← hexact.head, ← hexact.deltaPosition, ← hexact.deltaYaw]
    have hphysicalOnWire : body.onWire.physical.position = _ :=
      reconstructPhysical_position (hflags.symm ▸ hphysical) (hflags.symm ▸ hheadValid)
        (hflags.symm ▸ hfloor) _ _ _ _ _ _ _
    rw [hphysicalOnWire]
    rfl

end Exact

/-- `wrapf` of the engine. -/
noncomputable def wrapfReal (value min max : ℝ) : ℝ :=
  value - (max - min) * ⌊(value - min) / (max - min)⌋

/-- An angle of one radian is in the range already. -/
theorem wrapfReal_one : wrapfReal 1 (-kPi) kPi = 1 := by
  have hpi : (kPi : ℝ) = 3.14159265358979323846 := by
    rw [kPi, ExactDouble.lit_eq]
    norm_num
  have hfloor : ⌊((1 : ℝ) - -kPi) / (kPi - -kPi)⌋ = 0 := by
    rw [Int.floor_eq_zero_iff, hpi]
    constructor <;> norm_num
  rw [wrapfReal, hfloor, Int.cast_zero, mul_zero, sub_zero]

/-- A node at a position, with a yaw. -/
noncomputable def nodeAt (position : Vec3 ℝ) (yaw : ℝ) : Node3D ℝ :=
  { globalTransform := ⟨position, Quat.identity⟩, globalYaw := yaw }

/-- A rig that has moved, and turned by one radian. -/
theorem physical_position_eq_turned :
    let start := nodeAt ⟨1, 2, 3⟩ 1
    let avatar : NetSyncAvatar ℝ := { originStartPosition := Vec3.zero, originStartYaw := 0 }
    let body := NetSyncBridge.localPoseBody
      ((avatar.moved start (nodeAt ⟨4, 5, 6⟩ 2) start ⟨7, 8, 9⟩).buildPose wrapfReal)
    Coordinates.positionNetsyncToGodot (reconstructPhysical body.flags body.xrOriginDeltaPosition
      body.xrOriginDeltaYaw 0 0 0 0 body.head).position = start.toGlobal ⟨7, 8, 9⟩ := by
  have hone : (nodeAt ⟨4, 5, 6⟩ 2).globalYaw - (nodeAt ⟨1, 2, 3⟩ 1).globalYaw = (1 : ℝ) := by
    show (2 : ℝ) - 1 = 1
    norm_num
  exact (physical_position_eq wrapfReal _ (nodeAt ⟨1, 2, 3⟩ 1) (nodeAt ⟨4, 5, 6⟩ 2) _ ⟨7, 8, 9⟩
    0 0 0 0 (by rw [hone, wrapfReal_one]) (by rw [hone, wrapfReal_one])).1

end StylyNetSync
