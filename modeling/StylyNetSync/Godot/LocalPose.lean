import StylyNetSync.Core.NetSyncClient
import StylyNetSync.Godot.CoordinateConverter

/-!
# The local pose, from the scene to the client

`NetSyncAvatar.build_pose` collects the transforms of the local avatar in Godot space, together with
how far the rig has moved and turned since it started. `NetSyncBridge::set_local_pose` converts them
to wire space and derives the flags.

A `Transform3D` of the engine is its origin and the rotation quaternion of its basis. Functions of
the engine follow its documentation: rotating about the up axis turns right-handedly, and `wrapf`,
which brings an angle into a range, is a parameter. `PI` of the script and `kPi` are the same
constant.
-/

namespace StylyNetSync

variable {D : Type}

/-! ### The scene -/

/-- What the avatar reads of a node. -/
structure Node3D (D : Type) where
  globalTransform : PoseTransform D
  /-- `global_rotation.y`, in radians. -/
  globalYaw : D
  visible : Bool := true

/-- Position of a node. -/
def Node3D.globalPosition (node : Node3D D) : Vec3 D := node.globalTransform.position

/-- The local avatar. -/
structure NetSyncAvatar (D : Type) where
  isLocalAvatar : Bool := true
  head : Option (Node3D D) := none
  rightHand : Option (Node3D D) := none
  leftHand : Option (Node3D D) := none
  /-- Entries may be unset. -/
  virtualTransforms : List (Option (Node3D D)) := []
  xrOrigin : Option (Node3D D) := none
  originStartPosition : Vec3 D
  originStartYaw : D
  hasOriginBaseline : Bool := false

/-- The dictionary that a pose source hands over. A key that is not there is `none`. -/
structure PoseDictionary (D : Type) where
  head : Option (PoseTransform D) := none
  rightHand : Option (PoseTransform D) := none
  leftHand : Option (PoseTransform D) := none
  physical : Option (PoseTransform D) := none
  virtuals : Option (List (PoseTransform D)) := none
  xrOriginDeltaPosition : Option (Vec3 D) := none
  /-- In degrees. -/
  xrOriginDeltaYaw : Option D := none
  movingFloorLocal : Option Bool := none
  physicalValid : Option Bool := none

variable [DoubleTrig D]

open Double DoubleTrig

/-- `Vector3.rotated(Vector3.UP, angle)`. -/
def rotatedUp (v : Vec3 D) (angle : D) : Vec3 D :=
  ⟨cos angle * v.x + sin angle * v.z, v.y, -sin angle * v.x + cos angle * v.z⟩

/-- `rad_to_deg`. -/
def radToDeg (angle : D) : D := angle * (lit 180 / kPi)

namespace NetSyncAvatar

/-- The part of `_ready` that latches the rig's starting pose. -/
def ready (avatar : NetSyncAvatar D) : NetSyncAvatar D :=
  match avatar.xrOrigin with
  | none => avatar
  | some origin =>
    if avatar.isLocalAvatar then
      { avatar with
        originStartPosition := origin.globalPosition
        originStartYaw := origin.globalYaw
        hasOriginBaseline := true }
    else avatar

/-- A hand is published while it is visible. -/
def visibleTransform (node : Option (Node3D D)) : Option (PoseTransform D) :=
  (node.filter Node3D.visible).map Node3D.globalTransform

/-- Build the pose dictionary. The movement of the rig is sent as the delta that takes its starting
pose to the current one: how far it has turned, and where it is beyond the turned starting
position. -/
def buildPose (wrapf : D → D → D → D) (avatar : NetSyncAvatar D) : PoseDictionary D :=
  let virtuals := avatar.virtualTransforms.filterMap (Option.map Node3D.globalTransform)
  let pose : PoseDictionary D :=
    { head := avatar.head.map Node3D.globalTransform
      rightHand := visibleTransform avatar.rightHand
      leftHand := visibleTransform avatar.leftHand
      virtuals := if virtuals.isEmpty then none else some virtuals }
  match avatar.xrOrigin with
  | none => pose
  | some origin =>
    if avatar.hasOriginBaseline then
      let yawDelta := wrapf (origin.globalYaw - avatar.originStartYaw) (-kPi) kPi
      let rotatedStart := rotatedUp avatar.originStartPosition yawDelta
      { pose with
        xrOriginDeltaPosition :=
          some ⟨origin.globalPosition.x - rotatedStart.x, origin.globalPosition.y - rotatedStart.y,
            origin.globalPosition.z - rotatedStart.z⟩
        xrOriginDeltaYaw := some (radToDeg yawDelta) }
    else pose

end NetSyncAvatar

/-! ### The bridge -/

namespace NetSyncBridge

open Coordinates

/-- The flag of a part that is there. -/
def flagIf (present : Bool) (flag : UInt8) : UInt8 := if present then flag else 0

/-- The body that `set_local_pose` hands to the client. -/
def localPoseBody (pose : PoseDictionary D) : ClientPoseBody D :=
  let virtuals := (pose.virtuals.getD []).map transformGodotToNetsync
  { (ClientPoseBody.default : ClientPoseBody D) with
    flags :=
      flagIf (pose.movingFloorLocal.getD false) PoseFlag.movingFloorLocal |||
        flagIf pose.head.isSome PoseFlag.headValid |||
        flagIf pose.rightHand.isSome PoseFlag.rightValid |||
        flagIf pose.leftHand.isSome PoseFlag.leftValid |||
        flagIf (!virtuals.isEmpty) PoseFlag.virtualsValid |||
        -- set unless the source says otherwise: the receiver needs the delta
        flagIf (pose.physicalValid.getD true) PoseFlag.physicalValid
    head := (pose.head.map transformGodotToNetsync).getD PoseTransform.default
    rightHand := (pose.rightHand.map transformGodotToNetsync).getD PoseTransform.default
    leftHand := (pose.leftHand.map transformGodotToNetsync).getD PoseTransform.default
    physical := (pose.physical.map transformGodotToNetsync).getD PoseTransform.default
    virtuals := virtuals
    xrOriginDeltaPosition :=
      (pose.xrOriginDeltaPosition.map positionGodotToNetsync).getD Vec3.zero
    xrOriginDeltaYaw := (pose.xrOriginDeltaYaw.map yawDegreesGodotToNetsync).getD (lit 0) }

/-- `set_local_pose`: the call it makes on the client. -/
def setLocalPose (pose : PoseDictionary D) : HostCall D := .setLocalPose (localPoseBody pose)

end NetSyncBridge

end StylyNetSync
