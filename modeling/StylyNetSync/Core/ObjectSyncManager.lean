import StylyNetSync.Core.Callbacks
import StylyNetSync.Foundation.DoubleArith
import StylyNetSync.Foundation.OrderedMap

/-!
# Synchronised objects

`ObjectSyncManager` of the source: the registered objects with their owners, the poses the host
submits for them, and the decision which poses are sent. Sending is limited by the send rate,
suppressed while nothing changes, and repeated once per second.

The poses of an entry that the source guards with a flag (`has_local_pose`, `has_last_sent_pose`)
are options here. Times that come from the wire are kept as the bits of the double.
-/

namespace StylyNetSync

/-! ### Data -/

/-- Everything the caller needs to drive one synchronised object. -/
structure ObjectState (D : Type) where
  objectId : UInt32 := 0
  ownerClientNo : ℤ := 0
  poseSeq : UInt16 := 0
  poseTime : UInt64 := 0
  /-- Server broadcast time of the frame that carried this pose. -/
  broadcastTime : UInt64 := 0
  pose : PoseTransform D
  hasPose : Bool := false

structure OwnershipChange where
  objectId : UInt32 := 0
  newOwnerClientNo : ℤ := 0
  previousOwnerClientNo : ℤ := 0
  deriving DecidableEq

structure OwnershipRejection where
  objectId : UInt32 := 0
  currentOwnerClientNo : ℤ := 0
  reasonCode : ℤ := 0
  deriving DecidableEq

/-- The manager's record of one object. -/
structure ObjectEntry (D : Type) where
  state : ObjectState D
  /-- The pose last submitted by the host. -/
  localPose : Option (PoseTransform D) := none
  lastSendTime : D
  sendPoseSeq : UInt16 := 0
  lastSentPose : Option (PoseTransform D) := none

structure ObjectSyncManager (D : Type) where
  localClientNo : ℤ := 0
  localDeviceId : Bytes := []
  objects : OrderedMap UInt32 (ObjectEntry D) := ∅

section Constants

variable {D : Type} [Double D]

/-- An unchanged owned object is still re-sent this often. -/
def kHeartbeatIntervalSeconds : D := Double.lit 1

/-- A send time before any other. -/
def kNeverSent : D := Double.lit (-1000000000)

def ObjectEntry.default : ObjectEntry D where
  state := { pose := PoseTransform.default }
  lastSendTime := kNeverSent

def posesEqual (a b : PoseTransform D) : Bool :=
  Double.eq a.position.x b.position.x && Double.eq a.position.y b.position.y &&
    Double.eq a.position.z b.position.z && Double.eq a.rotation.x b.rotation.x &&
    Double.eq a.rotation.y b.rotation.y && Double.eq a.rotation.z b.rotation.z &&
    Double.eq a.rotation.w b.rotation.w

end Constants

namespace ObjectSyncManager

variable {D ω : Type}

def setLocalIdentity (clientNo : ℤ) (deviceId : Bytes) (m : ObjectSyncManager D) :
    ObjectSyncManager D :=
  { m with localClientNo := clientNo, localDeviceId := deviceId }

/-! ### Registration and submission -/

/-- Register an object so its state is tracked. An object that is registered already keeps its
state. -/
def registerObject [Double D] (callbacks : Callbacks ω) (objectId : UInt32)
    (m : ObjectSyncManager D) (w : ω) : Bool × ObjectSyncManager D × ω :=
  if objectId = 0 then
    (false, m, callbacks.log "NetSyncObject has no object id assigned; skipping registration" w)
  else
    let entry := m.objects[objectId]?.getD ObjectEntry.default
    let entry := { entry with state := { entry.state with objectId := objectId } }
    (true, { m with objects := m.objects.insert objectId entry }, w)

def unregisterObject (objectId : UInt32) (m : ObjectSyncManager D) : ObjectSyncManager D :=
  { m with objects := m.objects.erase objectId }

def isRegistered (objectId : UInt32) (m : ObjectSyncManager D) : Bool := m.objects.contains objectId

def registeredObjectIds (m : ObjectSyncManager D) : List UInt32 := m.objects.keys

/-- Record a pose of a registered object. Who owns the object is not asked here. -/
def submitLocalPose (objectId : UInt32) (pose : PoseTransform D) (m : ObjectSyncManager D) :
    ObjectSyncManager D :=
  match m.objects[objectId]? with
  | none => m
  | some entry =>
    { m with objects := m.objects.insert objectId { entry with localPose := some pose } }

/-! ### Sending -/

section Tick

variable [Double D]

/-- The pose of an entry that is due, if the object is owned and a pose is to be sent now. -/
def duePose (localClientNo : ℤ) (now sendInterval : D) (entry : ObjectEntry D) :
    Option (PoseTransform D) :=
  if entry.state.ownerClientNo ≠ localClientNo then none
  else
    match entry.localPose with
    | none => none
    | some pose =>
      if Double.lt (now - entry.lastSendTime) sendInterval then none
      -- only on change, with a heartbeat so that a late joiner still learns the pose
      else if entry.lastSentPose.any (posesEqual pose) &&
          Double.lt (now - entry.lastSendTime) kHeartbeatIntervalSeconds then none
      else some pose

/-- The entry after its pose was sent. -/
def markSent (now : D) (pose : PoseTransform D) (entry : ObjectEntry D) : ObjectEntry D :=
  { entry with
    sendPoseSeq := entry.sendPoseSeq + 1
    lastSendTime := now
    lastSentPose := some pose }

/-- The payload that publishes a pose. -/
def posePayload (deviceId : Bytes) (objectId : UInt32) (seq : UInt16) (pose : PoseTransform D) :
    Bytes :=
  serializeObjectPose
    { deviceId := deviceId
      objectId := objectId
      poseSeq := seq
      position := pose.position
      rotation := pose.rotation }

def sendIntervalOf (transformSendRate : D) : D :=
  Double.lit 1 / Double.max (Double.lit (1 / 2)) transformSendRate

/-- One round of the loop of `tick`. -/
def tickEntry (send : UInt32 → Bytes → ω → ω) (m : ObjectSyncManager D) (now sendInterval : D)
    (acc : OrderedMap UInt32 (ObjectEntry D) × ω) (pair : UInt32 × ObjectEntry D) :
    OrderedMap UInt32 (ObjectEntry D) × ω :=
  match duePose m.localClientNo now sendInterval pair.2 with
  | none => acc
  | some pose =>
    let entry := markSent now pose pair.2
    (acc.1.insert pair.1 entry,
      send pair.1 (posePayload m.localDeviceId pair.1 entry.sendPoseSeq pose) acc.2)

/-- Send due poses for objects this client owns. -/
def tick (send : Option (UInt32 → Bytes → ω → ω)) (now transformSendRate : D)
    (m : ObjectSyncManager D) (w : ω) : ObjectSyncManager D × ω :=
  if m.localClientNo = 0 then (m, w)
  else
    match send with
    | none => (m, w)
    | some send =>
      let result :=
        m.objects.toList.foldl (tickEntry send m now (sendIntervalOf transformSendRate))
          (m.objects, w)
      ({ m with objects := result.1 }, result.2)

end Tick

/-! ### Ownership -/

def sendOwnershipRequest (callbacks : Callbacks ω) (objectId : UInt32)
    (operation : OwnershipOperation) (m : ObjectSyncManager D) (w : ω) : Bool × ω :=
  if objectId = 0 then (false, w)
  else
    callbacks.trySend
      (.objectOwnershipRequest
        { deviceId := m.localDeviceId, operationType := operation.code, objectId := objectId }) w

def requestOwnership (callbacks : Callbacks ω) (objectId : UInt32) (m : ObjectSyncManager D)
    (w : ω) : Bool × ω :=
  m.sendOwnershipRequest callbacks objectId .request w

def releaseOwnership (callbacks : Callbacks ω) (objectId : UInt32) (m : ObjectSyncManager D)
    (w : ω) : Bool × ω :=
  m.sendOwnershipRequest callbacks objectId .release w

/-- One object of a room-objects broadcast. Only objects this client does not own take their pose
from it; the owner is authoritative for its own transform. -/
def handleRoomObject (broadcastTime : UInt64) (acc : ObjectSyncManager D × List OwnershipChange)
    (state : RoomObjectState D) : ObjectSyncManager D × List OwnershipChange :=
  match acc.1.objects[state.objectId]? with
  | none => acc
  | some entry =>
    let previousOwner := entry.state.ownerClientNo
    let newOwner : ℤ := state.ownerClientNo.toNat
    let owned := { entry.state with ownerClientNo := newOwner }
    let changes :=
      if previousOwner ≠ newOwner then
        acc.2 ++ [⟨state.objectId, newOwner, previousOwner⟩]
      else acc.2
    let told :=
      if newOwner ≠ acc.1.localClientNo ∨ acc.1.localClientNo = 0 then
        { owned with
          poseSeq := state.poseSeq
          poseTime := state.poseTime
          broadcastTime := broadcastTime
          pose := ⟨state.position, state.rotation⟩
          hasPose := true }
      else owned
    ({ acc.1 with objects := acc.1.objects.insert state.objectId { entry with state := told } },
      changes)

/-- Apply a room-objects broadcast, with the ownership transitions it brings. -/
def handleRoomObjects (message : RoomObjectsMessage D) (m : ObjectSyncManager D) :
    ObjectSyncManager D × List OwnershipChange :=
  message.objects.foldl (handleRoomObject message.broadcastTime) (m, [])

/-- Apply an ownership message. Taking ownership forgets the previous send state, so that the first
pose this client publishes is not suppressed by the only-on-change check. -/
def handleOwnershipChanged [Double D] (message : ObjectOwnershipChangedMessage)
    (m : ObjectSyncManager D) : ObjectSyncManager D × OwnershipChange :=
  let change : OwnershipChange :=
    { objectId := message.objectId
      newOwnerClientNo := message.newOwnerClientNo.toNat
      previousOwnerClientNo := message.previousOwnerClientNo.toNat }
  match m.objects[message.objectId]? with
  | none => (m, change)
  | some entry =>
    let owned :=
      { entry with state := { entry.state with ownerClientNo := change.newOwnerClientNo } }
    let armed :=
      if change.newOwnerClientNo = m.localClientNo ∧ m.localClientNo ≠ 0 then
        { owned with lastSentPose := none, lastSendTime := kNeverSent }
      else owned
    ({ m with objects := m.objects.insert message.objectId armed }, change)

def handleOwnershipRejected (message : ObjectOwnershipRejectedMessage) : OwnershipRejection where
  objectId := message.objectId
  currentOwnerClientNo := message.currentOwnerClientNo.toNat
  reasonCode := message.reasonCode.toNat

def getState (objectId : UInt32) (m : ObjectSyncManager D) : Option (ObjectState D) :=
  m.objects[objectId]?.map ObjectEntry.state

def ownerOf (objectId : UInt32) (m : ObjectSyncManager D) : ℤ :=
  (m.objects[objectId]?.map fun entry ↦ entry.state.ownerClientNo).getD 0

def isOwnedByLocal (objectId : UInt32) (m : ObjectSyncManager D) : Bool :=
  m.ownerOf objectId ≠ 0 && m.ownerOf objectId = m.localClientNo

/-- The entry after its room is left: submitted poses stay. -/
def clearEntry [Double D] (entry : ObjectEntry D) : ObjectEntry D :=
  { entry with
    state :=
      { entry.state with
        ownerClientNo := 0
        hasPose := false
        poseSeq := 0
        poseTime := 0
        broadcastTime := 0 }
    lastSentPose := none
    lastSendTime := kNeverSent
    sendPoseSeq := 0 }

/-- Reset ownership and send state without forgetting the registrations. -/
def clearRoomScopedState [Double D] (m : ObjectSyncManager D) : ObjectSyncManager D :=
  { m with objects := m.objects.map fun _ entry ↦ clearEntry entry }

theorem get?_clearRoomScopedState [Double D] (m : ObjectSyncManager D) (objectId : UInt32) :
    m.clearRoomScopedState.objects[objectId]? = m.objects[objectId]?.map clearEntry := by
  rw [clearRoomScopedState, Std.ExtTreeMap.getElem?_map]

end ObjectSyncManager

end StylyNetSync
