import StylyNetSync.Protocol.Messages

/-!
# Deserialisers

Each `deserialize_*` of the source reads fields from a fresh `BinaryReader`, consults `ok()` where
the source does, and returns false by rejecting. A message is returned only on success; what a
failed call leaves in its output parameter is not modelled, since no caller looks at it.

The reader keeps returning zeros after an overrun, so the places of `check` matter: counts and flags
are consulted only behind one.
-/

namespace StylyNetSync

variable {D : Type}

/-- Message type byte, or zero when the payload is empty. -/
def peekMessageType (data : Bytes) : UInt8 := data.headD 0

/-- The reader's flag, read without returning. -/
def readerOk : Read Bool := fun c ↦ (some c.ok, c)

/-- Consume the message-type byte and verify it, then optionally the version byte. -/
def beginMessage (expectedType : UInt8) (hasVersion : Bool) : Read Unit := do
  let type ← readU8
  if type ≠ expectedType then Scan.fail
  else if hasVersion then do
    let version ← readU8
    if version ≠ kProtocolVersion then Scan.fail else Scan.check
  else Scan.check

/-! ### Pose body -/

/-- An absolute position of three 24-bit words. -/
def absolutePosition [Double D] (x y z : ℤ) : Vec3 D :=
  ⟨dequantizeSigned x kAbsPosScale, dequantizeSigned y kAbsPosScale,
    dequantizeSigned z kAbsPosScale⟩

/-- A locomotion position of three 16-bit words. -/
def locomotionPosition [Double D] (x y z : Int16) : Vec3 D :=
  ⟨dequantizeSigned x.toInt kLocoPosScale, dequantizeSigned y.toInt kLocoPosScale,
    dequantizeSigned z.toInt kLocoPosScale⟩

/-- A hand or virtual transform, reconstructed from its words relative to the head. -/
def relativeTransform [Double D] (headPos : Vec3 D) (headRot : Quat D) (rx ry rz : Int16)
    (packed : UInt32) : PoseTransform D :=
  let relRot := decompressQuaternionSmallestThree packed
  { position :=
      ⟨headPos.x + dequantizeSigned rx.toInt kRelPosScale,
        headPos.y + dequantizeSigned ry.toInt kRelPosScale,
        headPos.z + dequantizeSigned rz.toInt kRelPosScale⟩
    rotation := normalizeQuaternion (quaternionMultiply headRot relRot) }

/-- The relative encoding shared by hands and virtuals; an overrun leaves the default transform. -/
def readRelative [Double D] (headPos : Vec3 D) (headRot : Quat D) : Read (PoseTransform D) := do
  let rx ← readI16
  let ry ← readI16
  let rz ← readI16
  let packed ← readU32
  let ok ← readerOk
  pure (if ok then relativeTransform headPos headRot rx ry rz packed else PoseTransform.default)

/-- The four words of the locomotion block. A delta without its encoding flag is rejected rather
than mis-decoded. -/
def readLocomotion (flags encodingFlags : UInt8) : Read (Int16 × Int16 × Int16 × Int16) :=
  if hasFlag flags PoseFlag.physicalValid then
    if !hasFlag flags PoseFlag.movingFloorLocal &&
        !hasFlag encodingFlags EncodingFlag.physicalIsXrOriginDelta then Scan.fail
    else do
      let dx ← readI16
      let dy ← readI16
      let dz ← readI16
      let dyaw ← readI16
      pure (dx, dy, dz, dyaw)
  else pure (0, 0, 0, 0)

/-- The head transform, or the default one when the flags declare no head. -/
def readHead [Double D] (flags : UInt8) : Read (PoseTransform D) :=
  if hasFlag flags PoseFlag.headValid then do
    let hx ← readI24
    let hy ← readI24
    let hz ← readI24
    let packedHead ← readU32
    Scan.check
    pure ⟨absolutePosition hx hy hz, decompressQuaternionSmallestThree packedHead⟩
  else pure PoseTransform.default

/-- The physical pose, reconstructed from the locomotion words and the head. Without a head a delta
is unreconstructible and the pose stays at the default. -/
def reconstructPhysical [DoubleTrig D] (flags : UInt8) (deltaPosition : Vec3 D) (deltaYaw : D)
    (dx dy dz dyaw : Int16) (head : PoseTransform D) : PoseTransform D :=
  let physicalValid := hasFlag flags PoseFlag.physicalValid
  if physicalValid && hasFlag flags PoseFlag.movingFloorLocal then
    { position := locomotionPosition dx dy dz
      rotation := yawDegreesToQuaternion (dequantizeSigned dyaw.toInt kPhysicalYawScale) }
  else if physicalValid && hasFlag flags PoseFlag.headValid then
    let translated : Vec3 D :=
      ⟨head.position.x - deltaPosition.x, head.position.y - deltaPosition.y,
        head.position.z - deltaPosition.z⟩
    let headYaw := quaternionToYawDegrees head.rotation
    { position := rotateYawVector translated (-deltaYaw)
      rotation := yawDegreesToQuaternion (normalizeYawDegrees (headYaw - deltaYaw)) }
  else PoseTransform.default

/-- One of the optional hands. -/
def readHand [Double D] (valid : Bool) (head : PoseTransform D) : Read (PoseTransform D) :=
  if valid then readRelative head.position head.rotation else pure PoseTransform.default

/-- One virtual transform, with the check the loop makes after it. -/
def readVirtual [Double D] (head : PoseTransform D) : Read (PoseTransform D) := do
  let entry ← readRelative head.position head.rotation
  Scan.check
  pure entry

/-- The virtual transforms: at most fifty are read, and without the flag they are consumed and
discarded. -/
def readVirtuals [Double D] (flags : UInt8) (head : PoseTransform D) :
    Read (List (PoseTransform D)) := do
  let virtualCount ← readU8
  Scan.check
  let entries ← Scan.repeatN (min virtualCount.toNat kMaxVirtualTransforms) (readVirtual head)
  pure (if hasFlag flags PoseFlag.headValid && hasFlag flags PoseFlag.virtualsValid then entries
    else [])

def readPoseBody [DoubleTrig D] : Read (ClientPoseBody D) := do
  let poseSeq ← readU16
  let flags ← readU8
  let encodingFlags ← readU8
  Scan.check
  let headValid := hasFlag flags PoseFlag.headValid
  let (dx, dy, dz, dyaw) ← readLocomotion flags encodingFlags
  let isDelta := hasFlag flags PoseFlag.physicalValid && !hasFlag flags PoseFlag.movingFloorLocal
  let deltaPosition : Vec3 D := if isDelta then locomotionPosition dx dy dz else Vec3.zero
  let deltaYaw : D :=
    if isDelta then dequantizeSigned dyaw.toInt kPhysicalYawScale else Double.lit 0
  let head ← readHead flags
  let rightHand ← readHand (headValid && hasFlag flags PoseFlag.rightValid) head
  let leftHand ← readHand (headValid && hasFlag flags PoseFlag.leftValid) head
  let virtuals ← readVirtuals flags head
  Scan.check
  pure
    { poseSeq := poseSeq
      flags := flags
      encodingFlags := encodingFlags
      xrOriginDeltaPosition := deltaPosition
      xrOriginDeltaYaw := deltaYaw
      physical := reconstructPhysical flags deltaPosition deltaYaw dx dy dz dyaw head
      head := head
      rightHand := rightHand
      leftHand := leftHand
      virtuals := virtuals }

/-! ### Messages -/

def deserializeClientHello : Read ClientHelloMessage := do
  beginMessage MessageType.clientHello.code true
  let flags ← readU8
  let deviceId ← readString8
  Scan.check
  pure { deviceId := deviceId, flags := flags }

def deserializeClientPose [DoubleTrig D] : Read (ClientPoseMessage D) := do
  beginMessage MessageType.clientPose.code true
  let deviceId ← readString8
  Scan.check
  let body ← readPoseBody
  pure { deviceId := deviceId, body := body }

def readRoomPoseClient [DoubleTrig D] : Read (RoomPoseClient D) := do
  let clientNo ← readU16
  let poseTime ← readF64
  Scan.check
  let body ← readPoseBody
  pure { clientNo := clientNo, poseTime := poseTime, body := body }

def deserializeRoomPose [DoubleTrig D] : Read (RoomPoseMessage D) := do
  beginMessage MessageType.roomPose.code true
  let roomId ← readString8
  let broadcastTime ← readF64
  let clientCount ← readU16
  Scan.check
  let clients ← Scan.repeatN clientCount.toNat readRoomPoseClient
  Scan.check
  pure { roomId := roomId, broadcastTime := broadcastTime, clients := clients }

def deserializeRpc : Read RpcMessage := do
  beginMessage MessageType.rpc.code false
  let senderClientNo ← readU16
  let deviceId ← readString8
  let targetCount ← readU8
  Scan.check
  let targetClientNos ← Scan.repeatN targetCount.toNat readU16
  let functionName ← readString8
  let argumentsJson ← readString16
  Scan.check
  pure
    { senderClientNo := senderClientNo
      deviceId := deviceId
      targetClientNos := targetClientNos
      functionName := functionName
      argumentsJson := argumentsJson }

def readDeviceIdMappingEntry : Read DeviceIdMappingEntry := do
  let clientNo ← readU16
  let stealth ← readU8
  let deviceId ← readString8
  Scan.check
  pure { clientNo := clientNo, deviceId := deviceId, isStealth := stealth == 0x01 }

def deserializeDeviceIdMapping : Read DeviceIdMappingMessage := do
  beginMessage MessageType.deviceIdMapping.code false
  let major ← readU8
  let minor ← readU8
  let patch ← readU8
  let count ← readU16
  Scan.check
  let mappings ← Scan.repeatN count.toNat readDeviceIdMappingEntry
  Scan.check
  pure
    { serverVersionMajor := major
      serverVersionMinor := minor
      serverVersionPatch := patch
      mappings := mappings }

def deserializeGlobalVarSet : Read GlobalVarSetMessage := do
  beginMessage MessageType.globalVarSet.code false
  let senderClientNo ← readU16
  let deviceId ← readString8
  let variableName ← readString8
  let variableValue ← readString16
  Scan.check
  pure
    { senderClientNo := senderClientNo
      deviceId := deviceId
      variableName := variableName
      variableValue := variableValue }

def readVariableEntry : Read NetworkVariableEntry := do
  let name ← readString8
  let value ← readString16
  let lastWriterClientNo ← readU16
  Scan.check
  pure { name := name, value := value, lastWriterClientNo := lastWriterClientNo }

def deserializeGlobalVarSync : Read GlobalVarSyncMessage := do
  beginMessage MessageType.globalVarSync.code false
  let count ← readU16
  Scan.check
  let entries ← Scan.repeatN count.toNat readVariableEntry
  Scan.check
  pure { vars := entries }

def deserializeClientVarSet : Read ClientVarSetMessage := do
  beginMessage MessageType.clientVarSet.code false
  let senderClientNo ← readU16
  let deviceId ← readString8
  let targetClientNo ← readU16
  let variableName ← readString8
  let variableValue ← readString16
  Scan.check
  pure
    { senderClientNo := senderClientNo
      deviceId := deviceId
      targetClientNo := targetClientNo
      variableName := variableName
      variableValue := variableValue }

def readClientBlock : Read (UInt16 × List NetworkVariableEntry) := do
  let clientNo ← readU16
  let varCount ← readU16
  Scan.check
  let entries ← Scan.repeatN varCount.toNat readVariableEntry
  pure (clientNo, entries)

def deserializeClientVarSync : Read ClientVarSyncMessage := do
  beginMessage MessageType.clientVarSync.code false
  let clientCount ← readU16
  Scan.check
  let clients ← Scan.repeatN clientCount.toNat readClientBlock
  Scan.check
  pure { clients := clients }

def deserializeClientVarClear : Read ClientVarClearMessage := do
  beginMessage MessageType.clientVarClear.code false
  let senderClientNo ← readU16
  let deviceId ← readString8
  Scan.check
  pure { senderClientNo := senderClientNo, deviceId := deviceId }

def deserializeObjectPose [Double D] : Read (ObjectPoseMessage D) := do
  beginMessage MessageType.objectPose.code true
  let deviceId ← readString8
  let objectId ← readU32
  let poseSeq ← readU16
  let px ← readI24
  let py ← readI24
  let pz ← readI24
  let packed ← readU32
  Scan.check
  pure
    { deviceId := deviceId
      objectId := objectId
      poseSeq := poseSeq
      position := absolutePosition px py pz
      rotation := decompressQuaternionSmallestThree packed }

def readRoomObject [Double D] : Read (RoomObjectState D) := do
  let objectId ← readU32
  let ownerClientNo ← readU16
  let poseSeq ← readU16
  let poseTime ← readF64
  let px ← readI24
  let py ← readI24
  let pz ← readI24
  let packed ← readU32
  Scan.check
  pure
    { objectId := objectId
      ownerClientNo := ownerClientNo
      poseSeq := poseSeq
      poseTime := poseTime
      position := absolutePosition px py pz
      rotation := decompressQuaternionSmallestThree packed }

def deserializeRoomObjects [Double D] : Read (RoomObjectsMessage D) := do
  beginMessage MessageType.roomObjects.code true
  let broadcastTime ← readF64
  let objectCount ← readU16
  Scan.check
  let objects ← Scan.repeatN objectCount.toNat readRoomObject
  Scan.check
  pure { broadcastTime := broadcastTime, objects := objects }

def deserializeObjectOwnershipRequest : Read ObjectOwnershipRequestMessage := do
  beginMessage MessageType.objectOwnershipRequest.code true
  let deviceId ← readString8
  let operationType ← readU8
  let objectId ← readU32
  Scan.check
  pure { deviceId := deviceId, operationType := operationType, objectId := objectId }

def deserializeObjectOwnershipChanged : Read ObjectOwnershipChangedMessage := do
  beginMessage MessageType.objectOwnershipChanged.code false
  let objectId ← readU32
  let newOwnerClientNo ← readU16
  let previousOwnerClientNo ← readU16
  Scan.check
  pure
    { objectId := objectId
      newOwnerClientNo := newOwnerClientNo
      previousOwnerClientNo := previousOwnerClientNo }

def deserializeObjectOwnershipRejected : Read ObjectOwnershipRejectedMessage := do
  beginMessage MessageType.objectOwnershipRejected.code false
  let objectId ← readU32
  let currentOwnerClientNo ← readU16
  let reasonCode ← readU8
  Scan.check
  pure
    { objectId := objectId
      currentOwnerClientNo := currentOwnerClientNo
      reasonCode := reasonCode }

end StylyNetSync
