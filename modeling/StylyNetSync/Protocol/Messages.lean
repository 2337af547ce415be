import StylyNetSync.Protocol.PoseCodec

/-!
# Protocol messages and their serialisers

The message structures of `protocol_v8.hpp` and the bytes each `serialize_*` produces, as the list
of fields in the order they are written. Times that only travel are bit patterns; positions and
rotations are values of the floating-point type and are quantised while writing.

A counted list is preceded by its length cast to the width of the count field. The cast is the
source's own: a list that does not fit the field is written in full behind a count that wrapped
around. The exceptions are the target list of an RPC and the virtual transforms of a pose, which are
cut to what their count byte can say.
-/

namespace StylyNetSync

variable {D : Type}

/-! ### Message structures -/

/-- Position and rotation in wire coordinates. -/
structure PoseTransform (D : Type) where
  position : Vec3 D
  rotation : Quat D

/-- The default-constructed transform. -/
def PoseTransform.default {D : Type} [Double D] : PoseTransform D := ⟨Vec3.zero, Quat.identity⟩

/-- The pose body shared by the client pose and each record of the room pose. The encoding flags
are populated while reading and ignored while writing, where they are always derived. -/
structure ClientPoseBody (D : Type) where
  poseSeq : UInt16
  flags : UInt8
  encodingFlags : UInt8
  xrOriginDeltaPosition : Vec3 D
  xrOriginDeltaYaw : D
  physical : PoseTransform D
  head : PoseTransform D
  rightHand : PoseTransform D
  leftHand : PoseTransform D
  virtuals : List (PoseTransform D)

structure ClientHelloMessage where
  deviceId : Bytes
  flags : UInt8
  deriving DecidableEq

structure ClientPoseMessage (D : Type) where
  deviceId : Bytes
  body : ClientPoseBody D

structure RoomPoseClient (D : Type) where
  clientNo : UInt16
  poseTime : UInt64
  body : ClientPoseBody D

structure RoomPoseMessage (D : Type) where
  roomId : Bytes
  broadcastTime : UInt64
  clients : List (RoomPoseClient D)

structure RpcMessage where
  senderClientNo : UInt16
  deviceId : Bytes
  /-- Empty means the whole room, the sender included. -/
  targetClientNos : List UInt16
  functionName : Bytes
  argumentsJson : Bytes
  deriving DecidableEq

structure DeviceIdMappingEntry where
  clientNo : UInt16
  deviceId : Bytes
  isStealth : Bool
  deriving DecidableEq

structure DeviceIdMappingMessage where
  serverVersionMajor : UInt8
  serverVersionMinor : UInt8
  serverVersionPatch : UInt8
  mappings : List DeviceIdMappingEntry
  deriving DecidableEq

structure GlobalVarSetMessage where
  senderClientNo : UInt16
  deviceId : Bytes
  variableName : Bytes
  variableValue : Bytes
  deriving DecidableEq

structure ClientVarSetMessage where
  senderClientNo : UInt16
  deviceId : Bytes
  targetClientNo : UInt16
  variableName : Bytes
  variableValue : Bytes
  deriving DecidableEq

structure ClientVarClearMessage where
  senderClientNo : UInt16
  deviceId : Bytes
  deriving DecidableEq

structure NetworkVariableEntry where
  name : Bytes
  value : Bytes
  lastWriterClientNo : UInt16
  deriving DecidableEq

structure GlobalVarSyncMessage where
  vars : List NetworkVariableEntry
  deriving DecidableEq

/-- One authoritative snapshot per client number, in wire order. -/
structure ClientVarSyncMessage where
  clients : List (UInt16 × List NetworkVariableEntry)
  deriving DecidableEq

structure ObjectPoseMessage (D : Type) where
  deviceId : Bytes
  objectId : UInt32
  poseSeq : UInt16
  position : Vec3 D
  rotation : Quat D

structure RoomObjectState (D : Type) where
  objectId : UInt32
  ownerClientNo : UInt16
  poseSeq : UInt16
  poseTime : UInt64
  position : Vec3 D
  rotation : Quat D

structure RoomObjectsMessage (D : Type) where
  broadcastTime : UInt64
  objects : List (RoomObjectState D)

structure ObjectOwnershipRequestMessage where
  deviceId : Bytes
  operationType : UInt8
  objectId : UInt32
  deriving DecidableEq

structure ObjectOwnershipChangedMessage where
  objectId : UInt32
  newOwnerClientNo : UInt16
  previousOwnerClientNo : UInt16
  deriving DecidableEq

structure ObjectOwnershipRejectedMessage where
  objectId : UInt32
  currentOwnerClientNo : UInt16
  reasonCode : UInt8
  deriving DecidableEq

/-! ### Flag helpers -/

/-- Whether a flag bit is set. -/
def hasFlag (flags flag : UInt8) : Bool := flags &&& flag != 0

/-- Stealth collapses to the stealth bit alone; without a head the head-relative bits are
cleared. -/
def sanitizePoseFlags (flags : UInt8) : UInt8 :=
  if hasFlag flags PoseFlag.stealth then PoseFlag.stealth
  else if !hasFlag flags PoseFlag.headValid then
    flags &&& ~~~(PoseFlag.rightValid ||| PoseFlag.leftValid ||| PoseFlag.virtualsValid)
  else flags

/-- The encoding-flags byte derived from sanitised pose flags. -/
def computeEncodingFlags (flags : UInt8) : UInt8 :=
  if hasFlag flags PoseFlag.movingFloorLocal then
    EncodingFlag.flagsDefault &&& ~~~EncodingFlag.physicalIsXrOriginDelta
  else EncodingFlag.flagsDefault

/-! ### Field groups -/

/-- Names are sliced by code point before encoding. -/
def clampVariableName (name : Bytes) : Bytes := truncateUtf8CodePoints name kMaxVariableNameChars

/-- Values are sliced by code point before encoding. -/
def clampVariableValue (value : Bytes) : Bytes :=
  truncateUtf8CodePoints value kMaxVariableValueChars

/-- One entry of a variable sync. -/
def writeVariableEntry (entry : NetworkVariableEntry) : Bytes :=
  [writeString8 (clampVariableName entry.name),
    writeString16 (clampVariableValue entry.value),
    writeU16 entry.lastWriterClientNo].flatten

section Poses

variable [Double D]

/-- The absolute position and rotation of an object pose. -/
def writeObjectTransform (position : Vec3 D) (rotation : Quat D) : Bytes :=
  [writeI24 (quantizeSignedInt24 position.x kAbsPosScale),
    writeI24 (quantizeSignedInt24 position.y kAbsPosScale),
    writeI24 (quantizeSignedInt24 position.z kAbsPosScale),
    writeU32 (compressQuaternionSmallestThree rotation)].flatten

/-- Hands and virtuals share one encoding, relative to the head. -/
def writeRelative (headPosition : Vec3 D) (invHeadRot : Quat D) (transform : PoseTransform D) :
    Bytes :=
  let rot := normalizeQuaternion transform.rotation
  let relRot := quaternionMultiply invHeadRot rot
  [writeI16 (quantizeSigned (transform.position.x - headPosition.x) kRelPosScale),
    writeI16 (quantizeSigned (transform.position.y - headPosition.y) kRelPosScale),
    writeI16 (quantizeSigned (transform.position.z - headPosition.z) kRelPosScale),
    writeU32 (compressQuaternionSmallestThree relRot)].flatten

end Poses

/-- The locomotion block: three positions and a yaw at 16 bits each. -/
def writeLocomotion [Double D] (position : Vec3 D) (yaw : D) : Bytes :=
  [writeI16 (quantizeSigned position.x kLocoPosScale),
    writeI16 (quantizeSigned position.y kLocoPosScale),
    writeI16 (quantizeSigned position.z kLocoPosScale),
    writeI16 (quantizeSigned yaw kPhysicalYawScale)].flatten

def writePoseBody [DoubleTrig D] (body : ClientPoseBody D) : Bytes :=
  let flags := sanitizePoseFlags body.flags
  let encodingFlags := computeEncodingFlags flags
  let physicalValid := hasFlag flags PoseFlag.physicalValid
  let headValid := hasFlag flags PoseFlag.headValid
  let rightValid := headValid && hasFlag flags PoseFlag.rightValid
  let leftValid := headValid && hasFlag flags PoseFlag.leftValid
  let virtualValid := headValid && hasFlag flags PoseFlag.virtualsValid
  let movingFloorLocal := hasFlag flags PoseFlag.movingFloorLocal
  let headRotNormalized := normalizeQuaternion body.head.rotation
  let invHeadRot := quaternionInverse headRotNormalized
  let virtualCount := if virtualValid then min body.virtuals.length kMaxVirtualTransforms else 0
  [writeU16 body.poseSeq,
    writeU8 flags,
    writeU8 encodingFlags,
    if physicalValid then
      if movingFloorLocal then
        writeLocomotion body.physical.position (quaternionToYawDegrees body.physical.rotation)
      else writeLocomotion body.xrOriginDeltaPosition body.xrOriginDeltaYaw
    else [],
    if headValid then writeObjectTransform body.head.position headRotNormalized else [],
    if rightValid then writeRelative body.head.position invHeadRot body.rightHand else [],
    if leftValid then writeRelative body.head.position invHeadRot body.leftHand else [],
    -- the count byte is always there, also without the flag
    writeU8 (UInt8.ofNat virtualCount),
    (body.virtuals.take virtualCount).flatMap (writeRelative body.head.position invHeadRot)].flatten

/-! ### Client to server -/

def serializeClientHello (deviceId : Bytes) (isStealth : Bool) : Bytes :=
  [writeU8 MessageType.clientHello.code,
    writeU8 kProtocolVersion,
    writeU8 (if isStealth then kClientHelloFlagStealth else 0),
    writeString8 deviceId].flatten

def serializeClientPose [DoubleTrig D] (message : ClientPoseMessage D) : Bytes :=
  [writeU8 MessageType.clientPose.code,
    writeU8 kProtocolVersion,
    writeString8 message.deviceId,
    writePoseBody message.body].flatten

def serializeStealthHandshakePose (deviceId : Bytes) : Bytes :=
  [writeU8 MessageType.clientPose.code,
    writeU8 kProtocolVersion,
    writeString8 deviceId,
    writeU16 0,
    writeU8 PoseFlag.stealth,
    writeU8 EncodingFlag.flagsDefault,
    writeU8 0].flatten

def serializeRpc (message : RpcMessage) : Bytes :=
  let targetCount := min message.targetClientNos.length 255
  [writeU8 MessageType.rpc.code,
    writeU16 message.senderClientNo,
    writeString8 message.deviceId,
    writeU8 (UInt8.ofNat targetCount),
    (message.targetClientNos.take targetCount).flatMap writeU16,
    writeString8 message.functionName,
    writeString16 message.argumentsJson].flatten

def serializeGlobalVarSet (message : GlobalVarSetMessage) : Bytes :=
  [writeU8 MessageType.globalVarSet.code,
    writeU16 message.senderClientNo,
    writeString8 message.deviceId,
    writeString8 (clampVariableName message.variableName),
    writeString16 (clampVariableValue message.variableValue)].flatten

def serializeClientVarSet (message : ClientVarSetMessage) : Bytes :=
  [writeU8 MessageType.clientVarSet.code,
    writeU16 message.senderClientNo,
    writeString8 message.deviceId,
    writeU16 message.targetClientNo,
    writeString8 (clampVariableName message.variableName),
    writeString16 (clampVariableValue message.variableValue)].flatten

def serializeClientVarClear (message : ClientVarClearMessage) : Bytes :=
  [writeU8 MessageType.clientVarClear.code,
    writeU16 message.senderClientNo,
    writeString8 message.deviceId].flatten

def serializeObjectPose [Double D] (message : ObjectPoseMessage D) : Bytes :=
  [writeU8 MessageType.objectPose.code,
    writeU8 kProtocolVersion,
    writeString8 message.deviceId,
    writeU32 message.objectId,
    writeU16 message.poseSeq,
    writeObjectTransform message.position message.rotation].flatten

def serializeObjectOwnershipRequest (message : ObjectOwnershipRequestMessage) : Bytes :=
  [writeU8 MessageType.objectOwnershipRequest.code,
    writeU8 kProtocolVersion,
    writeString8 message.deviceId,
    writeU8 message.operationType,
    writeU32 message.objectId].flatten

/-! ### Server-originated -/

def writeRoomPoseClient [DoubleTrig D] (client : RoomPoseClient D) : Bytes :=
  [writeU16 client.clientNo, writeF64 client.poseTime, writePoseBody client.body].flatten

def serializeRoomPose [DoubleTrig D] (message : RoomPoseMessage D) : Bytes :=
  [writeU8 MessageType.roomPose.code,
    writeU8 kProtocolVersion,
    writeString8 message.roomId,
    writeF64 message.broadcastTime,
    writeU16 (UInt16.ofNat message.clients.length),
    message.clients.flatMap writeRoomPoseClient].flatten

def writeDeviceIdMappingEntry (entry : DeviceIdMappingEntry) : Bytes :=
  [writeU16 entry.clientNo,
    writeU8 (if entry.isStealth then 0x01 else 0x00),
    writeString8 entry.deviceId].flatten

def serializeDeviceIdMapping (message : DeviceIdMappingMessage) : Bytes :=
  [writeU8 MessageType.deviceIdMapping.code,
    writeU8 message.serverVersionMajor,
    writeU8 message.serverVersionMinor,
    writeU8 message.serverVersionPatch,
    writeU16 (UInt16.ofNat message.mappings.length),
    message.mappings.flatMap writeDeviceIdMappingEntry].flatten

def serializeGlobalVarSync (message : GlobalVarSyncMessage) : Bytes :=
  [writeU8 MessageType.globalVarSync.code,
    writeU16 (UInt16.ofNat message.vars.length),
    message.vars.flatMap writeVariableEntry].flatten

def writeClientBlock (client : UInt16 × List NetworkVariableEntry) : Bytes :=
  [writeU16 client.1,
    writeU16 (UInt16.ofNat client.2.length),
    client.2.flatMap writeVariableEntry].flatten

def serializeClientVarSync (message : ClientVarSyncMessage) : Bytes :=
  [writeU8 MessageType.clientVarSync.code,
    writeU16 (UInt16.ofNat message.clients.length),
    message.clients.flatMap writeClientBlock].flatten

def writeRoomObject [Double D] (object : RoomObjectState D) : Bytes :=
  [writeU32 object.objectId,
    writeU16 object.ownerClientNo,
    writeU16 object.poseSeq,
    writeF64 object.poseTime,
    writeObjectTransform object.position object.rotation].flatten

def serializeRoomObjects [Double D] (message : RoomObjectsMessage D) : Bytes :=
  [writeU8 MessageType.roomObjects.code,
    writeU8 kProtocolVersion,
    writeF64 message.broadcastTime,
    writeU16 (UInt16.ofNat message.objects.length),
    message.objects.flatMap writeRoomObject].flatten

def serializeObjectOwnershipChanged (message : ObjectOwnershipChangedMessage) : Bytes :=
  [writeU8 MessageType.objectOwnershipChanged.code,
    writeU32 message.objectId,
    writeU16 message.newOwnerClientNo,
    writeU16 message.previousOwnerClientNo].flatten

def serializeObjectOwnershipRejected (message : ObjectOwnershipRejectedMessage) : Bytes :=
  [writeU8 MessageType.objectOwnershipRejected.code,
    writeU32 message.objectId,
    writeU16 message.currentOwnerClientNo,
    writeU8 message.reasonCode].flatten

end StylyNetSync
